import MusicPlayer.Handlers.UserHandler

/-! `src/server/Router.cpp` and the routes of `src/server/main.cpp`. -/
namespace MusicPlayer

open Resumption Program JsonUtil

abbrev RouterHandler := HttpRequest → Prog HttpResponse

structure Router where
  routerGet : List (String × RouterHandler) := []
  routerPost : List (String × RouterHandler) := []

namespace Router

/-- A later route for the same target takes the place of an earlier one. -/
def addRouter (router : Router) (method : Verb) (url : String) (handler : RouterHandler) :
    Router :=
  match method with
  | .get => { router with routerGet := (url, handler) :: router.routerGet }
  | .post => { router with routerPost := (url, handler) :: router.routerPost }
  | .other _ => router

def find (router : Router) (method : Verb) (target : String) : Option RouterHandler :=
  match method with
  | .get => router.routerGet.lookup target
  | .post => router.routerPost.lookup target
  | .other _ => none

def handleRouter (router : Router) (request : HttpRequest) : Prog HttpResponse :=
  match router.find request.method request.target with
  | some handler => handler request
  | none => .ret (buildErrorResponse .notFound request.version "Not found")

end Router

/-- A route that answers every request with the same body. -/
def fixedAnswer (body : Json) : RouterHandler := fun request =>
  .ret (buildSuccessResponse request.version body)

/-- `json{{text}}` is an array in an array, `json{{"msg", text}}` an object. -/
def bracedText (text : String) : Json := .array [.array [.string text]]

def messageObject (key text : String) : Json := .object [(key, .string text)]

def setupRoutes (sys : System) : Router :=
  ({} : Router)
  |>.addRouter .get "/" (fixedAnswer (messageObject "message" "Welcome to HarmonyOS Music Player!"))
  |>.addRouter .post "/users/register" (UserHandler.handleRegister sys)
  |>.addRouter .post "/users/verify_code" (UserHandler.handleGetVerifyCode sys)
  |>.addRouter .post "/users/login" (UserHandler.handleLogin sys)
  |>.addRouter .get "/users/info" (UserHandler.handleGetProfile sys)
  |>.addRouter .post "/users/avatar" (UserHandler.handleUpdateAvatar sys)
  |>.addRouter .get "/users/avatar" (UserHandler.handleGetAvatar sys)
  |>.addRouter .post "/users/password" (UserHandler.handleChangePassword sys)
  |>.addRouter .post "/users/bind" (UserHandler.handleBindPlatform sys)
  |>.addRouter .post "/playlists" (fixedAnswer (bracedText "Playlists retrieved successfully"))
  |>.addRouter .post "/playlists/songs" (fixedAnswer (bracedText "All songs in playlist retrieved"))
  |>.addRouter .post "/playlists/add" (fixedAnswer (messageObject "msg" "Song added to playlist"))
  |>.addRouter .post "/playlists/erase"
    (fixedAnswer (messageObject "msg" "Song removed from playlist"))
  |>.addRouter .post "/playlists/create" (fixedAnswer (bracedText "Playlist created successfully"))
  |>.addRouter .post "/playlists/delete"
    (fixedAnswer (messageObject "msg" "Playlist deleted successfully"))
  |>.addRouter .post "/history" (fixedAnswer (bracedText "All songs in history retrieved"))
  |>.addRouter .post "/history/add" (fixedAnswer (bracedText "Song added to history"))
  |>.addRouter .post "/history/erase"
    (fixedAnswer (messageObject "msg" "Song removed from history"))
  |>.addRouter .post "/history/clear" (fixedAnswer (bracedText "History cleared"))
  |>.addRouter .post "/history/like" (fixedAnswer (bracedText "Most played songs retrieved"))

end MusicPlayer
