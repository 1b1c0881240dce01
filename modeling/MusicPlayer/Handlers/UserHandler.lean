import MusicPlayer.Database.UserDAO
import MusicPlayer.Server.VerifyService
import MusicPlayer.Utils.JWTUtil
import Mathlib.Computability.RegularExpressions

/-! `src/handlers/UserHandler.cpp`. -/
namespace MusicPlayer.UserHandler

open Resumption Program JsonUtil

section EmailFormat

open RegularExpression

/-- A bracket expression: any of the characters. -/
def anyOf (chars : List Char) : RegularExpression Char :=
  chars.foldr (fun c rest => char c + rest) 0

/-- `r+` -/
def oneOrMore (r : RegularExpression Char) : RegularExpression Char := r * star r

def alphanumeric : List Char :=
  "abcdefghijklmnopqrstuvwxyzABCDEFGHIJKLMNOPQRSTUVWXYZ0123456789".toList

def localChars : List Char := alphanumeric ++ ['_', '.', '+', '-']

def domainChars : List Char := alphanumeric ++ ['-']

def hostChars : List Char := alphanumeric ++ ['-', '.']

/-- `(^[a-zA-Z0-9_.+-]+@[a-zA-Z0-9-]+\.[a-zA-Z0-9-.]+$)` -/
def emailRegex : RegularExpression Char :=
  oneOrMore (anyOf localChars) * char '@' * oneOrMore (anyOf domainChars) * char '.' *
    oneOrMore (anyOf hostChars)

/-- `std::regex_match` of the whole string. It is taken to return, however long the string is; an
implementation that recurses may run out of stack. -/
def isValidEmail (email : String) : Bool := emailRegex.rmatch email.toList

end EmailFormat

/-- The two `catch` clauses around every handler. -/
def catching (version : Nat) (body : Prog HttpResponse) : Prog HttpResponse :=
  tryCatch body fun
  | .jsonException => .ret (buildErrorResponse .badRequest version "Invalid JSON format")
  | .nullDeref => .raise .nullDeref
  | .danglingRead => .raise .danglingRead
  | _ => .ret (buildErrorResponse .internalServerError version "Internal server error")

def parseBody (sys : System) (req : HttpRequest) : Prog Json :=
  match sys.parse req.body with
  | some j => .ret j
  | none => .raise .jsonException

/-- `std::string s = j[key];` -/
def stringField (j : Json) (key : String) : Prog String :=
  match j.string? key with
  | some s => .ret s
  | none => .raise .jsonException

def avatarDirectory : String := "./avatars"

def avatarPath (userId : Int32) : String := avatarDirectory ++ "/" ++ stdToString userId

def handleGetVerifyCode (sys : System) (req : HttpRequest) : Prog HttpResponse :=
  catching req.version do
    let j ← parseBody sys req
    if !j.contains "email" || !j.contains "action" then
      return buildErrorResponse .badRequest req.version "Missing email or action"
    -- A member that is not a string throws, which `catching` turns into a 400.
    let email ← stringField j "email"
    let action ← stringField j "action"
    if !isValidEmail email then
      return buildErrorResponse .badRequest req.version "Invalid email format"
    -- One store serves both actions; the action is a field of the entry.
    if action == "register" || action == "reset_password" then
      if ← VerifyService.sendVerifyCode sys email action then
        return buildSuccessResponse req.version (success "Verification code sent")
      return buildErrorResponse .internalServerError req.version
        "Failed to send verification code"
    return buildErrorResponse .badRequest req.version "Invalid action"

def handleRegister (sys : System) (req : HttpRequest) : Prog HttpResponse :=
  catching req.version do
    let j ← parseBody sys req
    if !j.contains "username" || !j.contains "password" || !j.contains "email" ||
        !j.contains "verify_code" then
      return buildErrorResponse .badRequest req.version
        "Missing username or password or email or verify_code"
    let username ← stringField j "username"
    let password ← stringField j "password"
    let email ← stringField j "email"
    let verifyCode ← stringField j "verify_code"
    if !(← VerifyService.verifyCode email "register" verifyCode) then
      return buildErrorResponse .badRequest req.version "Invalid verification code"
    -- The email is not looked up; a taken one is left to the UNIQUE key of the table.
    if (← UserDAO.getUserByUsername sys username).isSome then
      return buildErrorResponse .conflict req.version "Username already exists"
    let (created, user) ← UserDAO.createUser sys { username, passwdHash := password, email }
    if !created then
      return buildErrorResponse .internalServerError req.version "Failed to create user"
    return buildSuccessResponse req.version (.object [("code", .numberInteger 200),
      ("message", .string "User registered successfully"),
      ("user_id", .numberInteger user.id.toInt)])

/-- The user object in the answers of login and profile. -/
def userJson (user : User) : Json :=
  .object [("id", .numberInteger user.id.toInt), ("username", .string user.username),
    ("email", .string user.email), ("create_at", .string user.createAt),
    ("qq_id", .string user.qqId), ("netease_id", .string user.neteaseId)]

/-- The claims of a login token, in key order, and its lifetime of 120 days in seconds. -/
def loginClaims (user : User) : List (String × String) :=
  [("email", user.email), ("id", stdToString user.id)]

def loginLifetime : Int := 24 * 120 * 3600

def handleLogin (sys : System) (req : HttpRequest) : Prog HttpResponse :=
  catching req.version do
    let j ← parseBody sys req
    if !j.contains "username" || !j.contains "password" then
      return buildErrorResponse .badRequest req.version "Missing username or password"
    let username ← stringField j "username"
    let password ← stringField j "password"
    match ← UserDAO.getUserByUsername sys username with
    | none => return buildErrorResponse .notFound req.version "User not found"
    | some user =>
      if !PasswordUtil.verifyPassword sys.sha256 password user.passwdHash then
        return buildErrorResponse .unauthorized req.version "Incorrect password"
      -- The id travels as text; `tokenUserId` reads it back.
      let token ← JWTUtil.generateToken sys user.username (loginClaims user) loginLifetime
      let body : Json := .object [("code", .numberInteger 200),
        ("message", .string "Login successful"), ("user", userJson user)]
      return (buildSuccessResponse req.version body).set "Authorization" token

/-- The user id of an accepted token: `atoi(getClaim(token, "id"))`. -/
def tokenUserId (sys : System) (token : String) : Prog Int32 := do
  return atoi (← JWTUtil.getClaim sys token "id")

def handleGetProfile (sys : System) (req : HttpRequest) : Prog HttpResponse :=
  catching req.version do
    let token ← JWTUtil.verifyToken sys (req.field "Authorization")
    -- The empty string is how `verifyToken` says no.
    if token.isEmpty then
      return buildErrorResponse .unauthorized req.version "Invalid token"
    let userId ← tokenUserId sys token
    match ← UserDAO.getUserById sys userId with
    | none => return buildErrorResponse .notFound req.version "User not found"
    | some user =>
      return buildSuccessResponse req.version (.object [("code", .numberInteger 200),
        ("message", .string "User profile retrieved successfully"), ("user", userJson user)])

def handleUpdateAvatar (sys : System) (req : HttpRequest) : Prog HttpResponse :=
  catching req.version do
    let token ← JWTUtil.verifyToken sys (req.field "Authorization")
    if token.isEmpty then
      return buildErrorResponse .unauthorized req.version "Invalid token"
    let j ← parseBody sys req
    if !j.contains "avatar_data" then
      return buildErrorResponse .badRequest req.version "Missing avatar_data"
    let avatarData ← stringField j "avatar_data"
    -- The limit is on the text of the request, not on a decoded image.
    if avatarData.utf8ByteSize > 1024 * 1024 then
      return buildErrorResponse .badRequest req.version "Avatar data requires not more than 1MB"
    let userId ← tokenUserId sys token
    if !(← ofExcept (← trigger (.fileExists avatarDirectory))) then
      ofExcept (← trigger (.createDirectory avatarDirectory))
    if !(← trigger (.openOut (avatarPath userId))) then
      return buildErrorResponse .internalServerError req.version "Failed to save avatar"
    -- The stream state is not looked at after the write and the close.
    trigger (.writeFile (avatarPath userId) avatarData.toUTF8)
    trigger (.closeOut (avatarPath userId))
    return buildSuccessResponse req.version (success "Avatar updated successfully")

def handleGetAvatar (sys : System) (req : HttpRequest) : Prog HttpResponse :=
  catching req.version do
    let token ← JWTUtil.verifyToken sys (req.field "Authorization")
    if token.isEmpty then
      return buildErrorResponse .unauthorized req.version "Invalid token"
    let userId ← tokenUserId sys token
    if !(← ofExcept (← trigger (.fileExists (avatarPath userId)))) then
      return buildErrorResponse .notFound req.version "Avatar not found"
    if !(← trigger (.openIn (avatarPath userId))) then
      return buildErrorResponse .internalServerError req.version "Failed to read avatar"
    let avatarData ← trigger (.readFile (avatarPath userId))
    trigger (.closeFile (avatarPath userId))
    -- `dump` throws a `type_error` on text that is not UTF-8.
    match String.fromUTF8? avatarData with
    | none => .raise .jsonException
    | some text =>
      return buildSuccessResponse req.version (.object [("code", .numberInteger 200),
        ("message", .string "Avatar retrieved successfully"), ("avatar_data", .string text)])

def handleChangePassword (sys : System) (req : HttpRequest) : Prog HttpResponse :=
  catching req.version do
    let j ← parseBody sys req
    -- The message names a `user_id` too, but the user is that of the token.
    if !j.contains "new_password" || !j.contains "verify_code" || !j.contains "email" then
      return buildErrorResponse .badRequest req.version
        "Missing user_id or new_password or verify_code or email"
    let token ← JWTUtil.verifyToken sys (req.field "Authorization")
    if token.isEmpty then
      return buildErrorResponse .unauthorized req.version "Invalid token"
    let userId ← tokenUserId sys token
    let newPassword ← stringField j "new_password"
    let verifyCode ← stringField j "verify_code"
    let email ← stringField j "email"
    -- The address comes from the body and is not compared with the account.
    if !(← VerifyService.verifyCode email "reset_password" verifyCode) then
      return buildErrorResponse .badRequest req.version "Invalid verification code"
    if !(← UserDAO.updatePassword sys userId newPassword) then
      return buildErrorResponse .internalServerError req.version "Failed to update password"
    return buildSuccessResponse req.version (success "Password changed successfully")

def handleBindPlatform (sys : System) (req : HttpRequest) : Prog HttpResponse :=
  catching req.version do
    let token ← JWTUtil.verifyToken sys (req.field "Authorization")
    if token.isEmpty then
      return buildErrorResponse .unauthorized req.version "Invalid token"
    let userId ← tokenUserId sys token
    let j ← parseBody sys req
    if !j.contains "platform" || !j.contains "platform_id" then
      return buildErrorResponse .badRequest req.version "Missing platform or platform_id"
    let platform ← stringField j "platform"
    let platformId ← stringField j "platform_id"
    -- The UPDATE of a row that is not there throws nothing, so it counts as bound.
    if platform == "qq" then
      if !(← UserDAO.updateQQId userId platformId) then
        return buildErrorResponse .internalServerError req.version "Failed to bind QQ account"
    else if platform == "netease" then
      if !(← UserDAO.updateNetEaseId userId platformId) then
        return buildErrorResponse .internalServerError req.version
          "Failed to bind NetEase account"
    else
      return buildErrorResponse .badRequest req.version "Invalid platform"
    return buildSuccessResponse req.version (success "Platform account bound successfully")

end MusicPlayer.UserHandler
