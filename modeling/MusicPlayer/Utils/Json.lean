/-!
# JSON values and HTTP messages

The values of nlohmann-json and the messages of Beast, as far as the handlers look at
them. A string is valid UTF-8, since the parser rejects anything else.
-/
namespace MusicPlayer

inductive Json where
  | null
  | boolean (b : Bool)
  | numberInteger (n : Int)
  | numberFloat (literal : String)
  | string (s : String)
  | array (items : List Json)
  | object (members : List (String × Json))

namespace Json

/-- `contains` is false on everything but an object. -/
def contains (j : Json) (key : String) : Bool :=
  match j with
  | .object members => members.any (·.1 == key)
  | _ => false

/-- `std::string s = j[key]`: `none` is the `type_error` of a non-object, or of a value
that is not a string. -/
def string? (j : Json) (key : String) : Option String :=
  match j with
  | .object members =>
    match members.lookup key with
    | some (.string s) => some s
    | _ => none
  | _ => none

/-- `contains(key)` and then `j[key]`. -/
def member? (j : Json) (key : String) : Option Json :=
  match j with
  | .object members => members.lookup key
  | _ => none

/-- `j[key]` where `is_number_integer` is true of it, for either signedness. -/
def integer? (j : Json) (key : String) : Option Int :=
  match j.member? key with
  | some (.numberInteger n) => some n
  | _ => none

end Json

inductive Verb where
  | get
  | post
  | other (name : String)
  deriving DecidableEq, Repr

inductive Status where
  | ok
  | badRequest
  | unauthorized
  | notFound
  | conflict
  | internalServerError
  deriving DecidableEq, Repr

structure HttpRequest where
  method : Verb
  target : String
  version : Nat := 11
  fields : List (String × String) := []
  body : String := ""
  deriving DecidableEq, Repr

/-- `req[name]`: the first field of that name, compared without case, or empty text. -/
def HttpRequest.field (req : HttpRequest) (name : String) : String :=
  match req.fields.find? fun field => field.1.toLower == name.toLower with
  | some field => field.2
  | none => ""

/-- The body is kept as the value that `dump` prints. -/
structure HttpResponse where
  status : Status
  version : Nat
  fields : List (String × String)
  body : Json

namespace HttpResponse

def set (res : HttpResponse) (name value : String) : HttpResponse :=
  { res with fields := res.fields ++ [(name, value)] }

def authorization (res : HttpResponse) : Option String := res.fields.lookup "Authorization"

end HttpResponse

namespace JsonUtil

def commonFields : List (String × String) :=
  [("Content-Type", "application/json"), ("Server", "MusicPlayer-BackEnd")]

def buildErrorResponse (status : Status) (version : Nat) (message : String) : HttpResponse :=
  ⟨status, version, commonFields, .object [("error", .string message)]⟩

def buildSuccessResponse (version : Nat) (json : Json) : HttpResponse :=
  ⟨.ok, version, commonFields, json⟩

/-- `json{{"code", 200}, {"message", message}}`. -/
def success (message : String) : Json :=
  .object [("code", .numberInteger 200), ("message", .string message)]

@[simp] theorem buildErrorResponse_status (status : Status) (version : Nat) (message : String) :
    (buildErrorResponse status version message).status = status := rfl

@[simp] theorem buildSuccessResponse_status (version : Nat) (json : Json) :
    (buildSuccessResponse version json).status = .ok := rfl

@[simp] theorem buildSuccessResponse_body (version : Nat) (json : Json) :
    (buildSuccessResponse version json).body = json := rfl

end JsonUtil

end MusicPlayer
