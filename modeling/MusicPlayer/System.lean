import MusicPlayer.Utils.Json
import MusicPlayer.Utils.PasswordUtil
import MusicPlayer.Database.Schema

/-!
# What the server is configured with and linked against

The libraries that are not part of the repository are parameters: the JSON parser, jwt-cpp,
the hash function and the collation of the database. The rest is read from `config.json`.
-/
namespace MusicPlayer

/-- A claim of a token. Dates travel as whole seconds. -/
inductive Claim where
  | string (s : String)
  | date (seconds : Int)
  | other
  deriving DecidableEq, Repr

/-- A decoded token: header and payload. -/
structure Token where
  algorithm : String
  type : Option String
  payload : List (String × Claim)
  deriving DecidableEq, Repr

/-- The operations of jwt-cpp: `sign` prints and signs a token, `decode` throws on text
that is no token, `verifySignature` checks the signature alone. -/
structure JwtCpp where
  sign : (secret : String) → Token → String
  decode : String → Option Token
  verifySignature : (secret : String) → (token : String) → Bool

/-- What the server relies on of jwt-cpp: decoding returns what was signed, and only text
signed with a secret passes the check against that secret. -/
structure JwtCpp.Lawful (jwt : JwtCpp) : Prop where
  decode_sign : ∀ secret token, jwt.decode (jwt.sign secret token) = some token
  verify_sign : ∀ secret token, jwt.verifySignature secret (jwt.sign secret token) = true
  signed_of_verify : ∀ secret text, jwt.verifySignature secret text = true →
    ∃ token, text = jwt.sign secret token

structure System where
  /-- `json::parse`; `none` is a thrown `parse_error`. -/
  parse : String → Option Json
  jwt : JwtCpp
  sha256 : String → Digest
  /-- The collation of the database, as a key function. -/
  collate : String → String
  /-- How the database prints a `TIMESTAMP`. -/
  formatTimestamp : Timestamp → String
  /-- `jwt.secret` -/
  jwtSecret : String
  /-- `verify_service.verification_code_expiry`, in seconds -/
  codeExpiry : Int32
  /-- `verify_service.email_from` -/
  emailFrom : String

/-- What C++ code can throw, and the undefined behaviour that nothing catches. -/
inductive Exn where
  | sqlException
  | jsonException
  | stdException
  /-- A member call through a null connection pointer. -/
  | nullDeref
  /-- A read through a pointer to an erased map entry. -/
  | danglingRead
  deriving DecidableEq, Repr

end MusicPlayer
