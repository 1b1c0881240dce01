import MusicPlayer.Effects

/-! `src/utils/JWTUtil.cpp`, over the operations of jwt-cpp. -/
namespace MusicPlayer.JWTUtil

open Resumption Program

/-- `m_issuer`, which nothing sets. -/
def issuer : String := "auth0"

/-- `system_clock::to_time_t`. -/
def toTimeT (t : Time) : Int := Int.tdiv t 1000000000

/-- `payload_claims[name] = claim`. -/
def setClaim (payload : List (String × Claim)) (name : String) (claim : Claim) :
    List (String × Claim) :=
  payload.filter (·.1 != name) ++ [(name, claim)]

/-- What the builder of `generateToken` holds before signing. `claims` are the entries of
the `std::map`, in key order. -/
def buildToken (now : Time) (subject : String) (claims : List (String × String))
    (validFor : Int) : Token :=
  let payload := [("iss", .string issuer), ("iat", .date (toTimeT now)),
    ("exp", .date (toTimeT (now + seconds validFor))), ("sub", .string subject)]
  { algorithm := "HS256"
    type := some "JWT"
    payload := claims.foldl (fun payload claim =>
      setClaim payload claim.1 (.string claim.2)) payload }

def generateToken (sys : System) (subject : String) (claims : List (String × String))
    (validFor : Int) : Prog String := do
  let now ← trigger (.now .generateToken)
  return sys.jwt.sign sys.jwtSecret (buildToken now subject claims validFor)

/-- `jwt::decode`, which throws on text that is no token. -/
def decode (sys : System) (token : String) : Prog Token :=
  match sys.jwt.decode token with
  | some decoded => .ret decoded
  | none => .raise .stdException

/-- A date claim within the leeway of `verify`; an absent one is not checked. -/
def dateAllows (payload : List (String × Claim)) (name : String) (allows : Time → Bool) : Bool :=
  match payload.lookup name with
  | none => true
  | some (.date s) => allows (seconds s)
  | some _ => false

/-- `verifier.verify(decoded)` of the verifier that `verifyToken` builds. -/
def verify (sys : System) (now : Time) (token : String) (decoded : Token) : Bool :=
  let leeway := seconds 60
  decoded.algorithm == "HS256" && sys.jwt.verifySignature sys.jwtSecret token &&
    decoded.payload.lookup "iss" == some (.string issuer) &&
    dateAllows decoded.payload "exp" (fun exp => !decide (exp + leeway < now)) &&
    dateAllows decoded.payload "iat" (fun iat => !decide (now < iat - leeway)) &&
    dateAllows decoded.payload "nbf" (fun nbf => !decide (now < nbf - leeway))

def isTokenExpired (sys : System) (token : String) : Prog Bool := do
  let decoded ← decode sys token
  match decoded.payload.lookup "exp" with
  | some (.date exp) =>
    let now ← trigger (.now .isTokenExpired)
    return decide (seconds exp < now)
  -- `get_expires_at` of a token without the claim throws.
  | _ => .raise .stdException

/-- The token itself if it is accepted, empty text otherwise. -/
def verifyToken (sys : System) (token : String) : Prog String :=
  tryCatch (do
    let decoded ← decode sys token
    let now ← trigger (.now .verifyToken)
    if !verify sys now token decoded then
      .raise .stdException
    -- `verify` has a leeway of 60 seconds, this comparison has none.
    if ← isTokenExpired sys token then
      return ""
    return token) fun
  | .stdException => .ret ""
  | exn => .raise exn

def getClaim (sys : System) (token claimName : String) : Prog String := do
  let decoded ← decode sys token
  match decoded.payload.lookup claimName with
  | some (.string s) => return s
  | _ => .raise .stdException

end MusicPlayer.JWTUtil
