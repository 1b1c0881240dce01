import MusicPlayer.Effects

/-!
# A reference instance of the parameters

Executable stand-ins for what the server is linked against, so that requests can be run and
what is assumed of the libraries is seen to be consistent. Tokens are printed in a plain
text format instead of base64, and are signed by naming the secret.
-/
namespace MusicPlayer.Reference

/-! ### Fields as text -/

/-- Every character is escaped, so that a field may hold the separator. -/
def printField (field : List Char) : List Char := field.flatMap (fun c => ['=', c]) ++ [';']

def printFields (fields : List (List Char)) : List Char := fields.flatMap printField

/-- Read fields, with the characters of the one begun so far. -/
def readFields : List Char → List Char → Option (List (List Char))
  | '=' :: c :: rest, begun => readFields rest (begun ++ [c])
  | ';' :: rest, begun => (readFields rest []).map (begun :: ·)
  | [], [] => some []
  | _, _ => none

theorem readFields_field (field rest begun : List Char) :
    readFields (printField field ++ rest) begun =
      (readFields rest []).map ((begun ++ field) :: ·) := by
  unfold printField
  induction field generalizing begun with
  | nil => simp [readFields]
  | cons c field ih =>
    simp only [List.flatMap_cons, List.cons_append, List.nil_append, readFields]
    rw [ih, List.append_assoc]
    rfl

theorem readFields_printFields (fields : List (List Char)) :
    readFields (printFields fields) [] = some fields := by
  induction fields with
  | nil => rfl
  | cons field fields ih =>
    rw [printFields, List.flatMap_cons, readFields_field]
    rw [printFields] at ih
    rw [ih]
    rfl

/-! ### Tokens -/

def printClaim : Claim → List Char
  | .string s => 's' :: s.toList
  | .date d => (if d < 0 then '-' else '+') :: Nat.toDigits 10 d.natAbs
  | .other => []

def readClaim : List Char → Option Claim
  | 's' :: chars => some (.string (String.ofList chars))
  | '-' :: digits => some (.date (-(leadingDigits digits : Int)))
  | '+' :: digits => some (.date (leadingDigits digits))
  | [] => some .other
  | _ => none

theorem readClaim_printClaim (claim : Claim) : readClaim (printClaim claim) = some claim := by
  cases claim with
  | string s => simp [printClaim, readClaim]
  | date d =>
    by_cases negative : d < 0
    · simp only [printClaim, negative, if_true, readClaim, leadingDigits_toDigits]
      congr 2
      omega
    · simp only [printClaim, negative, if_false, readClaim, leadingDigits_toDigits]
      congr 2
      omega
  | other => rfl

def printPayload (payload : List (String × Claim)) : List (List Char) :=
  payload.flatMap fun claim => [claim.1.toList, printClaim claim.2]

def readPayload : List (List Char) → Option (List (String × Claim))
  | name :: claim :: rest => do
    let value ← readClaim claim
    let payload ← readPayload rest
    return (String.ofList name, value) :: payload
  | [] => some []
  | [_] => none

theorem readPayload_printPayload (payload : List (String × Claim)) :
    readPayload (printPayload payload) = some payload := by
  induction payload with
  | nil => rfl
  | cons claim payload ih =>
    simp only [printPayload, List.flatMap_cons, List.cons_append, List.nil_append, readPayload,
      readClaim_printClaim, Option.bind_eq_bind, Option.bind_some, String.ofList_toList]
    rw [printPayload] at ih
    rw [ih]
    rfl

def printType : Option String → List Char
  | some type => 't' :: type.toList
  | none => []

def readType : List Char → Option String
  | _ :: type => some (String.ofList type)
  | [] => none

theorem readType_printType (type : Option String) : readType (printType type) = type := by
  cases type with
  | some type => simp [printType, readType]
  | none => rfl

def sign (secret : String) (token : Token) : String :=
  String.ofList (printFields (secret.toList :: token.algorithm.toList :: printType token.type ::
    printPayload token.payload))

def decode (text : String) : Option Token := do
  let _ :: algorithm :: type :: payload ← readFields text.toList [] | none
  return ⟨String.ofList algorithm, readType type, ← readPayload payload⟩

theorem decode_sign (secret : String) (token : Token) :
    decode (sign secret token) = some token := by
  simp [decode, sign, readFields_printFields, readPayload_printPayload, readType_printType]

/-- A text is signed with a secret when signing what it says gives it back. -/
def verifySignature (secret text : String) : Bool :=
  match decode text with
  | some token => sign secret token == text
  | none => false

def jwt : JwtCpp := ⟨sign, decode, verifySignature⟩

theorem jwt_lawful : jwt.Lawful where
  decode_sign := decode_sign
  verify_sign secret token := by simp [jwt, verifySignature, decode_sign]
  signed_of_verify secret text verified := by
    simp only [jwt, verifySignature] at verified
    split at verified
    next token _ => exact ⟨token, (beq_iff_eq.mp verified).symm⟩
    · cases verified

/-! ### JSON -/

/-- The texts between the quotation marks, with the characters of the one begun so far. -/
def splitQuotes : List Char → List Char → List String
  | [], begun => [String.ofList begun]
  | c :: rest, begun =>
    if c = '"' then String.ofList begun :: splitQuotes rest []
    else splitQuotes rest (begun ++ [c])

def readMembers : List String → Option (List (String × Json))
  | [key, ":", value, "\x7d"] => some [(key, .string value)]
  | key :: ":" :: value :: "," :: rest => ((key, .string value) :: ·) <$> readMembers rest
  | _ => none

/-- Objects of strings, written without blanks and escapes; other text is refused. -/
def parse (text : String) : Option Json :=
  match splitQuotes text.toList [] with
  | "\x7b" :: rest => (.object ·) <$> readMembers rest
  | _ => none

/-- The text of such an object. -/
def object (members : List (String × String)) : String :=
  "\x7b" ++ ",".intercalate (members.map fun m => "\"" ++ m.1 ++ "\":\"" ++ m.2 ++ "\"") ++ "\x7d"

theorem splitQuotes_append {chars : List Char} (plain : '"' ∉ chars) (rest begun : List Char) :
    splitQuotes (chars ++ '"' :: rest) begun =
      String.ofList (begun ++ chars) :: splitQuotes rest [] := by
  induction chars generalizing begun with
  | nil => simp [splitQuotes]
  | cons c chars ih =>
    rw [List.mem_cons, not_or] at plain
    simp only [List.cons_append, splitQuotes, if_neg (Ne.symm plain.1)]
    rw [ih plain.2, List.append_assoc]
    rfl

theorem object_single (key text : String) : object [(key, text)] =
    "\x7b" ++ ("\"" ++ key ++ "\":\"" ++ text ++ "\"") ++ "\x7d" := rfl

theorem object_toList (key text : String) : (object [(key, text)]).toList =
    ['\x7b'] ++ '"' :: (key.toList ++ '"' ::
      ([':'] ++ '"' :: (text.toList ++ '"' :: ['\x7d']))) := by
  simp [object_single]

/-- A member without quotation marks is read back. -/
theorem parse_object {key text : String} (plainKey : '"' ∉ key.toList)
    (plainText : '"' ∉ text.toList) :
    parse (object [(key, text)]) = some (.object [(key, .string text)]) := by
  rw [parse, object_toList, splitQuotes_append (by decide), splitQuotes_append plainKey,
    splitQuotes_append (by decide), splitQuotes_append plainText]
  simp [splitQuotes, readMembers]

theorem size_object (key text : String) :
    (object [(key, text)]).utf8ByteSize = key.utf8ByteSize + text.utf8ByteSize + 7 := by
  have brace : "\x7b".utf8ByteSize = 1 := rfl
  have quote : "\"".utf8ByteSize = 1 := rfl
  have colon : "\":\"".utf8ByteSize = 3 := rfl
  have close : "\x7d".utf8ByteSize = 1 := rfl
  simp only [object_single, String.utf8ByteSize_append, brace, quote, colon, close]
  omega

/-- A digest that tells passwords apart by their first bytes. -/
def digest (password : String) : Digest :=
  Vector.ofFn fun i => (password.toUTF8.toList.getD i 0)

/-- A server with a code expiry of five minutes. -/
def system : System where
  parse := Reference.parse
  jwt := Reference.jwt
  sha256 := Reference.digest
  collate := id
  formatTimestamp _ := "1970-01-01 00:00:00"
  jwtSecret := "secret"
  codeExpiry := 300
  emailFrom := "noreply@music.example"

def request (method : Verb) (target : String) (members : List (String × String))
    (token : String) : HttpRequest where
  method := method
  target := target
  fields := [("Authorization", token)]
  body := object members

/-- A request at one instant, in which nothing fails and every digit drawn is 0. -/
def env (now : Time) : Env where
  clock _ := now

theorem env_filesNeverFail (now : Time) : (env now).FilesNeverFail :=
  ⟨fun _ => rfl, fun _ => rfl, fun _ => rfl, fun _ => rfl⟩

/-- A server with one user. -/
def oneUser : World where
  db := { users := { rows := [⟨1, "bob", "x", "a@b.c", none, none, 0, 0⟩], autoInc := 2 } }

end MusicPlayer.Reference
