import MusicPlayer.Effects

/-! `src/utils/EmailUtil.cpp`: the verification code and the mail that carries it. -/
namespace MusicPlayer.EmailUtil

open Resumption Program

/-- The message handed to curl: three headers, an empty line, the body. -/
def composeMessage (sys : System) (toEmail subject body : String) : String :=
  "To: " ++ toEmail ++ "\r\n" ++
  "From: " ++ sys.emailFrom ++ "\r\n" ++
  "Subject: " ++ subject ++ "\r\n\r\n" ++
  body

def sendTextEmail (sys : System) (toEmail subject body : String) : Prog Bool := do
  let curl ← trigger .curlInit
  if !curl then return false
  trigger (.curlPerform ⟨toEmail, composeMessage sys toEmail subject body⟩)

/-- `EmailData`. The pointer is the offset into the content that `sendTextEmail` keeps alive while
curl performs. -/
structure EmailData where
  data : Nat
  sizeLeft : Nat
  deriving DecidableEq

/-- What `sendTextEmail` gives to curl with `CURLOPT_READDATA`. -/
def emailData (content : List UInt8) : EmailData where
  data := 0
  sizeLeft := content.length

/-- `memcpy(ptr, src, n)` with `src` inside the content: a read beyond its end or a write beyond the
buffer is a fault. -/
def memcpy (ptr content : List UInt8) (src n : Nat) : Option (List UInt8) := do
  guard (src + n ≤ content.length ∧ n ≤ ptr.length)
  return (content.drop src).take n ++ ptr.drop n

/-- The returned number, the buffer and `*email_data` after the call. -/
def readCallback (content ptr : List UInt8) (size nmemb : Nat) (emailData : EmailData) :
    Option (Nat × List UInt8 × EmailData) := do
  -- `size_t` wraps around.
  let bufferSize := size * nmemb % 2 ^ 64
  if emailData.sizeLeft = 0 then return (0, ptr, emailData)
  let copySize := min bufferSize emailData.sizeLeft
  let ptr ← memcpy ptr content emailData.data copySize
  return (copySize, ptr, {
    data := emailData.data + copySize
    sizeLeft := emailData.sizeLeft - copySize })

/-- The loop of `generateVerificationCode` from iteration `i` on. -/
def generateLoop (code : String) (i : Nat) : Nat → Prog String
  | 0 => return code
  | left + 1 => do
    let digit ← trigger (.uniformDigit i)
    generateLoop (code ++ stdToString (Int32.ofNat digit)) (i + 1) left

def generateVerificationCode (length : Nat) : Prog String := generateLoop "" 0 length

/-- The code the loop draws under an environment. -/
def drawnCode (digit : Nat → Fin 10) (code : String) (i : Nat) : Nat → String
  | 0 => code
  | left + 1 => drawnCode digit (code ++ stdToString (Int32.ofNat (digit i))) (i + 1) left

end MusicPlayer.EmailUtil
