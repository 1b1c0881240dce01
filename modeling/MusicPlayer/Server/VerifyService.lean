import MusicPlayer.Utils.EmailUtil

/-! `src/server/VerifyService.cpp`: the store of verification codes. -/
namespace MusicPlayer.VerifyService

open Resumption Program

def sendVerifyCode (sys : System) (toEmail action : String) : Prog Bool := do
  let verifyCode ← EmailUtil.generateVerificationCode 6
  let success ← EmailUtil.sendTextEmail sys toEmail "Verification Code"
    ("Your verification code is: " ++ verifyCode)
  if !success then return false
  -- Only a mailed code is stored; it replaces the entry of the address.
  trigger (.storeCode toEmail verifyCode (seconds sys.codeExpiry.toInt) action)
  return true

/-- The condition `verifyCode` returns, on the entry it found. -/
def accepts (info : VerifyInfo) (now : Time) (action verifyCode : String) : Bool :=
  !(decide (info.expireTime < now) || info.action != action || info.code != verifyCode)

/-- The entry is looked up under the lock and read after the lock is released. -/
def verifyCode (email action verifyCode : String) : Prog Bool := do
  match ← trigger (.findCode email) with
  | none => return false
  | some pInfo =>
    let now ← trigger (.now .verifyCode)
    let info ← ofExcept (← trigger (.derefCode pInfo))
    return accepts info now action verifyCode

def cleanupExpiredCodes : Prog Nat := do
  let now ← trigger (.now .cleanupExpiredCodes)
  trigger (.cleanupCodes now)

end MusicPlayer.VerifyService
