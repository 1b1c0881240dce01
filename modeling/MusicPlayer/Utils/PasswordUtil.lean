import MusicPlayer.Utils.Text

/-! Password hashing: SHA-256 printed as lower-case hexadecimal text. -/
namespace MusicPlayer

/-- `std::array<uint8_t, SHA256_DIGEST_LENGTH>`. -/
abbrev Digest := Vector UInt8 32

namespace PasswordUtil

/-- The loop of `to_hex_string`, one byte at a time. -/
def hexLoop (oss : OStream) : List UInt8 → OStream
  | [] => oss
  | i :: rest => hexLoop (((oss.hex.setw 2).setfill '0').putInt i.toNat) rest

def toHexString (data : Digest) : String := (hexLoop {} data.toList).str

/-- `EVP_sha256` is the parameter `sha256`. -/
def hashPassword (sha256 : String → Digest) (password : String) : String :=
  toHexString (sha256 password)

def verifyPassword (sha256 : String → Digest) (password hashedPassword : String) : Bool :=
  hashPassword sha256 password == hashedPassword

/-- What one iteration of the loop prints. -/
def hexByte (i : UInt8) : List Char :=
  let digits := Nat.toDigits 16 i.toNat
  List.replicate (2 - digits.length) '0' ++ digits

theorem hexLoop_chars (oss : OStream) (data : List UInt8) :
    (hexLoop oss data).chars = oss.chars ++ data.flatMap hexByte := by
  induction data generalizing oss with
  | nil => simp [hexLoop]
  | cons i rest ih =>
    rw [hexLoop, ih]
    simp [OStream.putInt, OStream.hex, OStream.setw, OStream.setfill, hexByte]

def hexValue (c : Char) : Nat := if c.isDigit then c.toNat - 48 else c.toNat - 87

def unhex : List Char → Option Nat
  | [a, b] => some (hexValue a * 16 + hexValue b)
  | _ => none

theorem unhex_hexByte : ∀ n < 256, unhex (hexByte (UInt8.ofNat n)) = some n := by decide +kernel

/-- Two characters for every byte, from which the byte can be read back. -/
theorem hexByte_spec (i : UInt8) : ∃ a b, hexByte i = [a, b] ∧
    hexValue a * 16 + hexValue b = i.toNat := by
  have back := unhex_hexByte i.toNat i.toNat_lt
  rw [UInt8.ofNat_toNat] at back
  unfold unhex at back
  split at back
  · next a b shape => exact ⟨a, b, shape, Option.some.inj back⟩
  · cases back

theorem flatMap_hexByte_injective (xs ys : List UInt8)
    (equal : xs.flatMap hexByte = ys.flatMap hexByte) : xs = ys := by
  induction xs generalizing ys with
  | nil =>
    cases ys with
    | nil => rfl
    | cons y ys => obtain ⟨a, b, shape, -⟩ := hexByte_spec y; simp [shape] at equal
  | cons x xs ih =>
    obtain ⟨a, b, shape, value⟩ := hexByte_spec x
    cases ys with
    | nil => simp [shape] at equal
    | cons y ys =>
      obtain ⟨c, d, shape', value'⟩ := hexByte_spec y
      simp only [List.flatMap_cons, shape, shape', List.cons_append, List.nil_append,
        List.cons.injEq] at equal
      obtain ⟨rfl, rfl, rest⟩ := equal
      rw [UInt8.toNat_inj.mp (value.symm.trans value'), ih ys rest]

theorem toHexString_injective : Function.Injective toHexString := by
  intro a b equal
  have chars := congrArg String.toList equal
  simp only [toHexString, OStream.str, String.toList_ofList, hexLoop_chars,
    List.nil_append] at chars
  exact Vector.toList_inj.mp (flatMap_hexByte_injective _ _ chars)

/-- Comparing stored strings is comparing digests. -/
theorem verifyPassword_iff (sha256 : String → Digest) (password stored : String) :
    verifyPassword sha256 password (hashPassword sha256 stored) = true ↔
      sha256 password = sha256 stored := by
  simp only [verifyPassword, hashPassword, beq_iff_eq, toHexString_injective.eq_iff]

end PasswordUtil

end MusicPlayer
