import Mathlib.Algebra.Group.Int.Defs
import Mathlib.Data.List.TakeWhile

/-!
# Text conversions of the C and C++ standard library

`std::to_string(int)`, `atoi` and the formatted output of an `std::ostringstream`, as far
as the server uses them. `int` is 32 bits wide and `long` is 64 bits wide.
-/
namespace MusicPlayer

/-- `std::to_string(int)`. -/
def stdToString (n : Int32) : String :=
  let digits := Nat.toDigits 10 n.toInt.natAbs
  String.ofList (if n.toInt < 0 then '-' :: digits else digits)

/-- `isspace` of the "C" locale. -/
def isspace (c : Char) : Bool := c == ' ' || ('\t' ≤ c && c ≤ '\r')

def leadingDigits (chars : List Char) : Nat :=
  Nat.ofDigitChars 10 (chars.takeWhile Char.isDigit) 0

/-- `strtol` in base 10: blanks, a sign, digits up to the first other character, and
saturation at the ends of `long`. -/
def strtol (s : String) : Int :=
  match s.toList.dropWhile isspace with
  | '-' :: rest => max (-(2 ^ 63)) (-(leadingDigits rest : Int))
  | '+' :: rest => min (2 ^ 63 - 1) (leadingDigits rest)
  | rest => min (2 ^ 63 - 1) (leadingDigits rest)

/-- `atoi` is `strtol` cast to `int`. -/
def atoi (s : String) : Int32 := Int32.ofInt (strtol s)

theorem leadingDigits_toDigits (n : Nat) : leadingDigits (Nat.toDigits 10 n) = n := by
  have all : (Nat.toDigits 10 n).takeWhile Char.isDigit = Nat.toDigits 10 n :=
    List.takeWhile_eq_self_iff.mpr fun c member =>
      Nat.isDigit_of_mem_toDigits (by decide) (by decide) member
  rw [leadingDigits, all, Nat.ofDigitChars_ten_toDigits]

theorem isspace_of_isDigit {c : Char} (digit : c.isDigit = true) : isspace c = false := by
  have bounds : 48 ≤ c.val ∧ c.val ≤ 57 := by simpa [Char.isDigit] using digit
  have notBlank : c ≠ ' ' := by rintro rfl; simp at bounds
  have notControl : ¬c ≤ '\r' := fun small =>
    absurd (UInt32.le_trans bounds.1 (show c.val ≤ 13 from small)) (by decide)
  simp [isspace, notBlank, notControl]

theorem strtol_digits (n : Nat) (fits : (n : Int) < 2 ^ 63) :
    strtol (String.ofList (Nat.toDigits 10 n)) = n := by
  obtain ⟨c, rest, shape⟩ := List.exists_cons_of_ne_nil (Nat.toDigits_ne_nil (n := n) (b := 10))
  have digit : c.isDigit = true :=
    Nat.isDigit_of_mem_toDigits (b := 10) (n := n) (by decide) (by decide) (by simp [shape])
  have minus : c ≠ '-' := by rintro rfl; simp at digit
  have plus : c ≠ '+' := by rintro rfl; simp at digit
  have value := leadingDigits_toDigits n
  rw [shape] at value
  simp only [strtol, String.toList_ofList, shape, List.dropWhile_cons,
    isspace_of_isDigit digit, Bool.false_eq_true, if_false]
  split
  · next equal => exact absurd (List.cons.inj equal).1 minus
  · next equal => exact absurd (List.cons.inj equal).1 plus
  · rw [value]; omega

theorem strtol_minus_digits (n : Nat) (fits : (n : Int) ≤ 2 ^ 63) :
    strtol (String.ofList ('-' :: Nat.toDigits 10 n)) = -(n : Int) := by
  have skipped : ('-' :: Nat.toDigits 10 n).dropWhile isspace = '-' :: Nat.toDigits 10 n := by
    rw [List.dropWhile_cons]; rfl
  simp only [strtol, String.toList_ofList, skipped, leadingDigits_toDigits]
  omega

/-- Reading back a printed `int` gives the same `int`. -/
@[simp] theorem atoi_stdToString (n : Int32) : atoi (stdToString n) = n := by
  have low := Int32.le_toInt n
  have high := Int32.toInt_lt n
  suffices same : strtol (stdToString n) = n.toInt by rw [atoi, same, Int32.ofInt_toInt]
  unfold stdToString
  by_cases negative : n.toInt < 0
  · simp only [negative, if_true]
    rw [strtol_minus_digits _ (by omega)]
    omega
  · simp only [negative, if_false]
    rw [strtol_digits _ (by omega)]
    omega

theorem stdToString_injective : Function.Injective stdToString := fun a b equal => by
  rw [← atoi_stdToString a, equal, atoi_stdToString]

example : atoi " -42x" = -42 := by decide +kernel

/-- The formatting state of an output stream. -/
structure OStream where
  chars : List Char := []
  base : Nat := 10
  width : Nat := 0
  fill : Char := ' '

namespace OStream

def hex (os : OStream) : OStream := { os with base := 16 }

def setw (os : OStream) (width : Nat) : OStream := { os with width := width }

def setfill (os : OStream) (fill : Char) : OStream := { os with fill := fill }

/-- `os << n` for a non-negative `int`: padded on the left to the width, which is then
reset; base and fill stay set. -/
def putInt (os : OStream) (n : Nat) : OStream :=
  let digits := Nat.toDigits os.base n
  { os with
    chars := os.chars ++ (List.replicate (os.width - digits.length) os.fill ++ digits)
    width := 0 }

def str (os : OStream) : String := String.ofList os.chars

end OStream

end MusicPlayer
