import Mathlib.Algebra.Group.Nat.Defs
import PropertyPath.Value.Basic

/-!
# Decimal digits of numbers

A natural number is read back from its decimal digits, and zeros in front of them make no
difference. So the digits of an integer of 64 bits are read as that integer, and a string that
consists of them denotes it as an index.
-/

namespace PropertyPath

namespace Reading

/-- A natural number is the value of its digits. -/
theorem natural_toDigits (n : Nat) : natural (Nat.toDigits 10 n) = n := by
  have read : Nat.ofDigitChars 10 (Nat.toDigits 10 n) 0 = n := Nat.ofDigitChars_ten_toDigits
  rwa [Nat.ofDigitChars_eq_foldl] at read

/-- Different numbers have different digits. -/
theorem eq_of_toString_eq {m n : Nat} (same : toString m = toString n) : m = n := by
  have digits : Nat.toDigits 10 m = Nat.toDigits 10 n := by
    rw [← Nat.toList_repr, ← Nat.toList_repr]
    exact congrArg String.toList same
  rw [← natural_toDigits m, digits, natural_toDigits]

/-- Zeros in front of digits do not change their value. -/
theorem natural_zeros_append (zeros : Nat) (digits : List Char) :
    natural (List.replicate zeros '0' ++ digits) = natural digits := by
  have nothing : natural (List.replicate zeros '0') = 0 := by
    have read : Nat.ofDigitChars 10 (List.replicate zeros '0') 0 = 10 ^ zeros * 0 :=
      Nat.ofDigitChars_replicate_zero
    rwa [Nat.ofDigitChars_eq_foldl, Nat.mul_zero] at read
  rw [natural, natural, List.foldl_append]
  rw [natural] at nothing
  rw [nothing]

/-- Digits begin with no sign. -/
theorem sign_of_digits {digits : List Char} (each : ∀ c ∈ digits, c.isDigit = true) :
    sign digits = (false, digits) := by
  unfold sign
  split
  next => exact absurd (each '-' List.mem_cons_self) (by decide)
  next => exact absurd (each '+' List.mem_cons_self) (by decide)
  next => rfl

/-- The digits of a natural number within the 64-bit range are read as that number. -/
theorem int64?_toDigits {n : Nat} (small : n < 2 ^ 63) :
    int64? (Nat.toDigits 10 n) = some (Int64.ofNat n) := by
  have each : ∀ c ∈ Nat.toDigits 10 n, c.isDigit = true := fun c member =>
    Nat.isDigit_of_mem_toDigits (by decide) (by decide) member
  have unsigned : sign (Nat.toDigits 10 n) = (false, Nat.toDigits 10 n) := sign_of_digits each
  have read : integer? (Nat.toDigits 10 n) = some (n : Int) := by
    simp [integer?, unsigned, Nat.toDigits_ne_nil, natural_toDigits]
    exact each
  have low : Int64.minValue.toInt = -9223372036854775808 := by decide
  have high : Int64.maxValue.toInt = 9223372036854775807 := by decide
  have inside : toInt64 (n : Int) = .ok (Int64.ofInt n) := by
    rw [toInt64, low, high, if_neg (by omega), if_neg (by omega)]
  rw [int64?, read, Option.bind_some, inside]
  rfl

end Reading

namespace Text

/-- Nothing is trimmed off a text without blank characters. -/
theorem trim_of_no_blank {text : List Char} (solid : ∀ c ∈ text, isBlank c = false) :
    trim text = text := by
  have kept : ∀ other : List Char, (∀ c ∈ other, isBlank c = false) → other.dropWhile isBlank = other := by
    intro other solid
    cases other with
    | nil => rfl
    | cons first rest => rw [List.dropWhile_cons_of_neg]; simp [solid first List.mem_cons_self]
  rw [trim, kept text solid, kept text.reverse fun c member => solid c (List.mem_reverse.1 member),
    List.reverse_reverse]

/-- No digit is trimmed off a numeral. -/
theorem isBlank_of_isDigit {c : Char} (digit : c.isDigit = true) : isBlank c = false := by
  have range : 48 ≤ c.toNat ∧ c.toNat ≤ 57 := by
    simpa [Char.isDigit, UInt32.le_iff_toNat_le] using digit
  simp only [isBlank, inRanges, blankRanges, List.any_eq_false]
  intro pair member
  simp only [List.mem_cons, List.not_mem_nil, or_false] at member
  rcases member with rfl | rfl | rfl | rfl | rfl | rfl | rfl | rfl | rfl | rfl <;> simp <;> omega

end Text

/-- The decimal spelling of a natural number denotes it as an index. -/
theorem Value.index?_toString {n : Nat} (small : n < 2 ^ 63) :
    (Value.string (toString n)).index? = some (Int64.ofNat n) := by
  have digits : (toString n).toList = Nat.toDigits 10 n := Nat.toList_repr
  have solid : ∀ c ∈ Nat.toDigits 10 n, Text.isBlank c = false := fun c member =>
    Text.isBlank_of_isDigit (Nat.isDigit_of_mem_toDigits (by decide) (by decide) member)
  rw [index?, digits, Text.trim_of_no_blank solid, Reading.int64?_toDigits small]

end PropertyPath
