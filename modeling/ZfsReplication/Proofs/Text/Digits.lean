import Mathlib

/-!
# Decimal digit strings

The value of a string of decimal digits, as `Nat.ofDigitChars` reads it: the first digit counts
`10 ^ k` times for the `k` digits after it, so a string of `k` digits writes a number below
`10 ^ k`, and the digits `Nat.toDigits` writes never start with a zero unless they write zero.
-/

set_option autoImplicit false

namespace ZfsReplication

theorem isDigit_iff (c : Char) : c.isDigit = true ↔ 48 ≤ c.toNat ∧ c.toNat ≤ 57 := by
  simp only [Char.isDigit, Bool.and_eq_true, decide_eq_true_eq, Char.toNat]
  constructor <;> rintro ⟨low, high⟩ <;> exact ⟨by simpa [UInt32.le_iff_toNat_le] using low,
    by simpa [UInt32.le_iff_toNat_le] using high⟩

theorem toNat_zero_char : '0'.toNat = 48 := rfl

theorem digit_lt_ten {c : Char} (digit : c.isDigit = true) : c.toNat - '0'.toNat < 10 := by
  have := (isDigit_iff c).1 digit
  rw [toNat_zero_char]
  omega

theorem ofDigitChars_init (r : List Char) (init : Nat) :
    Nat.ofDigitChars 10 r init = 10 ^ r.length * init + Nat.ofDigitChars 10 r 0 := by
  induction r generalizing init with
  | nil => simp [Nat.ofDigitChars_nil]
  | cons c r ih =>
    rw [Nat.ofDigitChars_cons, Nat.ofDigitChars_cons, ih, ih (10 * 0 + _), List.length_cons,
      pow_succ]
    ring

theorem ofDigitChars_cons_zero (c : Char) (r : List Char) :
    Nat.ofDigitChars 10 (c :: r) 0 = 10 ^ r.length * (c.toNat - '0'.toNat) + Nat.ofDigitChars 10 r 0 := by
  rw [Nat.ofDigitChars_cons, ofDigitChars_init]
  simp

theorem ofDigitChars_lt {w : List Char} (digits : ∀ c ∈ w, c.isDigit = true) :
    Nat.ofDigitChars 10 w 0 < 10 ^ w.length := by
  induction w with
  | nil => simp [Nat.ofDigitChars_nil]
  | cons c r ih =>
    have head := digit_lt_ten (digits c List.mem_cons_self)
    have rest := ih fun x member => digits x (List.mem_cons_of_mem c member)
    rw [ofDigitChars_cons_zero, List.length_cons, pow_succ]
    -- the first digit counts `10 ^ |r|` times, and the rest stays below that
    calc 10 ^ r.length * (c.toNat - '0'.toNat) + Nat.ofDigitChars 10 r 0
        < 10 ^ r.length * (c.toNat - '0'.toNat) + 10 ^ r.length := by omega
      _ = 10 ^ r.length * (c.toNat - '0'.toNat + 1) := by ring
      _ ≤ 10 ^ r.length * 10 := Nat.mul_le_mul_left _ head

/-- The decimal digits of a number have no leading zero. -/
theorem toDigits_ne_zero_cons (n : Nat) (d : Char) (more : List Char) :
    Nat.toDigits 10 n ≠ '0' :: d :: more := by
  intro leading
  have digits : ∀ c ∈ d :: more, c.isDigit = true := fun c member =>
    Nat.isDigit_of_mem_toDigits (b := 10) (n := n) (by norm_num) (by norm_num)
      (by rw [leading]; exact List.mem_cons_of_mem _ member)
  have value := Nat.ofDigitChars_ten_toDigits (n := n)
  rw [leading, ofDigitChars_cons_zero, toNat_zero_char, Nat.sub_self, Nat.mul_zero,
    Nat.zero_add] at value
  -- without its leading zero the value fits in one digit fewer than it is written with
  have fits : (Nat.toDigits 10 n).length ≤ (d :: more).length :=
    (Nat.length_toDigits_le_iff (by norm_num) (by simp)).2 (value ▸ ofDigitChars_lt digits)
  rw [leading] at fits
  simp at fits

end ZfsReplication
