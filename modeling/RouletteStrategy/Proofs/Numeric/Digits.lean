import Mathlib.Algebra.Group.Nat.Defs
import RouletteStrategy.Numeric.Decimal
import RouletteStrategy.Text.Digit

/-! # Decimal digits: how many there are, and the number that they denote -/

namespace RouletteStrategy

namespace Decimal

theorem isDigit_of_mem_digitChars {n : Nat} {c : Char} (h : c ∈ digitChars n) : c.isDigit :=
  Nat.isDigit_of_mem_toDigits (by decide) (by decide) h

theorem length_digitChars_le_iff {n k : Nat} (hk : 0 < k) :
    (digitChars n).length ≤ k ↔ n < 10 ^ k :=
  Nat.length_toDigits_le_iff (by decide) hk

theorem length_digitChars_pos (n : Nat) : 0 < (digitChars n).length := Nat.length_toDigits_pos

theorem digitChars_mul_ten {n : Nat} (hn : 0 < n) : digitChars (10 * n) = digitChars n ++ ['0'] :=
  (Nat.toDigits_append_toDigits (d := 0) (by decide) hn (by decide)).symm

theorem length_digitChars_mul_ten {n : Nat} (hn : 0 < n) :
    (digitChars (10 * n)).length = (digitChars n).length + 1 := by
  rw [digitChars_mul_ten hn, List.length_append, List.length_singleton]

/-- The digits of a positive number start with another one than zero. -/
theorem digitChars_eq_cons {n : Nat} (hn : 0 < n) :
    ∃ d ds, digitChars n = d :: ds ∧ d ≠ '0' := by
  induction n using Nat.strongRecOn with
  | _ n ih =>
      unfold digitChars
      rw [Nat.toDigits_eq_if (by decide)]
      split
      · rename_i small
        have leading : ∀ k < 10, 0 < k → k.digitChar ≠ '0' := by decide
        exact ⟨_, _, rfl, leading n small hn⟩
      · obtain ⟨d, ds, eq, ne⟩ := ih (n / 10) (by omega) (by omega)
        exact ⟨d, ds ++ [(n % 10).digitChar], by rw [← List.cons_append, ← eq, digitChars], ne⟩

end Decimal

namespace Text

theorem natOfDigits_eq (ds : List Char) : natOfDigits ds = Nat.ofDigitChars 10 ds 0 := rfl

@[simp] theorem natOfDigits_digitChars (n : Nat) : natOfDigits (Decimal.digitChars n) = n :=
  Nat.ofDigitChars_ten_toDigits

theorem natOfDigits_append (ds es : List Char) :
    natOfDigits (ds ++ es) = natOfDigits ds * 10 ^ es.length + natOfDigits es := by
  rw [natOfDigits_eq, Nat.ofDigitChars_append, Nat.ofDigitChars_eq_ofDigitChars_zero, Nat.mul_comm]
  rfl

@[simp] theorem natOfDigits_zeros (k : Nat) : natOfDigits (List.replicate k '0') = 0 := by
  rw [natOfDigits_eq, Nat.ofDigitChars_replicate_zero, Nat.mul_zero]

theorem natOfDigits_lt {ds : List Char} (digits : ∀ c ∈ ds, c.isDigit) :
    natOfDigits ds < 10 ^ ds.length := by
  induction ds with
  | nil => exact Nat.one_pos
  | cons d ds ih =>
      obtain ⟨digit, digits⟩ := List.forall_mem_cons.mp digits
      have first : natOfDigits [d] ≤ 9 := by
        have bound := Char.isDigit_iff_toNat.mp digit
        have nine : '9'.toNat = '0'.toNat + 9 := rfl
        rw [natOfDigits_eq, Nat.ofDigitChars_cons, Nat.ofDigitChars_nil]
        omega
      have leading := Nat.mul_le_mul_right (10 ^ ds.length) first
      have rest := ih digits
      rw [← List.singleton_append, natOfDigits_append, List.singleton_append, List.length_cons,
        Nat.pow_succ]
      omega

end Text
end RouletteStrategy
