import Mathlib.Algebra.Order.Ring.Nat
import RouletteStrategy.Proofs.Numeric.Digits
import RouletteStrategy.Proofs.Numeric.Rounding

/-!
# The shortest decimal reads back

`toBinary64` depends on the value of a decimal and not on its trailing zeros, so a decimal may be
trimmed (`toBinary64_trim`). The decimals that `shortest` chooses from read back by their own test;
the exact expansion, which it falls back on, is rounded to itself.
-/

namespace RouletteStrategy

theorem appendZeros_eq (n zeros : Nat) : appendZeros n zeros = n * 10 ^ zeros := rfl

namespace Decimal

/-! ## Trailing zeros -/

variable (negative : Bool)

/-- A zero at the end of the digits counts as one in the exponent. -/
theorem toBinary64_mul_ten (n : Nat) (e : Int) :
    toBinary64 negative ⟨10 * n, e⟩ = toBinary64 negative ⟨n, e + 1⟩ := by
  rcases Nat.eq_zero_or_pos n with rfl | hn
  · simp [toBinary64]
  have size : e + (digitChars (10 * n)).length = e + 1 + (digitChars n).length := by
    rw [length_digitChars_mul_ten hn]
    push_cast
    omega
  have ratio : Binary64.ofRatio negative (appendZeros (10 * n) e.toNat) (appendZeros 1 (-e).toNat) =
      Binary64.ofRatio negative (appendZeros n (e + 1).toNat) (appendZeros 1 (-(e + 1)).toNat) := by
    simp only [appendZeros_eq]
    rcases le_or_gt 0 e with he | he
    · have succ : (e + 1).toNat = e.toNat + 1 := by omega
      have none : (-(e + 1)).toNat = (-e).toNat := by omega
      rw [succ, none, Nat.pow_succ]
      congr 1
      ring
    · have none : (e + 1).toNat = e.toNat := by omega
      have succ : (-e).toNat = (-(e + 1)).toNat + 1 := by omega
      simp only [none, succ, Nat.pow_succ', one_mul, Nat.mul_assoc]
      exact Binary64.ofRatio_mul_left (c := 10) negative (by decide) (by positivity) _
  simp only [toBinary64, size, ratio, Nat.mul_eq_zero, OfNat.ofNat_ne_zero, false_or]

theorem toBinary64_mul_pow_ten (n k : Nat) (e : Int) :
    toBinary64 negative ⟨n * 10 ^ k, e⟩ = toBinary64 negative ⟨n, e + k⟩ := by
  induction k generalizing e with
  | zero => simp
  | succ k ih =>
      rw [Nat.pow_succ, ← Nat.mul_assoc, Nat.mul_comm, toBinary64_mul_ten, ih, Nat.cast_succ,
        Int.add_assoc, Int.add_comm 1]

theorem toBinary64_trim_go (fuel : Nat) (d : Decimal) :
    (trim.go fuel d).toBinary64 negative = d.toBinary64 negative := by
  induction fuel generalizing d with
  | zero => rfl
  | succ fuel ih =>
      rw [trim.go]
      split_ifs with h
      · have digits : 10 * (d.digits / 10) = d.digits := by omega
        rw [ih, ← toBinary64_mul_ten, digits]
      · rfl

/-- A decimal keeps its value when trailing zeros are dropped. -/
theorem toBinary64_trim (d : Decimal) : d.trim.toBinary64 negative = d.toBinary64 negative :=
  toBinary64_trim_go negative _ d

end Decimal

namespace Binary64

/-! ## Candidates -/

theorem toBinary64_onGrid {x : Binary64} {negative : Bool} {n d : Nat} {place : Int} {r : Decimal}
    (h : onGrid? x negative n d place = some r) : r.toBinary64 negative = x := by
  unfold onGrid? at h
  generalize appendZeros n (-place).toNat = num at h
  generalize appendZeros d place.toNat = den at h
  simp only at h
  split at h
  · rename_i low high
    obtain rfl := Option.some.inj h
    rcases roundHalfEven_eq_or num den with eq | eq <;> rw [eq]
    · exact eq_of_beq low
    · exact eq_of_beq high
  · rename_i low high
    obtain rfl := Option.some.inj h
    exact eq_of_beq low
  · rename_i low high
    obtain rfl := Option.some.inj h
    exact eq_of_beq high
  · exact nomatch h

/-! ## The exact expansion -/

/-- The decimal with the very value of a number. -/
def exactDecimal (m : Nat) (q : Int) : Decimal :=
  ⟨m <<< q.toNat * 5 ^ (-q).toNat, min q 0⟩

theorem ten_pow_le_five_pow {k c : Nat} (h : k ≤ 2 * c) : 10 ^ k ≤ 5 ^ (k + c) :=
  calc 10 ^ k = 2 ^ k * 5 ^ k := by rw [← Nat.mul_pow]
    _ ≤ 2 ^ (2 * c) * 5 ^ k := by gcongr; decide
    _ = 4 ^ c * 5 ^ k := by rw [Nat.pow_mul]
    _ ≤ 5 ^ c * 5 ^ k := by gcongr; decide
    _ = 5 ^ (k + c) := by rw [← Nat.pow_add, Nat.add_comm]

theorem two_pow_le_ten_pow {k c : Nat} (h : k ≤ 3 * c) : 2 ^ k ≤ 10 ^ c :=
  calc 2 ^ k ≤ 2 ^ (3 * c) := Nat.pow_le_pow_right (by decide) h
    _ = 8 ^ c := by rw [Nat.pow_mul]
    _ ≤ 10 ^ c := Nat.pow_le_pow_left (by decide) c

/-- The digits of an exact expansion are neither too many nor too few for a number of the format. -/
theorem length_exactDecimal {m : Nat} {q : Int} (canonical : Canonical m q) (hm : 0 < m) :
    (-q).toNat ≤ (Decimal.digitChars (exactDecimal m q).digits).length + 400 ∧
      (Decimal.digitChars (exactDecimal m q).digits).length ≤ 400 + (-q).toNat := by
  obtain ⟨small, least, greatest, -⟩ := canonical
  have ha : q.toNat ≤ 971 := by omega
  have hb : (-q).toNat ≤ 1074 := by omega
  simp only [exactDecimal, Nat.shiftLeft_eq]
  generalize q.toNat = a at ha ⊢
  generalize (-q).toNat = b at hb ⊢
  constructor
  · by_contra few
    have positive := Decimal.length_digitChars_pos (m * 2 ^ a * 5 ^ b)
    obtain ⟨k, c, hk, hc, rfl⟩ : ∃ k c, 0 < k ∧ c = 401 ∧ b = k + c := ⟨b - 401, 401, by omega⟩
    have less := (Decimal.length_digitChars_le_iff (n := m * 2 ^ a * 5 ^ (k + c)) hk).mp (by omega)
    have least : 10 ^ k ≤ m * 2 ^ a * 5 ^ (k + c) :=
      calc 10 ^ k ≤ 5 ^ (k + c) := ten_pow_le_five_pow (by omega)
        _ ≤ m * 2 ^ a * 5 ^ (k + c) := Nat.le_mul_of_pos_left _ (by positivity)
    exact absurd less (not_lt.mpr least)
  · obtain ⟨c, hc⟩ : ∃ c, c = 400 := ⟨400, rfl⟩
    rw [Nat.one_shiftLeft] at small
    rw [← hc, Decimal.length_digitChars_le_iff (by omega)]
    calc m * 2 ^ a * 5 ^ b < 2 ^ 53 * 2 ^ a * 5 ^ b := by gcongr
      _ = 2 ^ (53 + a) * 5 ^ b := by rw [Nat.pow_add]
      _ ≤ 10 ^ c * 10 ^ b :=
        Nat.mul_le_mul (two_pow_le_ten_pow (by omega)) (Nat.pow_le_pow_left (by decide) b)
      _ = 10 ^ (c + b) := by rw [Nat.pow_add]

theorem toBinary64_exactDecimal {m : Nat} {q : Int} (negative : Bool) (canonical : Canonical m q)
    (hm : 0 < m) :
    (exactDecimal m q).toBinary64 negative = .finite negative m q canonical := by
  obtain ⟨low, high⟩ := length_exactDecimal canonical hm
  have digits : (exactDecimal m q).digits ≠ 0 := by
    simp only [exactDecimal, Nat.shiftLeft_eq]
    positivity
  have whole : (exactDecimal m q).exponent.toNat = 0 := by simp only [exactDecimal]; omega
  have places : (-(exactDecimal m q).exponent).toNat = (-q).toNat := by
    simp only [exactDecimal]; omega
  have above : ¬ (exactDecimal m q).exponent +
      (Decimal.digitChars (exactDecimal m q).digits).length <
      -400 := by omega
  have below : ¬ 400 < (exactDecimal m q).exponent +
      (Decimal.digitChars (exactDecimal m q).digits).length := by omega
  rw [Decimal.toBinary64, if_neg (not_or.mpr ⟨digits, above⟩), if_neg below, whole, places]
  refine ofRatio_eq_finite negative canonical hm ?_ ?_
  · simp [appendZeros_eq]
  · simp only [appendZeros_eq, exactDecimal, Nat.shiftLeft_eq, pow_zero, mul_one, one_mul]
    rw [Nat.mul_assoc, ← Nat.mul_pow, Nat.mul_right_comm, Nat.mul_assoc]

/-- Whatever a search over grids finds reads back, and so does what it falls back on. -/
theorem toBinary64_search {m : Nat} {q : Int} (negative : Bool) (canonical : Canonical m q)
    (hm : 0 < m) (grids : List Nat) (lead : Int) (n d : Nat) :
    ((grids.findSome? fun k : Nat =>
      onGrid? (.finite negative m q canonical) negative n d (lead - k)).getD
        (exactDecimal m q)).toBinary64 negative = .finite negative m q canonical := by
  cases search : grids.findSome? fun k : Nat =>
      onGrid? (.finite negative m q canonical) negative n d (lead - k) with
  | none => exact toBinary64_exactDecimal negative canonical hm
  | some r =>
      obtain ⟨k, -, hit⟩ := List.exists_of_findSome?_eq_some search
      exact toBinary64_onGrid hit

/-- The shortest decimal reads back as the number that it was taken from. -/
theorem toBinary64_shortest {m : Nat} {q : Int} (negative : Bool) (canonical : Canonical m q) :
    (shortest (.finite negative m q canonical)).toBinary64 negative =
      .finite negative m q canonical := by
  simp only [shortest]
  split_ifs with zero
  · subst zero
    obtain rfl : q = -1074 := by simpa [Nat.shiftLeft_eq] using canonical.2.2.2
    rfl
  · rw [Decimal.toBinary64_trim]
    exact toBinary64_search negative canonical (Nat.pos_of_ne_zero zero) ..

end Binary64
end RouletteStrategy
