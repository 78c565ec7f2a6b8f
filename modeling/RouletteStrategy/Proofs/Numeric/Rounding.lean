import Mathlib.Algebra.Order.Field.Power
import Mathlib.Data.Int.Log
import Mathlib.Data.Rat.Floor
import Mathlib.Tactic.Positivity
import Mathlib.Tactic.Ring
import RouletteStrategy.Numeric.Binary64

/-!
# Rounding a quotient to the nearest number

`ofRatio` depends on the quotient alone (`ofRatio_mul_left`), and a quotient that is a number of the
format is rounded to itself (`ofRatio_eq_finite`). Both rest on the exponent of the leading bit
being the integer logarithm of the quotient.
-/

namespace RouletteStrategy

theorem roundHalfEven_mul_left {c : Nat} (hc : 0 < c) (n d : Nat) :
    roundHalfEven (c * n) (c * d) = roundHalfEven n d := by
  have below (a b : Nat) : 2 * (c * a) < c * b ↔ 2 * a < b := by
    rw [Nat.mul_left_comm, Nat.mul_lt_mul_left hc]
  have above (a b : Nat) : c * b < 2 * (c * a) ↔ b < 2 * a := by
    rw [Nat.mul_left_comm, Nat.mul_lt_mul_left hc]
  simp only [roundHalfEven, Nat.mul_div_mul_left _ _ hc, Nat.mul_mod_mul_left, below, above]

/-- A whole quotient needs no rounding. -/
theorem roundHalfEven_mul_self (m : Nat) {d : Nat} (hd : 0 < d) : roundHalfEven (m * d) d = m := by
  simp [roundHalfEven, Nat.mul_div_cancel _ hd, hd]

theorem roundHalfEven_eq_or (n d : Nat) :
    roundHalfEven n d = n / d ∨ roundHalfEven n d = n / d + 1 := by
  simp only [roundHalfEven]
  split_ifs <;> simp

namespace Binary64

/-! ## The leading bit -/

/-- Shifts on the two sides of a comparison compare the quotient with a power of two. -/
theorem shiftLeft_le_shiftLeft_iff (n : Nat) {d : Nat} (hd : 0 < d) (e : Int) :
    d <<< e.toNat ≤ n <<< (-e).toNat ↔ (2 : ℚ) ^ e ≤ n / d := by
  have hd' : (0 : ℚ) < d := Nat.cast_pos.mpr hd
  rw [le_div_iff₀ hd', Nat.shiftLeft_eq, Nat.shiftLeft_eq, ← Nat.cast_le (α := ℚ)]
  push_cast
  obtain ⟨k, rfl | rfl⟩ := e.eq_nat_or_neg
  · rw [Int.toNat_natCast, Int.toNat_neg_natCast, zpow_natCast]
    simp [mul_comm]
  · rw [Int.toNat_neg_natCast, neg_neg, Int.toNat_natCast, zpow_neg, zpow_natCast, inv_mul_le_iff₀
      (by positivity)]
    simp [mul_comm]

theorem log_eq_iff {r : ℚ} (hr : 0 < r) (e : Int) :
    Int.log 2 r = e ↔ (2 : ℚ) ^ e ≤ r ∧ r < (2 : ℚ) ^ (e + 1) := by
  have low := Int.zpow_le_iff_le_log (b := 2) one_lt_two (x := e) hr
  have high := Int.lt_zpow_iff_log_lt (b := 2) one_lt_two (x := e + 1) hr
  push_cast at low high
  rw [low, high]
  omega

theorem log_natCast_div (n d : Nat) (hn : 0 < n) (hd : 0 < d) :
    (2 : ℚ) ^ ((n.log2 : Int) - d.log2 - 1) < n / d ∧
      (n / d : ℚ) < 2 ^ ((n.log2 : Int) - d.log2 + 1) := by
  have bounds (k : Nat) (hk : 0 < k) :
      (2 : ℚ) ^ (k.log2 : Int) ≤ k ∧ (k : ℚ) < 2 ^ (k.log2 + 1 : Int) := by
    constructor
    · rw [zpow_natCast]
      exact_mod_cast Nat.log2_self_le hk.ne'
    · rw [← Nat.cast_succ, zpow_natCast]
      exact_mod_cast Nat.lt_log2_self
  obtain ⟨n_low, n_high⟩ := bounds n hn
  obtain ⟨d_low, d_high⟩ := bounds d hd
  have hd' : (0 : ℚ) < d := Nat.cast_pos.mpr hd
  constructor
  · rw [lt_div_iff₀ hd']
    calc (2 : ℚ) ^ ((n.log2 : Int) - d.log2 - 1) * d
        < 2 ^ ((n.log2 : Int) - d.log2 - 1) * 2 ^ (d.log2 + 1 : Int) := by gcongr
      _ = 2 ^ (n.log2 : Int) := by rw [← zpow_add₀ two_ne_zero]; congr 1; ring
      _ ≤ n := n_low
  · rw [div_lt_iff₀ hd']
    calc (n : ℚ) < 2 ^ (n.log2 + 1 : Int) := n_high
      _ = 2 ^ ((n.log2 : Int) - d.log2 + 1) * 2 ^ (d.log2 : Int) := by
        rw [← zpow_add₀ two_ne_zero]; congr 1; ring
      _ ≤ 2 ^ ((n.log2 : Int) - d.log2 + 1) * d := by gcongr

theorem leadingExponent_eq_log {n d : Nat} (hn : 0 < n) (hd : 0 < d) :
    leadingExponent n d = Int.log 2 (n / d : ℚ) := by
  obtain ⟨low, high⟩ := log_natCast_div n d hn hd
  have hr : (0 : ℚ) < n / d := div_pos (Nat.cast_pos.mpr hn) (Nat.cast_pos.mpr hd)
  unfold leadingExponent
  simp only [shiftLeft_le_shiftLeft_iff n hd]
  split_ifs with h
  · exact ((log_eq_iff hr _).mpr ⟨h, high⟩).symm
  · refine ((log_eq_iff hr _).mpr ⟨low.le, ?_⟩).symm
    rw [sub_add_cancel]
    exact not_le.mp h

/-! ## Rounding -/

variable (negative : Bool)

theorem ofRatio_mul_left {c d : Nat} (hc : 0 < c) (hd : 0 < d) (n : Nat) :
    ofRatio negative (c * n) (c * d) = ofRatio negative n d := by
  rcases Nat.eq_zero_or_pos n with rfl | hn
  · rfl
  have quotient : ((c * n : Nat) / (c * d : Nat) : ℚ) = n / d := by
    have : (c : ℚ) ≠ 0 := Nat.cast_ne_zero.mpr hc.ne'
    push_cast
    rw [mul_div_mul_left _ _ this]
  have exponent : leadingExponent (c * n) (c * d) = leadingExponent n d := by
    rw [leadingExponent_eq_log (by positivity) (by positivity), leadingExponent_eq_log hn hd,
      quotient]
  have shift (m k : Nat) : (c * m) <<< k = c * m <<< k := by
    simp only [Nat.shiftLeft_eq, Nat.mul_assoc]
  simp only [ofRatio, exponent, shift, roundHalfEven_mul_left hc, hn.ne',
    Nat.mul_ne_zero hc.ne' hn.ne', if_false]

/-- The shifts that make a quotient whole give its value. -/
theorem natCast_div_eq {m n d : Nat} {q : Int} (hd : 0 < d)
    (h : n <<< (-q).toNat = m * d <<< q.toNat) : (n / d : ℚ) = m * 2 ^ q := by
  have hd' : (d : ℚ) ≠ 0 := Nat.cast_ne_zero.mpr hd.ne'
  have cast := congrArg (Nat.cast (R := ℚ)) h
  simp only [Nat.shiftLeft_eq, Nat.cast_mul, Nat.cast_pow, Nat.cast_ofNat] at cast
  rw [div_eq_iff hd']
  obtain ⟨k, rfl | rfl⟩ := q.eq_nat_or_neg
  · rw [Int.toNat_natCast, Int.toNat_neg_natCast, pow_zero, mul_one] at cast
    rw [cast, zpow_natCast]
    ring
  · rw [Int.toNat_neg_natCast, neg_neg, Int.toNat_natCast, pow_zero, mul_one] at cast
    rw [zpow_neg, zpow_natCast, mul_right_comm, ← cast, mul_inv_cancel_right₀ (by positivity)]

/-- The exponent of the grid on which a number of the format lies. -/
theorem max_log_eq {m : Nat} {q : Int} (canonical : Canonical m q) (hm : 0 < m) :
    max (-1074) (Int.log 2 (m * 2 ^ q : ℚ) - 52) = q := by
  obtain ⟨small, least, -, leading⟩ := canonical
  have positive : (0 : ℚ) < m * 2 ^ q := by positivity
  rw [Nat.one_shiftLeft] at small leading
  have high : (m : ℚ) < 2 ^ 53 := by exact_mod_cast small
  by_cases low : 2 ^ 52 ≤ m
  · have low : (2 : ℚ) ^ 52 ≤ m := by exact_mod_cast low
    have log : Int.log 2 (m * 2 ^ q : ℚ) = 52 + q := by
      rw [log_eq_iff positive, add_right_comm, zpow_add₀ two_ne_zero, zpow_add₀ two_ne_zero]
      exact ⟨by gcongr; exact_mod_cast low, by gcongr; exact_mod_cast high⟩
    omega
  · have low : (m : ℚ) < 2 ^ 52 := by exact_mod_cast not_le.mp low
    have log : Int.log 2 (m * 2 ^ q : ℚ) < 52 + q := by
      refine (Int.lt_zpow_iff_log_lt one_lt_two positive).mp ?_
      push_cast
      rw [zpow_add₀ two_ne_zero]
      gcongr
      exact_mod_cast low
    omega

/-- A quotient that is a number of the format is that number. -/
theorem ofRatio_eq_finite {m n d : Nat} {q : Int} (canonical : Canonical m q) (hm : 0 < m)
    (hd : 0 < d) (h : n <<< (-q).toNat = m * d <<< q.toNat) :
    ofRatio negative n d = .finite negative m q canonical := by
  have hn : 0 < n := by
    rcases Nat.eq_zero_or_pos n with rfl | hn
    · simp [hm.ne', hd.ne', Nat.shiftLeft_eq] at h
    · exact hn
  have exponent : max (-1074) (leadingExponent n d - 52) = q := by
    rw [leadingExponent_eq_log hn hd, natCast_div_eq hd h, max_log_eq canonical hm]
  have mantissa : roundHalfEven (n <<< (-q).toNat) (d <<< q.toNat) = m := by
    rw [h, roundHalfEven_mul_self]
    rw [Nat.shiftLeft_eq]
    positivity
  simp only [ofRatio, exponent, mantissa, if_neg hn.ne', if_neg canonical.1.ne, ofParts,
    dif_pos canonical]

/-! ## Integers -/

theorem unitsPerOne_pos : 0 < unitsPerOne := by decide

/-- Integers of at most 53 bits are numbers of the format. -/
theorem ofInt_eq_finite {i : Int} (nonzero : i ≠ 0) (small : i.natAbs < 2 ^ 53) :
    ∃ m q canonical, ofInt i = .finite (decide (i < 0)) m q canonical ∧
      m <<< (q + 1074).toNat = i.natAbs * unitsPerOne := by
  have hn : i.natAbs ≠ 0 := Int.natAbs_ne_zero.mpr nonzero
  unfold ofInt
  generalize i.natAbs = n at hn small ⊢
  have low := Nat.log2_self_le hn
  have high := Nat.lt_log2_self (n := n)
  have log : n.log2 < 53 := (Nat.log2_lt hn).mpr small
  obtain ⟨k, hk⟩ : ∃ k, n.log2 + k = 52 := ⟨52 - n.log2, by omega⟩
  have canonical : Canonical (n * 2 ^ k) (-k) := by
    refine ⟨?_, by omega, by omega, .inl ?_⟩
    · calc n * 2 ^ k < 2 ^ (n.log2 + 1) * 2 ^ k := by gcongr
        _ = 2 ^ 53 := by rw [← Nat.pow_add, Nat.add_right_comm, hk]
        _ = 1 <<< 53 := by rw [Nat.one_shiftLeft]
    · calc 1 <<< 52 = 2 ^ (n.log2 + k) := by rw [hk, Nat.one_shiftLeft]
        _ = 2 ^ n.log2 * 2 ^ k := Nat.pow_add ..
        _ ≤ n * 2 ^ k := by gcongr
  refine ⟨n * 2 ^ k, -k, canonical, ?_, ?_⟩
  · refine ofRatio_eq_finite _ canonical (by positivity) one_pos ?_
    simp [Nat.shiftLeft_eq]
  · have shift : (-(k : Int) + 1074).toNat = 1074 - k := by omega
    have whole : k + (1074 - k) = 1074 := by omega
    calc (n * 2 ^ k) <<< (-(k : Int) + 1074).toNat = n * 1 <<< (k + (1074 - k)) := by
          rw [shift, Nat.shiftLeft_eq, Nat.one_shiftLeft, Nat.pow_add, Nat.mul_assoc]
      _ = n * unitsPerOne := by rw [whole, unitsPerOne]

theorem units_ofInt {i : Int} (small : i.natAbs < 2 ^ 53) :
    (ofInt i).isFinite ∧ (ofInt i).units = i * unitsPerOne := by
  rcases eq_or_ne i 0 with rfl | nonzero
  · exact ⟨rfl, rfl⟩
  · obtain ⟨m, q, canonical, eq, shift⟩ := ofInt_eq_finite nonzero small
    rw [eq]
    refine ⟨rfl, ?_⟩
    simp only [units, shift, decide_eq_true_eq]
    split_ifs with sign <;> push_cast
    · rw [abs_of_neg sign, neg_mul, neg_neg]
    · rw [abs_of_nonneg (not_lt.mp sign)]

theorem round_of_units {x : Binary64} {i : Int} (h : x.units = i * unitsPerOne) : x.round = i := by
  have sign : i * unitsPerOne < 0 ↔ i < 0 := by simp [mul_neg_iff, unitsPerOne_pos]
  simp only [round, h, Int.natAbs_mul, Int.natAbs_natCast, roundHalfEven_mul_self _ unitsPerOne_pos,
    sign]
  split_ifs <;> omega

/-- Integers of at most 53 bits are kept when they are turned into a number and back. -/
theorem round_ofInt {i : Int} (small : i.natAbs < 2 ^ 53) : (ofInt i).round = i :=
  round_of_units (units_ofInt small).2

end Binary64
end RouletteStrategy
