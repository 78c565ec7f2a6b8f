import RouletteStrategy.Proofs.Json.Faults
import RouletteStrategy.Proofs.Numeric.Rounding

/-!
# Numbers within bounds

What is read from a value as a number is the nearest one within bounds, or a default where the value
denotes no finite number (`Json.Clamped`, `Json.ClampedShare`).
-/

namespace RouletteStrategy

/-- The nearest integer within bounds. -/
structure Nearest (low high x y : Int) : Prop where
  lower : low ≤ y
  upper : y ≤ high
  least : ∀ z, low ≤ z → z ≤ high → (x - y).natAbs ≤ (x - z).natAbs

theorem nearest_clamp {low high : Int} (bounds : low ≤ high) (x : Int) :
    Nearest low high x (max low (min high x)) := by
  refine ⟨by omega, by omega, fun z hlow hhigh => ?_⟩
  omega

/-- A finite number from zero to one. -/
structure Binary64.IsShare (x : Binary64) : Prop where
  finite : x.isFinite
  lower : 0 ≤ x.units
  upper : x.units ≤ unitsPerOne

namespace Json

variable {v : Json} {low high default n : Nat} {x y : Binary64}

/-- A count read from a value. -/
inductive Clamped (v : Json) (low high default : Nat) : Nat → Prop where
  | number {x : Binary64} {n : Nat} (denotes : v.finiteNumber? = .ok (some x))
    (nearest : Nearest low high x.round n) : Clamped v low high default n
  | default (denotes : v.finiteNumber? = .ok none) : Clamped v low high default default

/-- A share read from a value. -/
inductive ClampedShare (v : Json) (default : Binary64) : Binary64 → Prop where
  | number {x y : Binary64} (denotes : v.finiteNumber? = .ok (some x)) (finite : y.isFinite)
    (nearest : Nearest 0 Binary64.unitsPerOne x.units y.units) : ClampedShare v default y
  | default (denotes : v.finiteNumber? = .ok none) : ClampedShare v default default

theorem Clamped.bounds (h : v.Clamped low high default n)
    (hdefault : low ≤ default ∧ default ≤ high) : low ≤ n ∧ n ≤ high := by
  cases h with
  | number denotes nearest =>
      have lower := nearest.lower
      have upper := nearest.upper
      omega
  | default => exact hdefault

theorem ClampedShare.isShare {default : Binary64} (h : v.ClampedShare default y)
    (hdefault : default.IsShare) : y.IsShare := by
  cases h with
  | number denotes finite nearest => exact ⟨finite, nearest.lower, nearest.upper⟩
  | default => exact hdefault

theorem clamped_of_clampInt (bounds : low ≤ high) {i : Int}
    (h : v.clampInt low high default = .ok i) : v.Clamped low high default i.toNat := by
  obtain ⟨x, denotes, h⟩ := bind_eq_ok.mp h
  cases x with
  | none =>
      cases h
      exact .default denotes
  | some x =>
      cases h
      have nearest := nearest_clamp (Int.ofNat_le.mpr bounds) x.round
      refine .number denotes ?_
      rwa [Int.toNat_of_nonneg (by omega)]

theorem finiteNumber?_int {i : Int} (small : i.natAbs < 2 ^ 53) :
    ∃ x, (Json.int i).finiteNumber? = .ok (some x) ∧ x.round = i := by
  have finite := (Binary64.units_ofInt small).1
  have round := Binary64.round_ofInt small
  cases eq : Binary64.ofInt i with
  | finite s m q h =>
      refine ⟨.finite s m q h, ?_, eq ▸ round⟩
      simp [finiteNumber?, Binary64.ofInt?, eq]
  | infinite s => simp [eq, Binary64.isFinite] at finite
  | nan => simp [eq, Binary64.isFinite] at finite

/-- An integer of at most 53 bits is moved to the nearest bound only. -/
theorem clampInt_int {i low high default : Int} (small : i.natAbs < 2 ^ 53) :
    (Json.int i).clampInt low high default = .ok (max low (min high i)) := by
  obtain ⟨x, number, round⟩ := finiteNumber?_int small
  rw [clampInt, number, ← round]
  rfl

theorem isFinite_of_finiteNumber? (h : v.finiteNumber? = .ok (some x)) : x.isFinite := by
  cases v with
  | int i =>
      rw [finiteNumber?, Binary64.ofInt?] at h
      cases eq : Binary64.ofInt i with
      | finite =>
          rw [eq] at h
          cases h
          rfl
      | infinite | nan =>
          rw [eq] at h
          cases h
  | float y => exact (Option.filter_eq_some_iff.mp (Except.ok.inj h)).2
  | str s => exact (Option.filter_eq_some_iff.mp (Except.ok.inj h)).2
  | _ => cases h

theorem lt_iff_of_finite (hx : x.isFinite) (hy : y.isFinite) :
    Binary64.lt x y ↔ x.units < y.units := by
  cases x <;> cases y <;> simp_all [Binary64.lt, Binary64.isFinite, Binary64.rank]

theorem units_one : (Binary64.ofInt 1).units = Binary64.unitsPerOne := by
  rw [(Binary64.units_ofInt (by decide)).2, Int.one_mul]

/-- A finite number keeps its value between finite bounds, and has that of a bound elsewhere. -/
theorem clampWith_lt {low high : Binary64} (hlow : low.isFinite) (hhigh : high.isFinite)
    (hx : x.isFinite) : (clampWith Binary64.lt low high x).isFinite ∧
      (clampWith Binary64.lt low high x).units = max low.units (min high.units x.units) := by
  have inner : ∃ y, (if Binary64.lt x high then x else high) = y ∧ y.isFinite ∧
      y.units = min high.units x.units := by
    by_cases below : Binary64.lt x high
    · rw [if_pos below]
      rw [lt_iff_of_finite hx hhigh] at below
      exact ⟨x, rfl, hx, by omega⟩
    · rw [if_neg below]
      rw [lt_iff_of_finite hx hhigh] at below
      exact ⟨high, rfl, hhigh, by omega⟩
  obtain ⟨y, eq, hy, units⟩ := inner
  simp only [clampWith, eq]
  by_cases above : Binary64.lt low y
  · rw [if_pos above]
    rw [lt_iff_of_finite hlow hy] at above
    exact ⟨hy, by omega⟩
  · rw [if_neg above]
    rw [lt_iff_of_finite hlow hy] at above
    exact ⟨hlow, by omega⟩

theorem clampedShare_of_clampFloat {default : Binary64}
    (h : v.clampFloat Binary64.zero (Binary64.ofInt 1) default = .ok y) :
    v.ClampedShare default y := by
  obtain ⟨x, denotes, h⟩ := bind_eq_ok.mp h
  cases x with
  | none =>
      cases h
      exact .default denotes
  | some x =>
      obtain rfl : clampWith Binary64.lt Binary64.zero (Binary64.ofInt 1) x = y := Except.ok.inj h
      have one : (Binary64.ofInt 1).isFinite := (Binary64.units_ofInt (by decide)).1
      have zero : Binary64.zero.isFinite := rfl
      obtain ⟨finite, units⟩ := clampWith_lt zero one (isFinite_of_finiteNumber? denotes)
      refine .number denotes finite ?_
      rw [units, units_one]
      exact nearest_clamp (Int.natCast_nonneg _) x.units

end Json
end RouletteStrategy
