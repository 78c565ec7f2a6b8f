import RouletteStrategy.Proofs.Json.Clamping
import RouletteStrategy.Proofs.Numeric.HalfEven

/-!
# Whole numbers within bounds

A value that denotes a number is read as the nearest integer, a half going to the even neighbour,
and moved to the nearest bound. Integers pass through a float on the way, which cannot take them
across a bound, so they are read exactly however large they are (`Json.readsWhole_clamp`).
-/

namespace RouletteStrategy.Json

variable {v w : Json} {m n low high i : Int}

/-- The finite number that a value denotes, in units of floats. Integers count with their exact
value. -/
inductive Denotes : Json → Int → Prop where
  | int {i : Int} (finite : ¬(Json.int i).IsHuge) : Denotes (.int i) (i * Binary64.unitsPerOne)
  | float {x : Binary64} (finite : x.isFinite) : Denotes (.float x) x.units
  | text {s : String} {x : Binary64} (number : Literal.float? s = some x) (finite : x.isFinite) :
    Denotes (.str s) x.units

/-- The nearest integer to a number, within integer bounds, with a default of any kind. -/
def clampWhole (v : Json) (low high : Int) (default : Json) : Except Error Json :=
  v.clampAs (fun x => .int x.round) (.int low) (.int high) default

/-- A reading of whole numbers within bounds: exact for integers, to the nearest integer with halves
to the even one for floats, monotone, and without effect on what it has read. -/
structure ReadsWhole (low high : Int) (default : Json) (clamp : Json → Except Error Json) :
    Prop where
  integer : ∀ i, ¬(Json.int i).IsHuge → clamp (.int i) = .ok (.int (max low (min high i)))
  float : ∀ x : Binary64, x.isFinite → ∃ i, NearestEven x.units Binary64.unitsPerOne i ∧
    clamp (.float x) = .ok (.int (max low (min high i)))
  monotone : ∀ v w m n, v.Denotes m → w.Denotes n → m ≤ n →
    ∃ i j, clamp v = .ok (.int i) ∧ clamp w = .ok (.int j) ∧ i ≤ j
  fixed : ∀ v r, clamp v = .ok r → r ≠ default → clamp r = .ok r

/-! ## Bounds that are integers -/

theorem isBelow_int (i j : Int) : isBelow (.int i) (.int j) = decide (i < j) := by
  have scaled : i * Binary64.unitsPerOne < j * Binary64.unitsPerOne ↔ i < j :=
    Int.mul_lt_mul_right (Int.natCast_pos.mpr Binary64.unitsPerOne_pos)
  simp [isBelow, magnitude?, scaled]

theorem clampWith_isBelow (low high i : Int) :
    clampWith isBelow (.int low) (.int high) (.int i) = .int (max low (min high i)) := by
  simp only [clampWith, isBelow_int, decide_eq_true_eq, ← apply_ite Json.int, Json.int.injEq]
  split_ifs <;> omega

theorem clampWhole_eq (v : Json) (low high : Int) (default : Json) :
    v.clampWhole low high default = v.finiteNumber? >>= fun x =>
      .ok (x.elim default fun x => .int (max low (min high x.round))) := by
  rw [clampWhole, clampAs]
  refine congrArg _ (funext fun x => ?_)
  cases x with
  | none => rfl
  | some x => exact congrArg Except.ok (clampWith_isBelow low high x.round)

theorem map_clampInt (v : Json) (low high default : Int) :
    (v.clampInt low high default).map .int = v.clampWhole low high (.int default) := by
  rw [clampWhole_eq, clampInt]
  cases v.finiteNumber? with
  | error e => rfl
  | ok x => cases x <;> rfl

/-! ## Numbers of every kind -/

/-- The way through a float changes an integer, but not what it is moved to within bounds. -/
theorem clamp_round_of_ofInt? {x : Binary64} (ordered : low ≤ high) (hlow : low.natAbs < 2 ^ 53)
    (hhigh : high.natAbs < 2 ^ 53) (found : Binary64.ofInt? i = some x) :
    max low (min high x.round) = max low (min high i) := by
  have atLow := Binary64.round_of_ofInt? hlow found
  have atHigh := Binary64.round_of_ofInt? hhigh found
  by_cases within : low ≤ i ∧ i ≤ high
  · have exact := Binary64.round_of_ofInt? (b := i) (by omega) found
    rw [le_antisymm (exact.2 le_rfl) (exact.1 le_rfl)]
  · omega

theorem exists_ofInt? (finite : ¬(Json.int i).IsHuge) : ∃ x, Binary64.ofInt? i = some x := by
  rw [← Option.ne_none_iff_exists']
  exact fun none => finite ⟨i, rfl, none⟩

/-- A value that denotes a number is read as the nearest integer, halves to the even one. -/
theorem clampWhole_of_denotes (ordered : low ≤ high) (hlow : low.natAbs < 2 ^ 53)
    (hhigh : high.natAbs < 2 ^ 53) (default : Json) (h : v.Denotes n)
    (nearest : NearestEven n Binary64.unitsPerOne i) :
    v.clampWhole low high default = .ok (.int (max low (min high i))) := by
  have ofRound {x : Binary64} (nearest : NearestEven x.units Binary64.unitsPerOne i) :
      x.round = i := x.nearestEven_round.eq Binary64.unitsPerOne_pos nearest
  rw [clampWhole_eq]
  cases h with
  | @int j finite =>
      obtain ⟨x, found⟩ := exists_ofInt? finite
      have whole := NearestEven.whole Binary64.unitsPerOne_pos j
      obtain rfl := whole.eq Binary64.unitsPerOne_pos nearest
      rw [finiteNumber?, found, ← clamp_round_of_ofInt? ordered hlow hhigh found]
      rfl
  | float finite =>
      rw [finiteNumber?, Option.filter_some_pos finite, ← ofRound nearest]
      rfl
  | text number finite =>
      rw [finiteNumber?, number, Option.filter_some_pos finite, ← ofRound nearest]
      rfl

/-- Two and a half is as near to two as to three. -/
example : (Json.float (Binary64.ofRatio false 5 2)).clampWhole 1 36 .null = .ok (.int 2) := by rfl

/-- Each number has a nearest integer. -/
theorem Denotes.exists_nearestEven (h : v.Denotes n) :
    ∃ i, NearestEven n Binary64.unitsPerOne i := by
  cases h with
  | @int j _ => exact ⟨j, .whole Binary64.unitsPerOne_pos j⟩
  | @float x _ => exact ⟨x.round, x.nearestEven_round⟩
  | @text _ x _ _ => exact ⟨x.round, x.nearestEven_round⟩

theorem not_isHuge_of_small (small : i.natAbs < 2 ^ 53) : ¬(Json.int i).IsHuge := by
  intro huge
  obtain ⟨x, number, -⟩ := finiteNumber?_int small
  have failed := ((Json.int i).failsIff_finiteNumber? _).mpr ⟨rfl, huge⟩
  cases number.symm.trans failed

theorem readsWhole_clampWhole (ordered : low ≤ high) (hlow : low.natAbs < 2 ^ 53)
    (hhigh : high.natAbs < 2 ^ 53) (default : Json) :
    ReadsWhole low high default (·.clampWhole low high default) := by
  have read {v : Json} {n i : Int} (denotes : v.Denotes n)
      (nearest : NearestEven n Binary64.unitsPerOne i) :=
    clampWhole_of_denotes ordered hlow hhigh default denotes nearest
  have integer (i : Int) (finite : ¬(Json.int i).IsHuge) :=
    read (.int finite) (.whole Binary64.unitsPerOne_pos i)
  constructor
  case integer => exact integer
  case float =>
    intro x finite
    exact ⟨x.round, x.nearestEven_round, read (.float finite) x.nearestEven_round⟩
  case monotone =>
    intro v w m n hv hw le
    obtain ⟨i, first⟩ := hv.exists_nearestEven
    obtain ⟨j, second⟩ := hw.exists_nearestEven
    have := first.mono Binary64.unitsPerOne_pos second le
    exact ⟨_, _, read hv first, read hw second, by omega⟩
  case fixed =>
    intro v r result other
    rw [clampWhole_eq] at result
    obtain ⟨x, -, result⟩ := bind_eq_ok.mp result
    cases x with
    | none =>
        cases result
        exact absurd rfl other
    | some x =>
        cases result
        -- what was read lies within the bounds, so it is moved to no other place
        change Json.clampWhole (.int (max low (min high x.round))) low high default = _
        have again : max low (min high (max low (min high x.round))) =
            max low (min high x.round) := by omega
        rw [integer _ (not_isHuge_of_small (by omega)), again]
        rfl

/-- Whole numbers are read within bounds with a default of any kind, and so are those that are read
with an integer as default. -/
theorem readsWhole_clamp (ordered : low ≤ high) (hlow : low.natAbs < 2 ^ 53)
    (hhigh : high.natAbs < 2 ^ 53) :
    (∀ default, ReadsWhole low high default (·.clampWhole low high default)) ∧
      ∀ default, ReadsWhole low high (.int default) fun v =>
        (v.clampInt low high default).map .int := by
  refine ⟨readsWhole_clampWhole ordered hlow hhigh, fun default => ?_⟩
  have same : (fun v : Json => (v.clampInt low high default).map .int) =
      fun v => v.clampWhole low high (.int default) := by
    funext v
    exact v.map_clampInt low high default
  rw [same]
  exact readsWhole_clampWhole ordered hlow hhigh (.int default)

/-- An integer of two hundred digits is read as the upper bound. -/
theorem readsWhole_clamp_counts : (1 : Int) ≤ 36 ∧
    ReadsWhole 1 36 .null (·.clampWhole 1 36 .null) ∧
    (Json.int (10 ^ 200)).clampWhole 1 36 .null = .ok (.int 36) ∧
    ReadsWhole 1 36 (.int 18) fun v => (v.clampInt 1 36 18).map .int := by
  have ordered : (1 : Int) ≤ 36 := by decide
  obtain ⟨whole, int⟩ := readsWhole_clamp ordered (by decide) (by decide)
  have finite : ¬(Json.int (10 ^ 200)).IsHuge := by
    rintro ⟨_, ⟨⟩, none⟩
    exact absurd none (by decide +kernel)
  exact ⟨ordered, whole .null, (whole .null).integer _ finite, int 18⟩

end RouletteStrategy.Json
