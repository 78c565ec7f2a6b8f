import RouletteStrategy.Proofs.Gating.Truncation
import RouletteStrategy.Proofs.Wheel.Numbers

/-!
# What a selection keeps of its candidates

A selection is `Bounded`: it has none but the numbers of its mode, no more of them than the rules
allow, and none at all where the signal is inactive or too few numbers were set by hand.
-/

namespace RouletteStrategy.Gating

variable {ns derived manual : List Int} {n : Int} {mode : SelectionMode} {rules : GatingRules}
  {active : Bool} {last : Option Int}

theorem pairwise_lt_candidates (mode : SelectionMode) (derived manual : List Int) :
    (candidates mode derived manual).Pairwise (· < ·) := by
  cases mode with
  | manual | automatic | hybrid | other => exact Wheel.pairwise_lt_normalize _

theorem onWheel_of_mem_candidates (h : n ∈ candidates mode derived manual) : Wheel.OnWheel n := by
  cases mode with
  | manual | automatic | hybrid | other => exact Wheel.onWheel_of_mem_normalize h

/-- What the rule on zero leaves of the candidates. -/
def allowed (rules : GatingRules) (found : List Int) : List Int :=
  if rules.excludeZero then found.filter (· ≠ 0) else found

/-- What the limit of a mode leaves of the allowed candidates. -/
def limited (mode : SelectionMode) (rules : GatingRules) (last : Option Int) (kept : List Int) :
    List Int :=
  match cap? mode rules with
  | some cap => truncate kept cap last
  | none => kept

theorem allowed_sublist (rules : GatingRules) (found : List Int) :
    (allowed rules found).Sublist found := by
  unfold allowed
  split
  · exact List.filter_sublist
  · exact List.Sublist.refl _

theorem zero_notMem_allowed (h : rules.excludeZero = true) (found : List Int) :
    0 ∉ allowed rules found := by
  rw [allowed, if_pos h]
  simp

theorem mem_of_mem_limited (h : n ∈ limited mode rules last ns) : n ∈ ns := by
  unfold limited at h
  split at h
  · exact mem_of_mem_truncate h
  · exact h

theorem pairwise_lt_limited (h : ns.Pairwise (· < ·)) :
    (limited mode rules last ns).Pairwise (· < ·) := by
  unfold limited
  split
  · exact pairwise_lt_truncate (h.imp Int.ne_of_lt) _ last
  · exact h

theorem length_limited_le {cap : Nat} (h : cap? mode rules = some cap) (ns : List Int) :
    (limited mode rules last ns).length ≤ cap := by
  simp only [limited, h]
  rw [length_truncate]
  exact Nat.min_le_left cap ns.length

/-- Whether the hybrid mode lacks numbers set by hand. -/
def LacksManual (mode : SelectionMode) (rules : GatingRules) (manual : List Int) : Prop :=
  mode = .hybrid ∧ (Wheel.normalize manual).length < rules.minManual

instance : Decidable (LacksManual mode rules manual) := inferInstanceAs (Decidable (_ ∧ _))

/-- The numbers of a selection: none, or those that the rules leave of the candidates. -/
theorem numbers_select :
    (select derived manual mode rules active last).numbers =
      if active = false ∨ LacksManual mode rules manual then []
      else limited mode rules last (allowed rules (candidates mode derived manual)) := by
  cases active with
  | false => rfl
  | true =>
      by_cases lacks : LacksManual mode rules manual
      · rw [if_pos (.inr lacks), select, if_neg (by decide)]
        exact congrArg Selection.numbers (if_pos lacks)
      · rw [if_neg (by simpa using lacks), select, if_neg (by decide)]
        exact congrArg Selection.numbers (if_neg lacks)

theorem rules_applied_select :
    (select derived manual mode rules active last).applied.rules = rules := by
  simp only [select]
  split_ifs <;> rfl

/-- What the rules in force allow of the final numbers. -/
structure Bounded (derived manual : List Int) (mode : SelectionMode) (rules : GatingRules)
    (active : Bool) (numbers : List Int) : Prop where
  ascending : numbers.Pairwise (· < ·)
  onWheel : ∀ n ∈ numbers, Wheel.OnWheel n
  ofAutomatic : mode = .automatic → numbers ⊆ derived
  ofManual : mode = .manual → numbers ⊆ manual
  ofHybrid : mode = .hybrid → ∀ n ∈ numbers, n ∈ derived ∨ n ∈ manual
  maxAuto : mode = .automatic → numbers.length ≤ rules.maxAuto
  maxHybrid : mode = .hybrid → numbers.length ≤ rules.maxHybrid
  excludeZero : rules.excludeZero → 0 ∉ numbers
  inactive : active = false → numbers = []
  minManual : mode = .hybrid → (Wheel.normalize manual).length < rules.minManual → numbers = []

theorem bounded_select (derived manual : List Int) (mode : SelectionMode) (rules : GatingRules)
    (active : Bool) (last : Option Int) :
    Bounded derived manual mode rules active
      (select derived manual mode rules active last).numbers := by
  rw [numbers_select]
  split
  next =>
    constructor
    case ascending => exact List.Pairwise.nil
    all_goals simp
  next running =>
    obtain ⟨on, enough⟩ := not_or.mp running
    -- limits and the rule on zero only take candidates away
    have candidate : ∀ n ∈ limited mode rules last
        (allowed rules (candidates mode derived manual)), n ∈ candidates mode derived manual :=
      fun n h => (allowed_sublist rules _).subset (mem_of_mem_limited h)
    constructor
    case ascending =>
      apply pairwise_lt_limited
      exact (pairwise_lt_candidates mode derived manual).sublist (allowed_sublist rules _)
    case onWheel => exact fun n h => onWheel_of_mem_candidates (candidate n h)
    case ofAutomatic =>
      rintro rfl n h
      exact (Wheel.mem_normalize.mp (candidate n h)).1
    case ofManual =>
      rintro rfl n h
      exact (Wheel.mem_normalize.mp (candidate n h)).1
    case ofHybrid =>
      rintro rfl n h
      exact List.mem_append.mp (Wheel.mem_normalize.mp (candidate n h)).1
    case maxAuto =>
      rintro rfl
      exact length_limited_le rfl _
    case maxHybrid =>
      rintro rfl
      exact length_limited_le rfl _
    case excludeZero => exact fun h zero => zero_notMem_allowed h _ (mem_of_mem_limited zero)
    case inactive => exact fun off => absurd off on
    case minManual => exact fun hybrid few => absurd ⟨hybrid, few⟩ enough

end RouletteStrategy.Gating
