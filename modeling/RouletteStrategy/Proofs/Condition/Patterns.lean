import Mathlib.Data.List.Nodup
import Mathlib.Data.Prod.Lex
import RouletteStrategy.Proofs.Condition.Outcome
import RouletteStrategy.Proofs.Wheel.Numbers

/-!
# Patterns of last digits

Several patterns may stand at one index, two of them of the same strength, but those two exclude
each other. So the findings in a list of digits differ in strength or index
(`Finding.nodup_rank_detect`), the greatest of them is the same in any order, and its digit decides
what is contributed (`Condition.decided_terminalPattern`).
-/

namespace RouletteStrategy.Condition

/-- A pattern stands at an index with a digit. -/
inductive Pattern.Occurs (ts : List Int) : Pattern → Nat → Int → Prop where
  | same {i : Nat} {a : Int} (first : ts[i]? = some a) (second : ts[i + 1]? = some a) :
      Occurs ts .same (i + 1) a
  | alternate {i : Nat} {a b : Int} (first : ts[i]? = some b) (second : ts[i + 1]? = some a)
      (third : ts[i + 2]? = some b) (fourth : ts[i + 3]? = some a) (differ : b ≠ a) :
      Occurs ts .alternate (i + 3) a
  | gap2 {i : Nat} {a b : Int} (first : ts[i]? = some a) (second : ts[i + 1]? = some b)
      (third : ts[i + 2]? = some a) (differ : b ≠ a) : Occurs ts .gap2 (i + 2) a
  | gap3 {i : Nat} {a : Int} (first : ts[i]? = some a) (fourth : ts[i + 3]? = some a) :
      Occurs ts .gap3 (i + 3) a

namespace Pattern

variable {ts : List Int} {p q : Pattern} {i : Nat} {t u : Int}

theorem Occurs.getElem?_eq (h : Occurs ts p i t) : ts[i]? = some t := by
  cases h <;> assumption

theorem equalBack_iff {a b : Nat} :
    equalBack ts i a b ↔ a ≤ i ∧ b ≤ i ∧ ts[i - a]? = ts[i - b]? := by
  simp only [equalBack, Bool.and_eq_true, decide_eq_true_eq, beq_iff_eq, and_assoc]

theorem exists_getElem?_pred (here : ts[i + 1]? = some t) : ∃ u, ts[i]? = some u := by
  obtain ⟨inside, -⟩ := List.getElem?_eq_some_iff.mp here
  exact ⟨_, List.getElem?_eq_getElem (Nat.lt_of_succ_lt inside)⟩

/-- The digit before is another one. -/
theorem not_equalBack_iff (here : ts[i + 1]? = some t) (before : ts[i]? = some u) :
    equalBack ts (i + 1) 0 1 = false ↔ u ≠ t := by
  rw [← Bool.not_eq_true, equalBack_iff, Nat.sub_zero, Nat.add_sub_cancel, here, before,
    Option.some.injEq, eq_comm]
  simp

theorem holdsAt_iff (here : ts[i]? = some t) : p.holdsAt ts i ↔ Occurs ts p i t := by
  cases p with
  | same =>
      rw [holdsAt, equalBack_iff]
      constructor
      · rintro ⟨-, back, equal⟩
        obtain ⟨i, rfl⟩ := Nat.exists_eq_add_of_le' back
        exact .same (equal.symm.trans here) here
      · intro occurs
        cases occurs with
        | same first second => exact ⟨Nat.zero_le _, by omega, second.trans first.symm⟩
  | alternate =>
      simp only [holdsAt, Bool.and_eq_true, Bool.not_eq_true', equalBack_iff (b := 2),
        equalBack_iff (b := 3)]
      constructor
      · rintro ⟨⟨⟨-, -, even⟩, -, back, odd⟩, differ⟩
        obtain ⟨i, rfl⟩ := Nat.exists_eq_add_of_le' back
        obtain ⟨u, before⟩ := exists_getElem?_pred here
        exact .alternate (odd.symm.trans before) (even.symm.trans here) before here
          ((not_equalBack_iff here before).mp differ)
      · intro occurs
        cases occurs with
        | alternate first second third fourth differ =>
            exact ⟨⟨⟨Nat.zero_le _, by omega, fourth.trans second.symm⟩, by omega, by omega,
              third.trans first.symm⟩, (not_equalBack_iff fourth third).mpr differ⟩
  | gap2 =>
      simp only [holdsAt, Bool.and_eq_true, Bool.not_eq_true', equalBack_iff (b := 2)]
      constructor
      · rintro ⟨⟨-, back, equal⟩, differ⟩
        obtain ⟨i, rfl⟩ := Nat.exists_eq_add_of_le' back
        obtain ⟨u, before⟩ := exists_getElem?_pred here
        exact .gap2 (equal.symm.trans here) before here
          ((not_equalBack_iff here before).mp differ)
      · intro occurs
        cases occurs with
        | gap2 first second third differ =>
            exact ⟨⟨Nat.zero_le _, by omega, third.trans first.symm⟩,
              (not_equalBack_iff third second).mpr differ⟩
  | gap3 =>
      rw [holdsAt, equalBack_iff]
      constructor
      · rintro ⟨-, back, equal⟩
        obtain ⟨i, rfl⟩ := Nat.exists_eq_add_of_le' back
        exact .gap3 (equal.symm.trans here) here
      · intro occurs
        cases occurs with
        | gap3 first fourth => exact ⟨Nat.zero_le _, by omega, fourth.trans first.symm⟩

/-- Two patterns of one strength are the same, or a repeated digit and one after a gap. -/
theorem eq_of_strength_eq (same : p.strength = q.strength) :
    p = q ∨ p = .same ∧ q = .gap2 ∨ p = .gap2 ∧ q = .same := by
  cases p <;> cases q <;> simp_all [strength]

/-- A digit that is that of the index before is not preceded by another one. -/
theorem Occurs.not_gap2 (h : Occurs ts .same i t) : ¬ Occurs ts .gap2 i u := by
  intro h'
  cases h' with
  | gap2 first second third differ =>
      cases h with
      | same before here =>
          rw [second] at before
          rw [third] at here
          exact differ (Option.some.inj (before.trans here.symm))

theorem Occurs.eq_of_strength_eq (h : Occurs ts p i t) (h' : Occurs ts q i u)
    (same : p.strength = q.strength) : p = q := by
  rcases Pattern.eq_of_strength_eq same with eq | ⟨rfl, rfl⟩ | ⟨rfl, rfl⟩
  · exact eq
  · exact absurd h' h.not_gap2
  · exact absurd h h'.not_gap2

end Pattern

namespace Finding

variable {ts : List Int} {f g : Finding} {fs : List Finding}

theorem mem_detect : f ∈ detect ts ↔ f.pattern.Occurs ts f.index f.terminal := by
  have listed : ∀ p : Pattern, p ∈ Pattern.all := by
    intro p
    cases p <;> decide
  rw [detect, List.mem_flatMap]
  constructor
  · rintro ⟨⟨t, i⟩, here, found⟩
    obtain ⟨p, holds, rfl⟩ := List.mem_map.mp found
    have here := List.mem_zipIdx_iff_getElem?.mp here
    exact (Pattern.holdsAt_iff here).mp (List.mem_filter.mp holds).2
  · intro occurs
    have here := occurs.getElem?_eq
    refine ⟨(f.terminal, f.index), List.mem_zipIdx_iff_getElem?.mpr here, ?_⟩
    have holds := (Pattern.holdsAt_iff here).mpr occurs
    exact List.mem_map.mpr ⟨f.pattern, List.mem_filter.mpr ⟨listed _, holds⟩, rfl⟩

theorem nodup_detect (ts : List Int) : (detect ts).Nodup := by
  rw [detect, List.nodup_flatMap]
  constructor
  · rintro ⟨t, i⟩ -
    have patterns : Pattern.all.Nodup := by decide
    refine (patterns.filter _).map ?_
    rintro p q ⟨⟩
    rfl
  · have indices : (ts.zipIdx.map Prod.snd).Nodup := by
      rw [List.zipIdx_map_snd]
      exact List.nodup_range'
    refine (List.pairwise_map.mp indices).imp ?_
    rintro ⟨t, i⟩ ⟨u, j⟩ differ f hf hg
    obtain ⟨p, -, rfl⟩ := List.mem_map.mp hf
    obtain ⟨q, -, eq⟩ := List.mem_map.mp hg
    exact differ (congrArg index eq).symm

/-! ## The greatest finding -/

/-- The strength of a finding, and then its index. -/
def rank (f : Finding) : ℕ ×ₗ ℕ := toLex (f.strength, f.index)

theorem lt_iff : f.lt g ↔ f.rank < g.rank := by
  rw [rank, rank, Prod.Lex.toLex_lt_toLex]
  simp [lt]

/-- No two findings have both their strength and their index in common. -/
theorem nodup_rank_detect (ts : List Int) : ((detect ts).map rank).Nodup := by
  refine (nodup_detect ts).map_on fun f hf g hg same => ?_
  obtain ⟨strength, index⟩ := Prod.mk.inj (toLex.injective same)
  have here := (mem_detect.mp hf).getElem?_eq
  have here' := (mem_detect.mp hg).getElem?_eq
  have pattern : f.pattern = g.pattern :=
    (mem_detect.mp hf).eq_of_strength_eq (index ▸ mem_detect.mp hg) strength
  rw [← index, here, Option.some.injEq] at here'
  cases f
  cases g
  cases pattern
  cases index
  cases here'
  rfl

/-- What the search keeps is one of the findings seen, and none of them is greater. -/
theorem foldl_best (f : Finding) (fs : List Finding) :
    fs.foldl (fun best g => if best.lt g then g else best) f ∈ f :: fs ∧
      ∀ g ∈ f :: fs, g.rank ≤ (fs.foldl (fun best g => if best.lt g then g else best) f).rank := by
  induction fs generalizing f with
  | nil => simp
  | cons g fs ih =>
      rw [List.foldl_cons]
      by_cases greater : f.lt g
      · rw [if_pos greater]
        obtain ⟨kept, least⟩ := ih g
        refine ⟨List.mem_cons_of_mem _ kept, List.forall_mem_cons.mpr ⟨?_, least⟩⟩
        exact (lt_iff.mp greater).le.trans (least g List.mem_cons_self)
      · rw [if_neg greater]
        obtain ⟨kept, least⟩ := ih f
        rw [List.forall_mem_cons] at least
        refine ⟨List.cons_subset_cons _ (List.subset_cons_self _ _) kept, ?_⟩
        rw [List.forall_mem_cons, List.forall_mem_cons]
        refine ⟨least.1, ?_, least.2⟩
        exact (not_lt.mp (mt lt_iff.mpr greater)).trans least.1

/-- A finding of which every other one falls short. -/
def IsBest (fs : List Finding) (f : Finding) : Prop := f ∈ fs ∧ ∀ g ∈ fs, g ≠ f → g.rank < f.rank

theorem best?_eq_some_iff (distinct : (fs.map rank).Nodup) : best? fs = some f ↔ IsBest fs f := by
  cases fs with
  | nil => simp [best?, IsBest]
  | cons g fs =>
      rw [best?, Option.some.injEq]
      obtain ⟨kept, greatest⟩ := foldl_best g fs
      have unique := List.inj_on_of_nodup_map distinct
      constructor
      · rintro rfl
        refine ⟨kept, fun g' hg' differ => lt_of_le_of_ne (greatest g' hg') fun same => ?_⟩
        exact differ (unique hg' kept same)
      · rintro ⟨member, best⟩
        by_contra differ
        exact absurd (best _ kept differ) (not_lt.mpr (greatest f member))

theorem exists_best? (h : f ∈ fs) : ∃ g, best? fs = some g := by
  cases fs with
  | nil => cases h
  | cons g fs => exact ⟨_, rfl⟩

/-- The order in which findings are listed does not matter. -/
theorem best?_perm {fs' : List Finding} (distinct : (fs.map rank).Nodup) (perm : fs.Perm fs') :
    best? fs = best? fs' := by
  ext f
  rw [best?_eq_some_iff distinct, best?_eq_some_iff ((perm.map rank).nodup_iff.mp distinct), IsBest,
    IsBest]
  simp only [perm.mem_iff]

end Finding

/-! ## The digit of the greatest finding -/

namespace TerminalPattern

/-- The last digits of the latest numbers. -/
def digits (c : TerminalPattern) (h : History) : List Int :=
  (h.numbers.drop (h.numbers.length - c.window)).map Wheel.terminal

/-- A finding that counts. -/
structure Candidate (c : TerminalPattern) (ts : List Int) (f : Finding) : Prop where
  occurs : f.pattern.Occurs ts f.index f.terminal
  allowed : ∀ p ∈ c.pattern, p = f.pattern
  strong : c.minStrength ≤ f.strength

/-- The one finding that counts most. -/
structure Greatest (c : TerminalPattern) (ts : List Int) (f : Finding) : Prop extends
    Candidate c ts f where
  best : ∀ g, c.Candidate ts g → g ≠ f → g.rank < f.rank

/-- A number of the family of a digit or, if wanted, one that is few steps away on the wheel. -/
structure Contributes (c : TerminalPattern) (terminal n : Int) : Prop where
  onWheel : Wheel.OnWheel n
  zero : n = 0 → c.includeZero
  near : ∃ m, Wheel.OnWheel m ∧ Wheel.terminal m = terminal ∧
    (n = m ∨ c.includeNeighbors ∧ ∃ d, Wheel.distance? n m = some d ∧ d ≤ c.radius)

variable {c : TerminalPattern} {ts : List Int} {f : Finding} {h : History} {n t : Int}

theorem mem_filter_allows : f ∈ (Finding.detect ts).filter c.allows ↔ c.Candidate ts f := by
  have allowed : c.allows f ↔ (∀ p ∈ c.pattern, p = f.pattern) ∧ c.minStrength ≤ f.strength := by
    simp only [allows, Bool.and_eq_true, decide_eq_true_eq, Option.all_eq_true, beq_iff_eq,
      Option.mem_def]
  rw [List.mem_filter, Finding.mem_detect, allowed]
  constructor
  · rintro ⟨occurs, allowed, strong⟩
    exact ⟨occurs, allowed, strong⟩
  · rintro ⟨occurs, allowed, strong⟩
    exact ⟨occurs, allowed, strong⟩

theorem nodup_rank_filter (c : TerminalPattern) (ts : List Int) :
    (((Finding.detect ts).filter c.allows).map Finding.rank).Nodup :=
  (Finding.nodup_rank_detect ts).sublist (List.filter_sublist.map _)

theorem best?_filter_eq_some_iff :
    Finding.best? ((Finding.detect ts).filter c.allows) = some f ↔ c.Greatest ts f := by
  rw [Finding.best?_eq_some_iff (nodup_rank_filter c ts), Finding.IsBest, mem_filter_allows]
  simp only [mem_filter_allows]
  constructor
  · rintro ⟨candidate, best⟩
    exact ⟨candidate, best⟩
  · intro greatest
    exact ⟨greatest.toCandidate, greatest.best⟩

theorem mem_numbersFor (digit : 0 ≤ t ∧ t < 10) :
    n ∈ Wheel.normalize (c.numbersFor t) ↔ c.Contributes t n := by
  have family : ∀ m, m ∈ Wheel.family t ↔ Wheel.OnWheel m ∧ Wheel.terminal m = t := fun _ =>
    Wheel.mem_family digit
  have near : n ∈ (if c.includeNeighbors then
      Wheel.family t ++ (Wheel.family t).flatMap (Wheel.neighbours · c.radius)
      else Wheel.family t) ↔ ∃ m, Wheel.OnWheel m ∧ Wheel.terminal m = t ∧
        (n = m ∨ c.includeNeighbors ∧ ∃ d, Wheel.distance? n m = some d ∧ d ≤ c.radius) := by
    cases c.includeNeighbors
    · simp [family]
    · simp [family, Wheel.mem_neighbours, List.mem_flatMap, and_or_left, exists_or, and_assoc]
  have zero : ∀ ns : List Int, n ∈ (if c.includeZero then ns else ns.filter (· ≠ 0)) ↔
      (n = 0 → c.includeZero) ∧ n ∈ ns := by
    intro ns
    cases c.includeZero <;> simp [and_comm]
  simp only [Wheel.mem_normalize, numbersFor, zero, near]
  constructor
  · rintro ⟨⟨zero, near⟩, onWheel⟩
    exact ⟨onWheel, zero, near⟩
  · rintro ⟨onWheel, zero, near⟩
    exact ⟨⟨zero, near⟩, onWheel⟩

/-- What a pattern stands with is a digit. -/
theorem Candidate.digit (candidate : c.Candidate (c.digits h) f) :
    0 ≤ f.terminal ∧ f.terminal < 10 := by
  have member := List.mem_of_getElem? candidate.occurs.getElem?_eq
  obtain ⟨n, -, terminal⟩ := List.mem_map.mp member
  rw [← terminal, Wheel.terminal]
  omega

theorem passed_evaluate_iff : (c.evaluate h).passed ↔ ∃ f, c.find? h = some f := by
  simp only [evaluate]
  cases c.find? h with
  | none => simp [Outcome.noMatch]
  | some f => simp [Outcome.found]

theorem numbers_evaluate (found : c.find? h = some f) :
    (c.evaluate h).numbers = Wheel.normalize (c.numbersFor f.terminal) := by
  simp only [evaluate, found]
  rfl

/-- The finding is the greatest candidate among the digits. -/
theorem find?_eq_some_iff : c.find? h = some f ↔ c.Greatest (c.digits h) f :=
  best?_filter_eq_some_iff

theorem exists_greatest_of_candidate (candidate : c.Candidate ts f) : ∃ g, c.Greatest ts g := by
  obtain ⟨g, found⟩ := Finding.exists_best? (mem_filter_allows.mpr candidate)
  exact ⟨g, best?_filter_eq_some_iff.mp found⟩

/-- How patterns of last digits are found, which of them counts, and what it contributes. -/
structure Decided (c : TerminalPattern) : Prop where
  distinct : ∀ ts, ((Finding.detect ts).map Finding.rank).Nodup
  best : ∀ ts f, Finding.best? ((Finding.detect ts).filter c.allows) = some f ↔ c.Greatest ts f
  unordered : ∀ (ts : List Int) (fs : List Finding), fs.Perm (Finding.detect ts) →
    Finding.best? (fs.filter c.allows) = Finding.best? ((Finding.detect ts).filter c.allows)
  passed : ∀ h, (c.evaluate h).passed ↔ ∃ f, c.Candidate (c.digits h) f
  numbers : ∀ h, (c.evaluate h).passed → ∃ f, c.Greatest (c.digits h) f ∧
    ∀ n, n ∈ (c.evaluate h).numbers ↔ c.Contributes f.terminal n

end TerminalPattern

/-- No two findings are equally strong at one index, so the one that counts is the same in any
order, and a condition is a match exactly if a pattern counts. -/
theorem decided_terminalPattern (c : TerminalPattern) : c.Decided where
  distinct := Finding.nodup_rank_detect
  best _ _ := TerminalPattern.best?_filter_eq_some_iff
  unordered ts fs perm := by
    have perm' := (perm.filter c.allows).symm
    exact (Finding.best?_perm (TerminalPattern.nodup_rank_filter c ts) perm').symm
  passed h := by
    rw [TerminalPattern.passed_evaluate_iff]
    simp only [TerminalPattern.find?_eq_some_iff]
    constructor
    · rintro ⟨f, greatest⟩
      exact ⟨f, greatest.toCandidate⟩
    · rintro ⟨f, candidate⟩
      exact TerminalPattern.exists_greatest_of_candidate candidate
  numbers h passed := by
    obtain ⟨f, found⟩ := TerminalPattern.passed_evaluate_iff.mp passed
    have greatest := TerminalPattern.find?_eq_some_iff.mp found
    refine ⟨f, greatest, fun n => ?_⟩
    rw [TerminalPattern.numbers_evaluate found]
    exact TerminalPattern.mem_numbersFor greatest.digit

/-- An alternation is stronger than what stands after it. -/
example : Finding.best? (Finding.detect [7, 3, 7, 3, 3]) = some ⟨.alternate, 3, 3⟩ := by decide

end RouletteStrategy.Condition
