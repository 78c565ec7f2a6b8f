import RouletteStrategy.Proofs.Condition.Reading

/-!
# Conditions without spins

Where nothing was spun, a condition with its numbers in bounds matches only if it is a window over
the length of the history that begins at zero (`Condition.passed_nil_iff`).
-/

namespace RouletteStrategy

@[simp] theorem History.latest_nil (n : Nat) : latest n [] = [] := List.drop_nil

@[simp] theorem History.numbers_nil : numbers [] = [] := rfl

@[simp] theorem History.lastNumber?_nil : lastNumber? [] = none := rfl

namespace Condition

@[simp] theorem Outcome.passed_noMatch (params : Json.Object) : (noMatch params).passed = false :=
  rfl

@[simp] theorem Outcome.passed_found (ns : List Int) (reason : String) (params : Json.Object) :
    (found ns reason params).passed = true := rfl

theorem Repetition.passed_nil {c : Repetition} (bounds : InBounds (.repetition c)) :
    (c.evaluate []).passed = false := by
  cases c with
  | ofEvent event n =>
      have least : ¬ n ≤ 0 := Nat.not_le.mpr bounds.1
      simp [evaluate, least]
  | ofAxis axis n => simp [evaluate]

theorem Absence.passed_nil {c : Absence} (bounds : 1 ≤ c.spins) :
    (c.evaluate []).passed = false := by
  have short : 0 < c.spins := bounds
  simp [evaluate, short]

theorem Trend.passed_nil (c : Trend) : (c.evaluate []).passed = false := by
  simp [evaluate]

/-- A number that is given still has to be close to a recent one. -/
theorem Neighbors.passed_nil (c : Neighbors) : (c.evaluate []).passed = false := by
  cases number : c.number <;> simp [evaluate, number]

theorem Mirror.passed_nil (c : Mirror) : (c.evaluate []).passed = false := by
  simp [evaluate]

theorem SpecificNumber.passed_nil {c : SpecificNumber} (bounds : 1 ≤ c.spins) :
    (c.evaluate []).passed = false := by
  have short : 0 < c.spins := bounds
  cases number : c.number with
  | none => simp [evaluate, number]
  | some n =>
      by_cases occurred : c.mode = "ocorreu"
      · simp [evaluate, number, occurred]
      · by_cases missing : c.mode = "ausente"
        · simp [evaluate, number, missing, short]
        · simp [evaluate, number, occurred, missing]

theorem RepeatNumber.passed_nil {c : RepeatNumber} (bounds : 1 ≤ c.count) :
    (c.evaluate []).passed = false := by
  have least : ¬ c.count ≤ 0 := Nat.not_le.mpr bounds
  cases number : c.number <;> simp [evaluate, number, least]

theorem Alternation.passed_nil (c : Alternation) : (c.evaluate []).passed = false := by
  simp [evaluate]

theorem DominantSector.passed_nil {c : DominantSector} (bounds : InBounds (.dominantSector c)) :
    (c.evaluate []).passed = false := by
  cases c with
  | fixed s window least =>
      have short : 0 < window := bounds.1.1
      simp [evaluate, short]
  | auto window least => simp [evaluate]

theorem Hot.passed_nil {c : Hot} (bounds : 1 ≤ c.window) : (c.evaluate []).passed = false := by
  have short : 0 < c.window := bounds
  simp [evaluate, short]

/-- However many differences are allowed, the sequence needs spins to be compared with. -/
theorem Sequence.passed_nil (c : Sequence) : (c.evaluate []).passed = false := by
  cases elements : c.elements with
  | nil => simp [evaluate, elements]
  | cons next rest =>
      have unmatched : c.matchEnd? [] = none := by simp [matchEnd?, elements]
      simp [evaluate, elements, unmatched]

theorem RecentInSet.passed_nil (c : RecentInSet) : (c.evaluate []).passed = false := by
  simp [evaluate]

theorem AdjacentInList.passed_nil (c : AdjacentInList) : (c.evaluate []).passed = false := by
  simp [evaluate]

theorem TerminalPattern.passed_nil (c : TerminalPattern) : (c.evaluate []).passed = false := by
  simp [evaluate, find?, Finding.detect, Finding.best?]

theorem Break.passed_nil {c : Break} (bounds : 1 ≤ c.least) : (c.evaluate []).passed = false := by
  have short : 0 < c.least := bounds
  simp [evaluate, runLength, short]

theorem TimeWindow.passed_nil_iff (c : TimeWindow) : (c.evaluate []).passed ↔ c.first = 0 := by
  by_cases first : c.first = 0 <;> simp [evaluate, first]

/-- Without spins nothing matches but a window over the length of the history that begins at
zero. -/
theorem passed_nil_iff {c : Condition} (bounds : c.InBounds) :
    (c.evaluate []).passed ↔ ∃ w, c = .timeWindow w ∧ w.first = 0 := by
  have never (failed : (c.evaluate []).passed = false) (other : ∀ w, c ≠ .timeWindow w) :
      (c.evaluate []).passed ↔ ∃ w, c = .timeWindow w ∧ w.first = 0 := by
    rw [failed]
    refine iff_of_false Bool.false_ne_true ?_
    rintro ⟨w, eq, -⟩
    exact other w eq
  cases c with
  | repetition c => exact never (Repetition.passed_nil bounds) nofun
  | absence c => exact never (Absence.passed_nil bounds.1) nofun
  | trend c => exact never c.passed_nil nofun
  | neighbors c => exact never c.passed_nil nofun
  | mirror c => exact never c.passed_nil nofun
  | specificNumber c => exact never (SpecificNumber.passed_nil bounds.1) nofun
  | repeatNumber c => exact never (RepeatNumber.passed_nil bounds.1) nofun
  | alternation c => exact never c.passed_nil nofun
  | dominantSector c => exact never (DominantSector.passed_nil bounds) nofun
  | hot c => exact never (Hot.passed_nil bounds.1.1) nofun
  | sequence c => exact never c.passed_nil nofun
  | recentInSet c => exact never c.passed_nil nofun
  | adjacentInList c => exact never c.passed_nil nofun
  | terminalPattern c => exact never c.passed_nil nofun
  | «break» c => exact never (Break.passed_nil bounds.1) nofun
  | unknown subtype => exact never rfl nofun
  | timeWindow w =>
      rw [evaluate, w.passed_nil_iff]
      constructor
      · intro first
        exact ⟨w, rfl, first⟩
      · rintro ⟨_, ⟨rfl⟩, first⟩
        exact first

end Condition
end RouletteStrategy
