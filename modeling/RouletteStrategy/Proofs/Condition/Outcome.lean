import RouletteStrategy.Condition.Evaluate
import RouletteStrategy.Proofs.Wheel.Numbers

/-!
# What evaluating a condition gives

A condition of any kind gives no match, or a match with the wheel numbers of some list
(`formed_evaluate`): one lemma for each evaluator, along its branches.
-/

namespace RouletteStrategy.Condition

/-- The two forms of outcomes. -/
inductive Outcome.Formed : Outcome → Prop where
  | noMatch (params : Json.Object) : Formed (.noMatch params)
  | found (ns : List Int) (reason : String) (params : Json.Object) :
    Formed (.found ns reason params)

/-- The numbers of an outcome are wheel numbers in ascending order. -/
theorem Outcome.Formed.normalize_numbers {o : Outcome} (h : o.Formed) :
    Wheel.normalize o.numbers = o.numbers := by
  cases h with
  | noMatch => rfl
  | found ns => exact Wheel.normalize_normalize ns

theorem Outcome.Formed.onWheel {o : Outcome} (h : o.Formed) {n : Int} (hn : n ∈ o.numbers) :
    Wheel.OnWheel n := by
  rw [← h.normalize_numbers] at hn
  exact Wheel.onWheel_of_mem_normalize hn

theorem Outcome.Formed.ite {p : Prop} [Decidable p] {o o' : Outcome} (h : o.Formed)
    (h' : o'.Formed) : (if p then o else o').Formed := by
  split
  · exact h
  · exact h'

/-! ## Conditions on the end of the history -/

theorem Repetition.formed (c : Repetition) (h : History) : (c.evaluate h).Formed := by
  cases c with
  | ofEvent event n => exact .ite (.found ..) (.noMatch _)
  | ofAxis axis n =>
      simp only [evaluate]
      split
      · exact .noMatch _
      · exact .noMatch _
      · exact .ite (.noMatch _) (.found ..)

theorem Alternation.formed (c : Alternation) (h : History) : (c.evaluate h).Formed := by
  simp only [evaluate]
  split
  · exact .ite (.found ..) (.noMatch _)
  · exact .noMatch _

theorem Break.formed (c : Break) (h : History) : (c.evaluate h).Formed :=
  .ite (.noMatch _) (.found ..)

/-! ## Conditions on what occurs -/

theorem Absence.formed (c : Absence) (h : History) : (c.evaluate h).Formed := by
  refine .ite (.noMatch _) ?_
  split
  · exact .ite (.noMatch _) (.found ..)
  · exact .noMatch _
  · exact .ite (.noMatch _) (.found ..)

theorem Trend.formed (c : Trend) (h : History) : (c.evaluate h).Formed :=
  .ite (.noMatch _) (.ite (.noMatch _) (.found ..))

theorem SpecificNumber.formed (c : SpecificNumber) (h : History) : (c.evaluate h).Formed := by
  simp only [evaluate]
  split
  · exact .noMatch _
  · exact .ite (.ite (.found ..) (.noMatch _)) (.ite (.ite (.noMatch _) (.found ..)) (.noMatch _))

theorem RepeatNumber.formed (c : RepeatNumber) (h : History) : (c.evaluate h).Formed := by
  simp only [evaluate]
  split
  · exact .noMatch _
  · exact .ite (.found ..) (.noMatch _)

theorem TimeWindow.formed (c : TimeWindow) (h : History) : (c.evaluate h).Formed :=
  .ite (.found ..) (.noMatch _)

/-! ## Conditions on places of the wheel -/

theorem Neighbors.formed (c : Neighbors) (h : History) : (c.evaluate h).Formed := by
  simp only [evaluate]
  split
  · exact .noMatch _
  · exact .ite (.found ..) (.noMatch _)

theorem Mirror.formed (c : Mirror) (h : History) : (c.evaluate h).Formed := by
  simp only [evaluate]
  split
  · exact .noMatch _
  · split
    · exact .noMatch _
    · exact .found ..

theorem DominantSector.formed (c : DominantSector) (h : History) : (c.evaluate h).Formed := by
  cases c with
  | fixed | auto => exact .ite (.noMatch _) (.ite (.noMatch _) (.found ..))

theorem Hot.formed (c : Hot) (h : History) : (c.evaluate h).Formed :=
  .ite (.noMatch _) (.ite (.noMatch _) (.found ..))

/-! ## Conditions on given lists and on last digits -/

theorem Sequence.formed (c : Sequence) (h : History) : (c.evaluate h).Formed := by
  simp only [evaluate]
  split
  · exact .noMatch _
  · split
    · exact .noMatch _
    · exact .found ..

theorem RecentInSet.formed (c : RecentInSet) (h : History) : (c.evaluate h).Formed :=
  .ite (.noMatch _) (.found ..)

theorem AdjacentInList.formed (c : AdjacentInList) (h : History) : (c.evaluate h).Formed := by
  simp only [evaluate]
  split
  · exact .noMatch _
  · exact .found ..

theorem TerminalPattern.formed (c : TerminalPattern) (h : History) : (c.evaluate h).Formed := by
  simp only [evaluate]
  split
  · exact .noMatch _
  · exact .found ..

/-- Whatever a condition looks at, each of its ways through ends in one of the two forms. -/
theorem formed_evaluate (c : Condition) (h : History) : (c.evaluate h).Formed := by
  cases c with
  | repetition c => exact c.formed h
  | absence c => exact c.formed h
  | trend c => exact c.formed h
  | neighbors c => exact c.formed h
  | mirror c => exact c.formed h
  | specificNumber c => exact c.formed h
  | repeatNumber c => exact c.formed h
  | alternation c => exact c.formed h
  | dominantSector c => exact c.formed h
  | hot c => exact c.formed h
  | sequence c => exact c.formed h
  | recentInSet c => exact c.formed h
  | adjacentInList c => exact c.formed h
  | terminalPattern c => exact c.formed h
  | «break» c => exact c.formed h
  | timeWindow c => exact c.formed h
  | unknown => exact .noMatch _

end RouletteStrategy.Condition
