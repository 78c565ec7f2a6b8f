import RouletteStrategy.Proofs.Evaluation.Evaluate
import RouletteStrategy.Proofs.Gating.Selection

/-!
# Bounds on the final numbers

The final numbers of an evaluation keep to the mode and the rules in force, whatever the conditions,
the signals and the overrides are, and the verdict says whether there are any.
-/

namespace RouletteStrategy

namespace Evaluation

variable {e : Evaluation}

theorem shouldActivate_iff : e.shouldActivate ↔ e.numbers ≠ [] := by
  simp [shouldActivate]

theorem activeConfidence_ne : activeConfidence ≠ inactiveConfidence := by decide

theorem confidence_eq_active_iff : e.confidence = activeConfidence ↔ e.numbers ≠ [] := by
  rw [confidence, ← shouldActivate_iff]
  split
  next h => exact ⟨fun _ => h, fun _ => rfl⟩
  next h => exact ⟨fun same => absurd same.symm activeConfidence_ne, fun on => absurd on h⟩

theorem confidence_of_numbers_eq_nil (h : e.numbers = []) : e.confidence = inactiveConfidence := by
  rw [confidence, if_neg]
  rw [shouldActivate_iff]
  exact not_not_intro h

end Evaluation

namespace Graph

variable {g : Graph} {history ctx : Json} {e : Evaluation} {t : Terms}

/-- The numbers set by hand at the node of an id, none without a node. -/
def manualNumbersAt (g : Graph) (id : Option String) : List Int :=
  ((id.bind g.node?).map Node.manualNumbers).getD []

theorem manualNumbers_signalAt (valid : g.Valid) (spins : History) :
    (g.signalAt spins).manualNumbers = g.manualNumbersAt ((g.signalAt spins).node.map (·.id)) := by
  cases found : (g.signalAt spins).node with
  | none =>
      simp only [Signal.manualNumbers, found, manualNumbersAt, Option.map_none, Option.bind_none]
  | some n =>
      have hn := (mem_nodesOf.mp (mem_nodesOf_of_resolveSignal found)).1
      have lookup : g.node? n.id = some n := valid.node?_eq_some_iff.mpr ⟨hn, rfl⟩
      simp only [Signal.manualNumbers, found, manualNumbersAt, Option.map_some, Option.bind_some,
        lookup]

/-- The derived numbers are those of the conditions that match. -/
theorem mem_derived (he : e.Concluded g t) {n : Int} : n ∈ e.derived ↔
    ∃ c ∈ g.nodesOf .condition, c.passes t.spins ∧ n ∈ (c.outcome t.spins).numbers := by
  rw [he.derived, Wheel.mem_normalize, he.contributions, he.records,
    ConditionRecord.mem_flatMap_contributions]
  constructor
  · rintro ⟨⟨r, hr, passed, hn⟩, -⟩
    obtain ⟨c, hc, rfl⟩ := List.mem_map.mp hr
    exact ⟨c, hc, passed, hn⟩
  · rintro ⟨c, hc, passed, hn⟩
    exact ⟨⟨c.record t.spins, List.mem_map_of_mem hc, passed, hn⟩,
      (c.formed_outcome t.spins).onWheel hn⟩

end Graph

/-- What the final numbers of an evaluation keep to, and how they show in its verdict. -/
structure Evaluation.Bounded (g : Graph) (t : Terms) (e : Evaluation) : Prop where
  derived : ∀ n, n ∈ e.derived ↔
    ∃ c ∈ g.nodesOf .condition, c.passes t.spins ∧ n ∈ (c.outcome t.spins).numbers
  numbers : Gating.Bounded e.derived (g.manualNumbersAt e.trace.signalNode) t.mode t.rules
    e.trace.signalActive e.numbers
  activates : e.shouldActivate ↔ e.numbers ≠ []
  confident : e.numbers ≠ [] ↔ e.confidence = Binary64.ofRatio false 8 10
  unconfident : e.numbers = [] → e.confidence = Binary64.ofRatio false 1 10

namespace Graph

variable {g : Graph} {history ctx p : Json} {e : Evaluation} {origin : Pairs.Origin}

/-- The final numbers of an evaluation keep to the mode, one of the known ones, and to the rules. -/
theorem bounded_evaluate (hread : readFrom origin p = .ok g)
    (h : g.evaluate history ctx = .ok e) :
    ∃ t, g.terms history ctx = .ok t ∧ t.mode ∈ SelectionMode.known ∧ e.Bounded g t := by
  have valid := valid_of_readFrom hread
  obtain ⟨t, hterms, he⟩ := concluded_of_evaluate valid h
  have mode := mode_mem_known_terms (mode_mem_known_of_readFrom hread) hterms
  have selected : e.numbers = (Gating.select e.derived e.trace.manualNumbers t.mode t.rules
      e.trace.signalActive e.trace.lastNumber).numbers := by rw [he.selection]
  have manual : e.trace.manualNumbers = g.manualNumbersAt e.trace.signalNode := by
    rw [he.manualNumbers, he.signalNode, manualNumbers_signalAt valid]
  refine ⟨t, hterms, mode, fun n => mem_derived he, ?_, Evaluation.shouldActivate_iff,
    Evaluation.confidence_eq_active_iff.symm, Evaluation.confidence_of_numbers_eq_nil⟩
  rw [selected, manual]
  exact Gating.bounded_select _ _ _ _ _ _

theorem bounded_evaluate_evenRedRun : ∃ g e t, Graph.read (.obj evenRedRun) = .ok g ∧
    g.evaluate evenRedSpins evenRedOverrides = .ok e ∧ e.trace.signalActive = true ∧
    g.terms evenRedSpins evenRedOverrides = .ok t ∧ t.mode ∈ SelectionMode.known ∧
    e.Bounded g t := by
  obtain ⟨g, e, hread, h, -, active⟩ := exists_evaluate_evenRedRun
  obtain ⟨t, hterms, mode, bounded⟩ := bounded_evaluate hread h
  exact ⟨g, e, t, hread, h, active, hterms, mode, bounded⟩

end Graph
end RouletteStrategy
