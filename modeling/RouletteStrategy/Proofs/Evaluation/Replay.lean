import Mathlib.Data.List.Dedup
import RouletteStrategy.Evaluation.Report
import RouletteStrategy.Proofs.Evaluation.Evaluate
import RouletteStrategy.Proofs.Gating.Selection

/-!
# Replay of a decision from its report

The trace of an evaluation has the outcome of every condition, what each contributed and what each
logic node looked at. The report on it has all that the selection of the final numbers depends on:
selecting again from the report alone gives the same numbers for the same reasons.
-/

namespace RouletteStrategy

namespace Json

theorem filterMap_wholeNumber?_ofInts (ns : List Int) :
    (ofInts ns).items.filterMap wholeNumber? = ns := by
  simp only [ofInts, items, List.filterMap_map]
  exact List.filterMap_some

theorem wholeNumber?_ofOption (n : Option Int) : (ofOption .int n).wholeNumber? = n := by
  cases n <;> rfl

end Json

theorem SelectionMode.ofName_name {m : SelectionMode} (h : m ∈ known) : ofName m.name = m := by
  have found : ∀ m ∈ known, known.find? (·.name == m.name) = some m := by decide
  rw [ofName, found m h, Option.getD_some]

namespace Gating

/-- Ascending order without repetition is the normal form of wheel numbers. -/
theorem ascending_dedup {ns : List Int} (onWheel : ∀ n ∈ ns, Wheel.OnWheel n) :
    ascending ns.dedup = Wheel.normalize ns := by
  have sorted := pairwise_lt_ascending (List.nodup_dedup ns)
  apply sorted.eq_of_mem_iff (Wheel.pairwise_lt_normalize ns)
  intro n
  rw [mem_ascending, List.mem_dedup, Wheel.mem_normalize]
  exact ⟨fun h => ⟨h, onWheel n h⟩, fun h => h.1⟩

end Gating

/-! ## Reports -/

namespace Report

/-- The integers in a list. -/
def integers (v : Json) : List Int := v.items.filterMap Json.wholeNumber?

/-- The numbers that conditions contributed, each of them once, ascending. -/
def derived (report : Json.Object) : List Int :=
  let contributed := (report.at "derivedBy").items.flatMap fun c =>
    integers (Json.Object.at c.members "numbers")
  Gating.ascending contributed.dedup

/-- The selection that a report tells of, made again from what it says was looked at. -/
def replay (report : Json.Object) : Except Error Gating.Selection := do
  let inputs := (report.at "inputs").members
  let rules ← GatingRules.read (Json.Object.at (report.at "gatingApplied").members "rules")
  return Gating.select (derived report) (integers (inputs.at "manualNumbers"))
    (SelectionMode.ofName (report.at "selectionModeEvaluated").display) rules
    ((report.at "signalActive").flag false) (inputs.at "lastNumber").wholeNumber?

end Report

namespace Trace

/-- Whether the condition at a node passed, if there is a condition. -/
def passedAt (t : Trace) (id : String) : Option Bool :=
  (t.records.find? (·.nodeId == id)).map (·.outcome.passed)

theorem derived_toJson (t : Trace) :
    Report.derived t.toJson.members =
      Gating.ascending (t.contributions.flatMap (·.numbers)).dedup := by
  have entries : (Json.Object.at t.toJson.members "derivedBy").items =
      t.contributions.map Contribution.toJson := rfl
  have numbers (c : Contribution) :
      Report.integers (Json.Object.at c.toJson.members "numbers") = c.numbers :=
    Json.filterMap_wholeNumber?_ofInts c.numbers
  simp only [Report.derived, entries, List.flatMap_map, numbers]

theorem replay_toJson (t : Trace) (known : t.mode ∈ SelectionMode.known)
    (bounds : t.applied.rules.InBounds) :
    Report.replay t.toJson.members = .ok
      (Gating.select (Gating.ascending (t.contributions.flatMap (·.numbers)).dedup) t.manualNumbers
        t.mode t.applied.rules t.signalActive t.lastNumber) := by
  have rules : GatingRules.read (Json.Object.at
      (Json.Object.at t.toJson.members "gatingApplied").members "rules") = .ok t.applied.rules :=
    GatingRules.ofObject_toObject bounds
  have manual : Report.integers (Json.Object.at
      (Json.Object.at t.toJson.members "inputs").members "manualNumbers") = t.manualNumbers :=
    Json.filterMap_wholeNumber?_ofInts t.manualNumbers
  have last : (Json.Object.at (Json.Object.at t.toJson.members "inputs").members
      "lastNumber").wholeNumber? = t.lastNumber :=
    Json.wholeNumber?_ofOption t.lastNumber
  have mode : SelectionMode.ofName
      (Json.Object.at t.toJson.members "selectionModeEvaluated").display = t.mode :=
    SelectionMode.ofName_name known
  have active : (Json.Object.at t.toJson.members "signalActive").flag false = t.signalActive := rfl
  simp only [Report.replay, rules, manual, last, mode, active, derived_toJson]
  rfl

end Trace

/-- What the trace of an evaluation accounts for. -/
structure Evaluation.Traced (g : Graph) (t : Terms) (e : Evaluation) : Prop where
  /-- One entry for each condition node, in node order. -/
  conditions : e.trace.records = (g.nodesOf .condition).map (·.record t.spins)
  /-- One entry for each of them that matched and has numbers. -/
  contributions : e.trace.contributions.map (fun c => (c.nodeId, c.numbers)) =
    (e.trace.records.filter fun r => r.outcome.passed && !r.outcome.numbers.isEmpty).map
      fun r => (r.nodeId, r.outcome.numbers)
  /-- One entry for each logic node, with the verdicts on the conditions connected to it. -/
  logic : e.trace.logic.map (fun r => (r.nodeId, r.inputs)) =
    (g.nodesOf .logic).map fun n =>
      (n.id, (g.incoming n.id).filterMap fun c => e.trace.passedAt c.source)
  /-- The selection follows from the report. -/
  replay : Report.replay e.trace.toJson.members = .ok ⟨e.numbers, e.trace.applied, e.halted⟩

namespace Graph

variable {g : Graph} {history ctx p : Json} {e : Evaluation} {t : Terms} {origin : Pairs.Origin}

theorem passedAt_eq (valid : g.Valid) (he : e.Concluded g t) (id : String) :
    e.trace.passedAt id =
      ((g.node? id).filter (·.kind == .condition)).map (·.passes t.spins) := by
  have same : ((fun r : ConditionRecord => r.nodeId == id) ∘ fun n : Node => n.record t.spins) =
      fun n => n.id == id := rfl
  rw [Trace.passedAt, he.records, List.find?_map, same, valid.find?_nodesOf, Option.map_map]
  rfl

theorem inputs_eq (valid : g.Valid) (he : e.Concluded g t) (id : String) :
    g.conditionInputs (g.conditionVerdicts t.spins) id =
      (g.incoming id).filterMap fun c => e.trace.passedAt c.source := by
  rw [valid.conditionInputs_eq, conditionSources, sources, List.filter_filterMap,
    List.map_filterMap]
  simp only [passedAt_eq valid he]

/-- The numbers that conditions contribute are wheel numbers, so sorting them is enough. -/
theorem ascending_contributions (he : e.Concluded g t) :
    Gating.ascending (e.trace.contributions.flatMap (·.numbers)).dedup = e.derived := by
  rw [he.derived]
  apply Gating.ascending_dedup
  intro n hn
  rw [he.contributions, he.records, ConditionRecord.mem_flatMap_contributions] at hn
  obtain ⟨r, hr, -, hn⟩ := hn
  obtain ⟨c, -, rfl⟩ := List.mem_map.mp hr
  exact (c.formed_outcome t.spins).onWheel hn

/-- The trace of an evaluation accounts for its decision. -/
theorem replay_evaluate (hread : readFrom origin p = .ok g)
    (h : g.evaluate history ctx = .ok e) :
    ∃ t, g.terms history ctx = .ok t ∧ e.Traced g t := by
  have valid := valid_of_readFrom hread
  obtain ⟨t, hterms, he⟩ := concluded_of_evaluate valid h
  refine ⟨t, hterms, ?_⟩
  constructor
  case conditions => exact he.records
  case contributions =>
    rw [he.contributions]
    exact ConditionRecord.map_contributions _
  case logic =>
    rw [he.logic, List.map_map]
    refine List.map_congr_left fun n _ => ?_
    rw [← inputs_eq valid he]
    rfl
  case replay =>
    have rules : e.trace.applied.rules = t.rules := by
      have applied := congrArg (·.applied.rules) he.selection
      exact applied.symm.trans Gating.rules_applied_select
    have mode := mode_mem_known_terms (mode_mem_known_of_readFrom hread) hterms
    rw [Trace.replay_toJson _ (he.mode ▸ mode) (rules ▸ inBounds_terms hterms),
      ascending_contributions he, he.mode, rules, he.selection]

theorem replay_evaluate_evenRedRun : ∃ g e t, Graph.read (.obj evenRedRun) = .ok g ∧
    g.evaluate evenRedSpins evenRedOverrides = .ok e ∧ e.trace.signalActive = true ∧
    g.terms evenRedSpins evenRedOverrides = .ok t ∧ e.Traced g t := by
  obtain ⟨g, e, hread, h, -, active⟩ := exists_evaluate_evenRedRun
  obtain ⟨t, hterms, traced⟩ := replay_evaluate hread h
  exact ⟨g, e, t, hread, h, active, hterms, traced⟩

end Graph
end RouletteStrategy
