import RouletteStrategy.Evaluation.Evaluate
import RouletteStrategy.Proofs.Condition.Outcome
import RouletteStrategy.Proofs.Condition.Reading
import RouletteStrategy.Proofs.Graph.Valid

/-!
# The parts of an evaluation

An evaluation that gives a result has read the terms it works with (`Graph.evaluate_eq_ok`), and
its tables of conditions and logic nodes are maps of these nodes in node order.
-/

namespace RouletteStrategy

/-- What an evaluation works with besides the graph: the spins, and the mode and rules in force. -/
structure Terms where
  spins : History
  mode : SelectionMode
  rules : GatingRules

namespace Graph

variable {g : Graph} {history ctx : Json} {e : Evaluation} {t : Terms}

/-- The terms of an evaluation: the overrides win over the mode and rules of the graph. -/
def terms (g : Graph) (history ctx : Json) : Except Error Terms := do
  let spins ← History.read history
  let overrides ← Context.read ctx
  let rules ← (← g.rules).merge overrides.gating
  return ⟨spins, SelectionMode.read overrides.mode g.mode, rules⟩

theorem terms_eq_ok : g.terms history ctx = .ok t ↔ ∃ overrides own,
    History.read history = .ok t.spins ∧ Context.read ctx = .ok overrides ∧ g.rules = .ok own ∧
      own.merge overrides.gating = .ok t.rules ∧
      SelectionMode.read overrides.mode g.mode = t.mode := by
  simp only [terms, bind_eq_ok]
  constructor
  · rintro ⟨spins, hspins, overrides, hctx, own, hown, rules, hrules, h⟩
    obtain rfl := Except.ok.inj h
    exact ⟨overrides, own, hspins, hctx, hown, hrules, by dsimp only⟩
  · rintro ⟨overrides, own, hspins, hctx, hown, hrules, hmode⟩
    refine ⟨t.spins, hspins, overrides, hctx, own, hown, t.rules, hrules, ?_⟩
    rw [hmode]
    rfl

/-- Overrides that are read, with rules that can be overridden, leave only the history to read. -/
theorem terms_of_overrides {overrides : Context} {own rules : GatingRules}
    (hctx : Context.read ctx = .ok overrides) (hown : g.rules = .ok own)
    (hrules : own.merge overrides.gating = .ok rules) (history : Json) :
    g.terms history ctx = (History.read history).map fun spins =>
      ⟨spins, SelectionMode.read overrides.mode g.mode, rules⟩ := by
  unfold terms
  rw [hctx, hown]
  cases History.read history with
  | error e => rfl
  | ok spins =>
      show (own.merge overrides.gating >>= fun rules => _) = _
      rw [hrules]
      rfl

/-- An evaluation reads its terms, then the conditions, and concludes from both. -/
theorem evaluate_eq_bind (g : Graph) (history ctx : Json) : g.evaluate history ctx = do
    let t ← g.terms history ctx
    let records ← g.conditionRecords t.spins
    return g.conclude t.spins t.mode t.rules records := by
  simp only [evaluate, evaluateHistory, terms, bind_assoc, pure_bind]

theorem evaluate_of_terms (h : g.terms history ctx = .ok t) :
    g.evaluate history ctx =
      (g.conditionRecords t.spins).map (g.conclude t.spins t.mode t.rules) := by
  rw [evaluate_eq_bind, h]
  show (g.conditionRecords t.spins >>= fun rs => .ok (g.conclude t.spins t.mode t.rules rs)) = _
  cases g.conditionRecords t.spins <;> rfl

theorem evaluate_eq_ok : g.evaluate history ctx = .ok e ↔
    ∃ t records, g.terms history ctx = .ok t ∧ g.conditionRecords t.spins = .ok records ∧
      g.conclude t.spins t.mode t.rules records = e := by
  rw [evaluate_eq_bind, bind_eq_ok]
  constructor
  · rintro ⟨t, hterms, h⟩
    obtain ⟨records, hrecords, h⟩ := bind_eq_ok.mp h
    exact ⟨t, records, hterms, hrecords, Except.ok.inj h⟩
  · rintro ⟨t, records, hterms, hrecords, rfl⟩
    exact ⟨t, hterms, bind_eq_ok.mpr ⟨records, hrecords, rfl⟩⟩

theorem inBounds_terms (h : g.terms history ctx = .ok t) : t.rules.InBounds := by
  obtain ⟨overrides, own, -, -, hown, hrules, -⟩ := terms_eq_ok.mp h
  exact (GatingRules.inBounds_ofObject hown).merge hrules

theorem mode_mem_known_terms (known : g.mode ∈ SelectionMode.known)
    (h : g.terms history ctx = .ok t) : t.mode ∈ SelectionMode.known := by
  obtain ⟨overrides, own, -, -, -, -, hmode⟩ := terms_eq_ok.mp h
  rw [← hmode]
  exact SelectionMode.read_mem_known _ known

end Graph

/-! ## Conditions -/

namespace Node

/-- The outcome of the condition at a node; settings that cannot be read match nothing. -/
def outcome (n : Node) (h : History) : Condition.Outcome :=
  match Condition.read (n.subtype.getD "") (.obj n.config) with
  | .ok c => c.evaluate h
  | .error _ => .noMatch []

def passes (n : Node) (h : History) : Bool := (n.outcome h).passed

def record (n : Node) (h : History) : ConditionRecord := ⟨n.id, n.subtype, n.outcome h⟩

theorem formed_outcome (n : Node) (h : History) : (n.outcome h).Formed := by
  unfold outcome
  split
  · exact Condition.formed_evaluate _ h
  · exact .noMatch _

/-- A setting that the condition at a node reads as a number is an integer beyond every float. -/
def HasHugeSetting (n : Node) : Prop :=
  ∃ names ∈ Condition.Kind.numberSettings n.config (.ofSubtype (n.subtype.getD "")),
    (n.config.setting names).IsHuge

end Node

namespace ConditionRecord

/-- Whether a record has numbers to contribute. -/
def contributes (r : ConditionRecord) : Bool := r.outcome.passed && !r.outcome.numbers.isEmpty

theorem contributes_iff {r : ConditionRecord} :
    r.contributes ↔ r.outcome.passed ∧ r.outcome.numbers ≠ [] := by
  simp [contributes]

theorem map_contributions (rs : List ConditionRecord) :
    (rs.filterMap contribution?).map (fun c => (c.nodeId, c.numbers)) =
      (rs.filter contributes).map fun r => (r.nodeId, r.outcome.numbers) := by
  induction rs with
  | nil => rfl
  | cons r rs ih =>
      by_cases h : r.contributes
      · have some : r.contribution? = some ⟨r.nodeId, Condition.Kind.ofSubtype (r.subtype.getD ""),
            r.outcome.reason, r.outcome.numbers, r.outcome.params⟩ := if_pos h
        rw [List.filterMap_cons_some some, List.filter_cons_of_pos h, List.map_cons, List.map_cons,
          ih]
      · have none : r.contribution? = none := if_neg h
        rw [List.filterMap_cons_none none, List.filter_cons_of_neg h, ih]

theorem mem_flatMap_contributions {rs : List ConditionRecord} {n : Int} :
    n ∈ (rs.filterMap contribution?).flatMap (·.numbers) ↔
      ∃ r ∈ rs, r.outcome.passed ∧ n ∈ r.outcome.numbers := by
  have pairs : (rs.filterMap contribution?).flatMap (·.numbers) =
      ((rs.filterMap contribution?).map fun c => (c.nodeId, c.numbers)).flatMap (·.2) := by
    rw [List.flatMap_map]
  rw [pairs, map_contributions, List.flatMap_map, List.mem_flatMap]
  simp only [List.mem_filter, contributes_iff]
  constructor
  · rintro ⟨r, ⟨hr, passed, -⟩, hn⟩
    exact ⟨r, hr, passed, hn⟩
  · rintro ⟨r, hr, passed, hn⟩
    exact ⟨r, ⟨hr, passed, List.ne_nil_of_mem hn⟩, hn⟩

end ConditionRecord

namespace Graph

variable {g : Graph} {h : History} {rs : List ConditionRecord}

/-- Conditions are read one after another, and each can fail in the same way only. -/
theorem failsIff_conditionRecords (g : Graph) (h : History) : FailsIff .numberTooLarge
    (∃ n ∈ g.nodesOf .condition, n.HasHugeSetting) (g.conditionRecords h) := by
  refine FailsIff.mapM fun n _ => ?_
  refine ((Condition.reads_read n.config _).fails.bind (q := False) fun c _ => ?_).congr ?_
  · exact FailsIff.ok _
  · exact or_iff_left id

theorem conditionRecords_eq_map (hrs : g.conditionRecords h = .ok rs) :
    rs = (g.nodesOf .condition).map (·.record h) := by
  refine eq_map_of_mapM (fun n r hr => ?_) hrs
  obtain ⟨c, hread, hr⟩ := bind_eq_ok.mp hr
  cases hr
  rw [Node.record, Node.outcome, hread]

/-- The verdict on each condition node. -/
def conditionVerdicts (g : Graph) (h : History) : Verdicts :=
  (g.nodesOf .condition).map fun n => (n.id, n.passes h)

/-- The verdict on each logic node. -/
def logicVerdictsAt (g : Graph) (h : History) : Verdicts :=
  (g.nodesOf .logic).map fun n => (n.id, (g.logicResult (g.conditionVerdicts h) n).result)

/-- The signal in charge. -/
def signalAt (g : Graph) (h : History) : Signal :=
  g.resolveSignal (g.conditionVerdicts h) (g.logicVerdictsAt h)

theorem mem_nodesOf_of_resolveSignal {conditions logic : Verdicts} {n : Node}
    (hn : (g.resolveSignal conditions logic).node = some n) : n ∈ g.nodesOf .signal := by
  simp only [resolveSignal] at hn
  split at hn
  next found =>
    obtain rfl := Option.some.inj hn
    exact List.mem_of_find?_eq_some found
  next => exact List.mem_of_mem_head? hn

/-- The condition nodes connected to a node, in order of the connections. -/
def conditionSources (g : Graph) (id : String) : List Node :=
  (g.sources id).filter (·.kind == .condition)

theorem conditionInputs_eq_map (conditions : Verdicts) (id : String) :
    g.conditionInputs conditions id = (g.conditionSources id).map fun n => conditions.of n.id := rfl

theorem mem_conditionSources {id : String} {n : Node} :
    n ∈ g.conditionSources id ↔ n ∈ g.sources id ∧ n.kind = .condition := by
  rw [conditionSources, List.mem_filter, beq_iff_eq]

theorem mem_nodes_of_mem_sources {id : String} {n : Node} (hn : n ∈ g.sources id) :
    n ∈ g.nodes := by
  obtain ⟨c, -, found⟩ := List.mem_filterMap.mp hn
  exact List.mem_reverse.mp (List.mem_of_find?_eq_some found)

namespace Valid

variable (valid : g.Valid)
include valid

theorem verdicts_map_record :
    verdicts ((g.nodesOf .condition).map (·.record h)) = g.conditionVerdicts h := by
  rw [verdicts, List.foldl_map]
  exact Members.foldl_set_of_nodup Node.id (·.passes h) (valid.nodup_ids .condition)

theorem logicResults_eq_map (conditions : Verdicts) :
    g.logicResults conditions =
      (g.nodesOf .logic).map fun n => (n.id, g.logicResult conditions n) := by
  rw [logicResults]
  exact Members.foldl_set_of_nodup Node.id _ (valid.nodup_ids .logic)

/-- A table over the nodes of a kind has an entry for each of them. -/
theorem get?_map_nodesOf {kind : NodeKind} (f : Node → Bool) {n : Node} (hn : n ∈ g.nodes)
    (hkind : n.kind = kind) :
    Members.get? ((g.nodesOf kind).map fun n => (n.id, f n)) n.id = some (f n) := by
  have found : (g.nodesOf kind).find? (·.id == n.id) = some n :=
    (find?_id_eq_some_iff (valid.nodup_ids kind)).mpr ⟨mem_nodesOf.mpr ⟨hn, hkind⟩, rfl⟩
  rw [Members.get?_map_items Node.id, found]
  rfl

theorem of_map_nodesOf {kind : NodeKind} (f : Node → Bool) {n : Node} (hn : n ∈ g.nodes)
    (hkind : n.kind = kind) :
    Verdicts.of ((g.nodesOf kind).map fun n => (n.id, f n)) n.id = f n := by
  rw [Verdicts.of, valid.get?_map_nodesOf f hn hkind]
  rfl

theorem conditionInputs_eq (id : String) :
    g.conditionInputs (g.conditionVerdicts h) id = (g.conditionSources id).map (·.passes h) := by
  rw [conditionInputs_eq_map]
  refine List.map_congr_left fun n hn => ?_
  obtain ⟨hsource, hkind⟩ := mem_conditionSources.mp hn
  exact valid.of_map_nodesOf (·.passes h) (mem_nodes_of_mem_sources hsource) hkind

theorem logicVerdicts_logicResults :
    logicVerdicts (g.logicResults (g.conditionVerdicts h)) = g.logicVerdictsAt h := by
  rw [valid.logicResults_eq_map, logicVerdicts, logicVerdictsAt, List.map_map]
  rfl

end Valid

end Graph

/-! ## The whole -/

/-- What the fields of an evaluation are, given its terms. -/
structure Evaluation.Concluded (g : Graph) (t : Terms) (e : Evaluation) : Prop where
  mode : e.trace.mode = t.mode
  records : e.trace.records = (g.nodesOf .condition).map (·.record t.spins)
  logic : e.trace.logic = (g.nodesOf .logic).map (g.logicResult (g.conditionVerdicts t.spins))
  contributions :
    e.trace.contributions = e.trace.records.filterMap ConditionRecord.contribution?
  derived : e.derived = Wheel.normalize (e.trace.contributions.flatMap (·.numbers))
  lastNumber : e.trace.lastNumber = t.spins.lastNumber?
  signalActive : e.trace.signalActive = (g.signalAt t.spins).active
  signalNode : e.trace.signalNode = (g.signalAt t.spins).node.map (·.id)
  manualNumbers : e.trace.manualNumbers = (g.signalAt t.spins).manualNumbers
  selection : Gating.select e.derived e.trace.manualNumbers t.mode t.rules e.trace.signalActive
    e.trace.lastNumber = ⟨e.numbers, e.trace.applied, e.halted⟩

namespace Graph

variable {g : Graph} {history ctx : Json} {e : Evaluation}

theorem concluded_of_evaluate (valid : g.Valid) (h : g.evaluate history ctx = .ok e) :
    ∃ t, g.terms history ctx = .ok t ∧ e.Concluded g t := by
  obtain ⟨t, records, hterms, hrecords, rfl⟩ := evaluate_eq_ok.mp h
  obtain rfl := conditionRecords_eq_map hrecords
  have signal : g.resolveSignal (verdicts ((g.nodesOf .condition).map (·.record t.spins)))
      (logicVerdicts (g.logicResults (verdicts ((g.nodesOf .condition).map (·.record t.spins))))) =
        g.signalAt t.spins := by
    rw [valid.verdicts_map_record, valid.logicVerdicts_logicResults, signalAt]
  refine ⟨t, hterms, ?_⟩
  -- only what depends on the tables of verdicts needs that ids are distinct
  constructor
  case logic =>
    simp only [conclude, valid.verdicts_map_record, valid.logicResults_eq_map, List.map_map]
    rfl
  case signalActive | signalNode | manualNumbers => simp only [conclude, signal]
  all_goals rfl

end Graph

/-! ## A run with both kinds of logic -/

/-- Two conditions, a conjunction of both with a negation behind it, and a signal behind each. -/
def evenRedRun : Json.Object :=
  [("name", .str "Even and red"),
   ("gating", .obj [("maxNumbersHybrid", .int 4), ("excludeZero", .bool true)]),
   ("nodes", .arr [
     .obj [("id", .str "start"), ("type", .str "trigger")],
     .obj [("id", .str "red"), ("type", .str "condition"), ("subtype", .str "repetition"),
       ("config", .obj [("evento", .str "red")])],
     .obj [("id", .str "even"), ("type", .str "condition"), ("subtype", .str "repetition"),
       ("config", .obj [("eixo", .str "paridade")])],
     .obj [("id", .str "both"), ("type", .str "logic")],
     .obj [("id", .str "unless"), ("type", .str "logic"),
       ("config", .obj [("operator", .str "NOT")])],
     .obj [("id", .str "rest"), ("type", .str "signal")],
     .obj [("id", .str "bet"), ("type", .str "signal"),
       ("config", .obj [("numbers", .arr [.int 0, .int 5, .int 99, .int 7])])]]),
   ("connections", .arr [
     .obj [("source", .str "start"), ("target", .str "red")],
     .obj [("source", .str "red"), ("target", .str "both")],
     .obj [("source", .str "even"), ("target", .str "both")],
     .obj [("source", .str "both"), ("target", .str "unless")],
     .obj [("source", .str "unless"), ("target", .str "rest")],
     .obj [("source", .str "both"), ("target", .str "bet")]])]

def evenRedSpins : Json := .arr [.int 12, .int 14]

/-- Overrides of the mode and of one rule. -/
def evenRedOverrides : Json :=
  .obj [("selectionMode", .str "hybrid"), ("gating", .obj [("minManualHybrid", .int 2)])]

theorem exists_evaluate_evenRedRun : ∃ g e, Graph.read (.obj evenRedRun) = .ok g ∧
    g.evaluate evenRedSpins evenRedOverrides = .ok e ∧ e.trace.signalNode = some "bet" ∧
    e.trace.signalActive = true := by
  have accepted : (Graph.read (.obj evenRedRun) >>= fun g =>
      g.evaluate evenRedSpins evenRedOverrides).map
        (fun e => (e.trace.signalNode, e.trace.signalActive)) = .ok (some "bet", true) := by rfl
  obtain ⟨e, h, told⟩ := map_eq_ok.mp accepted
  obtain ⟨g, hread, h⟩ := bind_eq_ok.mp h
  exact ⟨g, e, hread, h, Prod.mk.inj told⟩

end RouletteStrategy
