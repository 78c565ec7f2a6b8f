import Mathlib.Logic.Relation
import RouletteStrategy.Proofs.Evaluation.Evaluate

/-!
# Activation of signals

A signal is active exactly if some condition or logic node that holds is connected to a signal node,
and the first such signal node is in charge (`Graph.Valid.signalAt_cases`). Kinds of connections and
connections from triggers and signals have no influence (`Graph.evaluate_rewired`).
-/

namespace RouletteStrategy

/-- Whether the connections of a node to a signal count. -/
def Node.carries (n : Node) : Bool := n.kind == .condition || n.kind == .logic

namespace Graph

variable {g : Graph} {spins : History} {m n s : Node}

/-! ## Nodes that hold -/

/-- A connection leads from one node to the other. -/
def Joins (g : Graph) (m n : Node) : Prop := ∃ c ∈ g.connections, c.source = m.id ∧ c.target = n.id

/-- A condition holds if it matches. A logic node holds if no logic node is connected to it and its
operator gives true for the conditions that are. -/
inductive Holds (g : Graph) (spins : History) : Node → Prop where
  | condition {n : Node} (kind : n.kind = .condition) (passes : n.passes spins) : Holds g spins n
  | logic {n : Node} (kind : n.kind = .logic)
      (flat : ∀ m ∈ g.nodes, m.kind = .logic → ¬g.Joins m n)
      (combined : n.operator.combine ((g.conditionSources n.id).map (·.passes spins))) :
      Holds g spins n

/-- A node that holds is connected to the node. -/
def Reached (g : Graph) (spins : History) (s : Node) : Prop :=
  ∃ n ∈ g.nodes, g.Joins n s ∧ g.Holds spins n

theorem Holds.carries (h : g.Holds spins n) : n.carries := by
  cases h with
  | condition kind | logic kind => simp [Node.carries, kind]

theorem holds_iff_passes (kind : n.kind = .condition) : g.Holds spins n ↔ n.passes spins := by
  constructor
  · intro holds
    cases holds with
    | condition _ passes => exact passes
    | logic other => exact absurd (other.symm.trans kind) (by decide)
  · exact .condition kind

/-- What a node tells a signal that it is connected to. -/
def told (conditions logic : Verdicts) (n : Node) : Option Bool :=
  match n.kind with
  | .condition => some (conditions.of n.id)
  | .logic => some (logic.of n.id)
  | .trigger | .signal => none

theorem signalInputs_eq_filterMap (conditions logic : Verdicts) (id : String) :
    g.signalInputs conditions logic id = (g.sources id).filterMap (told conditions logic) := rfl

namespace Valid

variable (valid : g.Valid)
include valid

theorem mem_sources_iff : m ∈ g.sources n.id ↔ m ∈ g.nodes ∧ g.Joins m n := by
  rw [mem_sources]
  simp only [mem_incoming, valid.node?_eq_some_iff]
  constructor
  · rintro ⟨c, ⟨hc, target⟩, hm, source⟩
    exact ⟨hm, c, hc, source.symm, target⟩
  · rintro ⟨hm, c, hc, source, target⟩
    exact ⟨c, ⟨hc, target⟩, hm, source.symm⟩

theorem hasLogicSource_iff :
    g.hasLogicSource n.id ↔ ∃ m ∈ g.nodes, m.kind = .logic ∧ g.Joins m n := by
  simp only [hasLogicSource, List.any_eq_true, beq_iff_eq, valid.mem_sources_iff]
  constructor
  · rintro ⟨m, ⟨hm, joins⟩, kind⟩
    exact ⟨m, hm, kind, joins⟩
  · rintro ⟨m, hm, kind, joins⟩
    exact ⟨m, ⟨hm, joins⟩, kind⟩

theorem result_logicResult_iff (kind : n.kind = .logic) :
    (g.logicResult (g.conditionVerdicts spins) n).result ↔ g.Holds spins n := by
  simp only [logicResult, valid.conditionInputs_eq, Bool.and_eq_true, Bool.not_eq_true',
    ← Bool.not_eq_true, valid.hasLogicSource_iff]
  constructor
  · rintro ⟨flat, combined⟩
    exact .logic kind (fun m hm logic joins => flat ⟨m, hm, logic, joins⟩) combined
  · intro holds
    cases holds with
    | condition other => exact absurd (other.symm.trans kind) (by decide)
    | logic _ flat combined =>
        refine ⟨?_, combined⟩
        rintro ⟨m, hm, logic, joins⟩
        exact flat m hm logic joins

theorem told_eq_true_iff (hn : n ∈ g.nodes) :
    told (g.conditionVerdicts spins) (g.logicVerdictsAt spins) n = some true ↔
      g.Holds spins n := by
  have silent (h : n.carries = false) : ¬g.Holds spins n := fun holds =>
    absurd (h.symm.trans holds.carries) Bool.false_ne_true
  cases kind : n.kind with
  | condition =>
      rw [holds_iff_passes kind, conditionVerdicts]
      simp only [told, kind, valid.of_map_nodesOf _ hn kind, Option.some.injEq]
  | logic =>
      rw [← valid.result_logicResult_iff kind, logicVerdictsAt]
      simp only [told, kind, valid.of_map_nodesOf _ hn kind, Option.some.injEq]
  | trigger | signal =>
      refine iff_of_false ?_ (silent ?_)
      · simp [told, kind]
      · simp [Node.carries, kind]

/-- The inputs of a signal have the verdict on each node connected to it that can hold. -/
theorem mem_signalInputs_iff : true ∈ g.signalInputs (g.conditionVerdicts spins)
    (g.logicVerdictsAt spins) s.id ↔ g.Reached spins s := by
  rw [signalInputs_eq_filterMap, List.mem_filterMap]
  constructor
  · rintro ⟨n, hn, told⟩
    obtain ⟨mem, joins⟩ := valid.mem_sources_iff.mp hn
    exact ⟨n, mem, joins, (valid.told_eq_true_iff mem).mp told⟩
  · rintro ⟨n, mem, joins, holds⟩
    exact ⟨n, valid.mem_sources_iff.mpr ⟨mem, joins⟩, (valid.told_eq_true_iff mem).mpr holds⟩

/-- Whether any input of a signal is true. -/
theorem any_signalInputs_iff : (g.signalInputs (g.conditionVerdicts spins)
    (g.logicVerdictsAt spins) s.id).any id ↔ g.Reached spins s := by
  rw [← valid.mem_signalInputs_iff, List.any_eq_true]
  simp

/-- Either the first signal that is reached is active, or none is. -/
theorem signalAt_cases (spins : History) :
    ((g.signalAt spins).active = false ∧ ∀ s ∈ g.nodesOf .signal, ¬g.Reached spins s) ∨
    ((g.signalAt spins).active = true ∧ ∃ before s after,
      g.nodesOf .signal = before ++ s :: after ∧ (g.signalAt spins).node = some s ∧
      g.Reached spins s ∧ ∀ r ∈ before, ¬g.Reached spins r) := by
  cases found : (g.nodesOf .signal).find? fun s => (g.signalInputs (g.conditionVerdicts spins)
      (g.logicVerdictsAt spins) s.id).any id with
  | none =>
      left
      refine ⟨by simp only [signalAt, resolveSignal, found], fun s hs reached => ?_⟩
      exact List.find?_eq_none.mp found s hs (valid.any_signalInputs_iff.mpr reached)
  | some s =>
      right
      obtain ⟨told, before, after, order, silent⟩ := List.find?_eq_some_iff_append.mp found
      refine ⟨by simp only [signalAt, resolveSignal, found], before, s, after, order,
        by simp only [signalAt, resolveSignal, found], valid.any_signalInputs_iff.mp told, ?_⟩
      intro r hr reached
      have quiet := silent r hr
      rw [valid.any_signalInputs_iff.mpr reached] at quiet
      exact absurd quiet Bool.false_ne_true

theorem active_signalAt_iff :
    (g.signalAt spins).active ↔ ∃ s ∈ g.nodesOf .signal, g.Reached spins s := by
  rcases valid.signalAt_cases spins with
    ⟨off, none⟩ | ⟨on, before, s, after, order, -, reached, -⟩
  · rw [off]
    refine iff_of_false Bool.false_ne_true ?_
    rintro ⟨s, hs, reached⟩
    exact none s hs reached
  · have hs : s ∈ g.nodesOf .signal := by
      rw [order]
      exact List.mem_append_cons_self
    exact iff_of_true on ⟨s, hs, reached⟩

end Valid

/-! ## Connections without influence -/

/-- The graph with other connections. -/
def rewired (g : Graph) (cs : List Connection) : Graph := { g with connections := cs }

/-- A connection from a trigger or a signal node. -/
def Idle (g : Graph) (c : Connection) : Prop :=
  ∃ n ∈ g.nodes, c.source = n.id ∧ (n.kind = .trigger ∨ n.kind = .signal)

/-- A change of the kind of a connection, or one more or one less idle connection. -/
inductive Edit (g : Graph) : List Connection → List Connection → Prop where
  | rekind (before after : List Connection) (c : Connection) (kind : ConnectionKind) :
    Edit g (before ++ c :: after) (before ++ { c with kind := kind } :: after)
  | add (before after : List Connection) {c : Connection} (idle : g.Idle c) :
    Edit g (before ++ after) (before ++ c :: after)
  | delete (before after : List Connection) {c : Connection} (idle : g.Idle c) :
    Edit g (before ++ c :: after) (before ++ after)

/-- The nodes connected to a node that can hold, in order of the connections. -/
def feeds (g : Graph) (id : String) : List Node := (g.sources id).filter Node.carries

/-- The node that a connection lets a node look at. -/
def feed? (g : Graph) (id : String) (c : Connection) : Option Node :=
  if c.target == id then (g.node? c.source).filter Node.carries else none

theorem feeds_rewired (g : Graph) (cs : List Connection) (id : String) :
    (g.rewired cs).feeds id = cs.filterMap (g.feed? id) := by
  have lookup (key : String) : (g.rewired cs).node? key = g.node? key := rfl
  rw [feeds, sources, incoming, List.filter_filterMap, List.filterMap_filter]
  simp only [lookup]
  rfl

theorem Valid.feed?_of_idle (valid : g.Valid) {c : Connection} (idle : g.Idle c) (id : String) :
    g.feed? id c = none := by
  obtain ⟨n, hn, source, kind⟩ := idle
  have found : g.node? c.source = some n := valid.node?_eq_some_iff.mpr ⟨hn, source.symm⟩
  have silent : n.carries = false := by
    rcases kind with kind | kind <;> simp [Node.carries, kind]
  rw [feed?, found, Option.filter_some, silent]
  simp

theorem Valid.feeds_edit (valid : g.Valid) {cs cs' : List Connection} (edit : g.Edit cs cs')
    (id : String) : (g.rewired cs').feeds id = (g.rewired cs).feeds id := by
  simp only [feeds_rewired]
  -- the kind of a connection is never looked at, and an idle one feeds nothing
  cases edit with
  | rekind before after c kind =>
      have same : g.feed? id { c with kind := kind } = g.feed? id c := rfl
      simp only [List.filterMap_append, List.filterMap_cons, same]
  | add before after idle | delete before after idle =>
      simp only [List.filterMap_append, List.filterMap_cons, valid.feed?_of_idle idle]

theorem Valid.feeds_edits (valid : g.Valid) {cs : List Connection}
    (edits : Relation.ReflTransGen g.Edit g.connections cs) (id : String) :
    (g.rewired cs).feeds id = g.feeds id := by
  induction edits with
  | refl => rfl
  | tail _ edit ih =>
      -- nodes stay as they are, so the graph is still valid for the next edit
      rw [valid.feeds_edit edit, ih]

/-! ### Evaluation looks at what nodes are fed -/

theorem conditionInputs_eq_feeds (conditions : Verdicts) (id : String) :
    g.conditionInputs conditions id =
      ((g.feeds id).filter (·.kind == .condition)).map fun n => conditions.of n.id := by
  rw [conditionInputs, feeds, List.filter_filter]
  congr 2
  funext n
  cases kind : n.kind <;> simp [Node.carries, kind]

theorem hasLogicSource_eq_feeds (id : String) :
    g.hasLogicSource id = (g.feeds id).any (·.kind == .logic) := by
  rw [hasLogicSource, feeds, List.any_filter]
  congr 1
  funext n
  cases kind : n.kind <;> simp [Node.carries, kind]

theorem signalInputs_eq_feeds (conditions logic : Verdicts) (id : String) :
    g.signalInputs conditions logic id = (g.feeds id).filterMap (told conditions logic) := by
  rw [signalInputs_eq_filterMap, feeds, List.filterMap_filter]
  congr 1
  funext n
  cases kind : n.kind <;> simp [Node.carries, told, kind]

theorem conclude_rewired {cs : List Connection}
    (feeds : ∀ id, (g.rewired cs).feeds id = g.feeds id) (mode : SelectionMode)
    (rules : GatingRules) (records : List ConditionRecord) :
    (g.rewired cs).conclude spins mode rules records =
      { g.conclude spins mode rules records with
        trace := { (g.conclude spins mode rules records).trace with
          wiring := (g.rewired cs).wiring } } := by
  have nodes (kind : NodeKind) : (g.rewired cs).nodesOf kind = g.nodesOf kind := rfl
  have logic (conditions : Verdicts) :
      (g.rewired cs).logicResults conditions = g.logicResults conditions := by
    simp only [logicResults, logicResult, conditionInputs_eq_feeds, hasLogicSource_eq_feeds, feeds,
      nodes]
  have signal (conditions logic : Verdicts) :
      (g.rewired cs).resolveSignal conditions logic = g.resolveSignal conditions logic := by
    simp only [resolveSignal, signalInputs_eq_feeds, feeds, nodes]
  simp only [conclude, logic, signal]

theorem evaluate_rewired {history ctx : Json} {e : Evaluation} {cs : List Connection}
    (feeds : ∀ id, (g.rewired cs).feeds id = g.feeds id) (h : g.evaluate history ctx = .ok e) :
    (g.rewired cs).evaluate history ctx =
      .ok { e with trace := { e.trace with wiring := (g.rewired cs).wiring } } := by
  obtain ⟨t, records, hterms, hrecords, rfl⟩ := evaluate_eq_ok.mp h
  exact evaluate_eq_ok.mpr ⟨t, records, hterms, hrecords, conclude_rewired feeds _ _ _⟩

end Graph

/-- When the signal of an evaluation is active, and which signal node it is then. -/
structure Evaluation.Activated (g : Graph) (spins : History) (e : Evaluation) : Prop where
  active : e.trace.signalActive ↔ ∃ s ∈ g.nodesOf .signal, g.Reached spins s
  inCharge : e.trace.signalActive → ∃ before s after, g.nodesOf .signal = before ++ s :: after ∧
    e.trace.signalNode = some s.id ∧ e.trace.manualNumbers = s.manualNumbers ∧
    g.Reached spins s ∧ ∀ r ∈ before, ¬g.Reached spins r

/-- The same decision, whatever the traces say of the wiring. -/
structure Evaluation.SameDecision (e e' : Evaluation) : Prop where
  numbers : e'.numbers = e.numbers
  signalActive : e'.trace.signalActive = e.trace.signalActive
  confidence : e'.confidence = e.confidence
  reason : e'.reason = e.reason

namespace Graph

variable {g : Graph} {history ctx p : Json} {e : Evaluation} {origin : Pairs.Origin}

/-- A signal is active exactly if a node that holds is connected to it, and edits of connections
without influence keep the decision. -/
theorem activation_evaluate (hread : readFrom origin p = .ok g)
    (h : g.evaluate history ctx = .ok e) :
    (∃ spins, History.read history = .ok spins ∧ e.Activated g spins) ∧
    ∀ cs, Relation.ReflTransGen g.Edit g.connections cs →
      ∃ e', (g.rewired cs).evaluate history ctx = .ok e' ∧ e.SameDecision e' := by
  have valid := valid_of_readFrom hread
  constructor
  · obtain ⟨t, hterms, he⟩ := concluded_of_evaluate valid h
    obtain ⟨-, -, hspins, -⟩ := terms_eq_ok.mp hterms
    refine ⟨t.spins, hspins, ?_, fun active => ?_⟩
    · rw [he.signalActive, valid.active_signalAt_iff]
    · rw [he.signalActive] at active
      rcases valid.signalAt_cases t.spins with
        ⟨off, -⟩ | ⟨-, before, s, after, order, node, reached, first⟩
      · exact absurd (off.symm.trans active) Bool.false_ne_true
      · refine ⟨before, s, after, order, ?_, ?_, reached, first⟩
        · rw [he.signalNode, node, Option.map_some]
        · rw [he.manualNumbers, Signal.manualNumbers, node]
          rfl
  · intro cs edits
    exact ⟨_, evaluate_rewired (valid.feeds_edits edits) h, rfl, rfl, rfl, rfl⟩

theorem activation_evaluate_evenRedRun : ∃ g e spins, Graph.read (.obj evenRedRun) = .ok g ∧
    g.evaluate evenRedSpins evenRedOverrides = .ok e ∧ e.trace.signalActive = true ∧
    e.trace.signalNode = some "bet" ∧ History.read evenRedSpins = .ok spins ∧
    e.Activated g spins ∧
    ∀ cs, Relation.ReflTransGen g.Edit g.connections cs →
      ∃ e', (g.rewired cs).evaluate evenRedSpins evenRedOverrides = .ok e' ∧
        e.SameDecision e' := by
  obtain ⟨g, e, hread, h, node, active⟩ := exists_evaluate_evenRedRun
  obtain ⟨⟨spins, hspins, activated⟩, edits⟩ := activation_evaluate hread h
  exact ⟨g, e, spins, hread, h, active, node, hspins, activated, edits⟩

end Graph
end RouletteStrategy
