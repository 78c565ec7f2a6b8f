import RouletteStrategy.Proofs.Evaluation.Activation
import RouletteStrategy.Proofs.Evaluation.Bounds

/-!
# Graphs in another order and under other names

A graph may have its nodes and connections in another order and its nodes under other ids. The
connections that enter a negation keep their order, for a negation looks at the first of them only.
Then the same nodes hold (`Rearranged.holds_iff`), and in the automatic mode, where no numbers set
by hand count, an evaluation decides as before (`evaluate_rearranged`).
-/

namespace RouletteStrategy

/-- The node under another id. -/
def Node.renamed (f : String → String) (n : Node) : Node := { n with id := f n.id }

@[simp] theorem Node.outcome_renamed (f : String → String) (n : Node) (h : History) :
    (n.renamed f).outcome h = n.outcome h := by
  simp only [outcome, renamed]

@[simp] theorem Node.passes_renamed (f : String → String) (n : Node) (h : History) :
    (n.renamed f).passes h = n.passes h := by
  rw [passes, passes, outcome_renamed]

/-- Where a connection leads from and to. -/
def Connection.ends (c : Connection) : String × String := (c.source, c.target)

namespace Graph

variable {g g' : Graph} {f : String → String} {m n : Node} {id : String} {spins : History}

/-- The ends of all connections, in order. -/
def ends (g : Graph) : List (String × String) := g.connections.map Connection.ends

/-- The ends of the connections that enter a node, in order. -/
def endsAt (g : Graph) (id : String) : List (String × String) :=
  (g.incoming id).map Connection.ends

theorem endsAt_eq_filter (g : Graph) (id : String) :
    g.endsAt id = g.ends.filter (·.2 == id) := by
  rw [endsAt, ends, incoming, List.filter_map]
  rfl

theorem sources_eq_filterMap (g : Graph) (id : String) :
    g.sources id = (g.endsAt id).filterMap fun e => g.node? e.1 := by
  rw [sources, endsAt, List.filterMap_map]
  rfl

/-- The same graph with nodes and connections in another order and other ids for the nodes. Ids and
kinds of connections are free. -/
structure Rearranged (f : String → String) (g g' : Graph) : Prop where
  injective : ∀ a ∈ g.nodeIds, ∀ b ∈ g.nodeIds, f a = f b → a = b
  nodes : g'.nodes.Perm (g.nodes.map (Node.renamed f))
  ends : g'.ends.Perm (g.ends.map (Prod.map f f))
  negations : ∀ n ∈ g.nodes, n.kind = .logic → n.operator = .not →
    g'.endsAt (f n.id) = (g.endsAt n.id).map (Prod.map f f)
  mode : g'.mode = g.mode
  gating : g'.gating = g.gating

theorem Valid.mem_ends (valid : g.Valid) {e : String × String} (he : e ∈ g.ends) :
    e.1 ∈ g.nodeIds ∧ e.2 ∈ g.nodeIds := by
  obtain ⟨c, hc, rfl⟩ := List.mem_map.mp he
  exact ⟨valid.sources c hc, valid.targets c hc⟩

theorem mem_nodeIds (hn : n ∈ g.nodes) : n.id ∈ g.nodeIds := List.mem_map_of_mem hn

namespace Rearranged

variable (r : Rearranged f g g')
include r

/-! ## Nodes and their sources -/

theorem mem_nodes_iff : m ∈ g'.nodes ↔ ∃ n ∈ g.nodes, n.renamed f = m := by
  rw [r.nodes.mem_iff, List.mem_map]

theorem renamed_mem (hn : n ∈ g.nodes) : n.renamed f ∈ g'.nodes :=
  r.mem_nodes_iff.mpr ⟨n, hn, rfl⟩

theorem renamed_inj (hm : m ∈ g.nodes) (hn : n ∈ g.nodes) (h : m.renamed f = n.renamed f) :
    m = n := by
  have ids : m.id = n.id :=
    r.injective _ (mem_nodeIds hm) _ (mem_nodeIds hn) (congrArg Node.id h)
  cases m
  cases n
  cases ids
  cases h
  rfl

theorem nodesOf_perm (kind : NodeKind) :
    (g'.nodesOf kind).Perm ((g.nodesOf kind).map (Node.renamed f)) := by
  have perm := r.nodes.filter (·.kind == kind)
  rw [List.filter_map] at perm
  exact perm

theorem nodeIds_perm : g'.nodeIds.Perm (g.nodeIds.map f) := by
  have perm := r.nodes.map Node.id
  rw [List.map_map] at perm
  rw [nodeIds, nodeIds, List.map_map]
  exact perm

variable (valid : g.Valid)
include valid

theorem valid' : g'.Valid := by
  have ends : ∀ c ∈ g'.connections, ∃ e ∈ g.ends, c.ends = (f e.1, f e.2) := by
    intro c hc
    have he : c.ends ∈ g'.ends := List.mem_map_of_mem hc
    obtain ⟨e, he, eq⟩ := List.mem_map.mp (r.ends.mem_iff.mp he)
    exact ⟨e, he, eq.symm⟩
  constructor
  · rw [r.nodeIds_perm.nodup_iff]
    exact valid.distinct.map_on r.injective
  · intro c hc
    obtain ⟨e, he, eq⟩ := ends c hc
    rw [r.nodeIds_perm.mem_iff, show c.source = f e.1 from congrArg Prod.fst eq]
    exact List.mem_map_of_mem (valid.mem_ends he).1
  · intro c hc
    obtain ⟨e, he, eq⟩ := ends c hc
    rw [r.nodeIds_perm.mem_iff, show c.target = f e.2 from congrArg Prod.snd eq]
    exact List.mem_map_of_mem (valid.mem_ends he).2

theorem node?_renamed (hid : id ∈ g.nodeIds) :
    g'.node? (f id) = (g.node? id).map (Node.renamed f) := by
  obtain ⟨n, hn, rfl⟩ := List.mem_map.mp hid
  have found : g.node? n.id = some n := valid.node?_eq_some_iff.mpr ⟨hn, rfl⟩
  rw [found, Option.map_some]
  exact (r.valid' valid).node?_eq_some_iff.mpr ⟨r.renamed_mem hn, rfl⟩

/-- What enters a node, enters it under its other id. -/
theorem endsAt_perm (hid : id ∈ g.nodeIds) :
    (g'.endsAt (f id)).Perm ((g.endsAt id).map (Prod.map f f)) := by
  have perm := r.ends.filter (·.2 == f id)
  have same : g.ends.filter ((·.2 == f id) ∘ Prod.map f f) = g.ends.filter (·.2 == id) := by
    refine List.filter_congr fun e he => ?_
    rw [Function.comp_apply, Prod.map_snd, Bool.eq_iff_iff, beq_iff_eq, beq_iff_eq]
    exact ⟨r.injective _ (valid.mem_ends he).2 _ hid, congrArg f⟩
  rw [List.filter_map, same, ← endsAt_eq_filter, ← endsAt_eq_filter] at perm
  exact perm

/-- Lookups at renamed ends find the renamed nodes. -/
theorem filterMap_ends (id : String) :
    ((g.endsAt id).map (Prod.map f f)).filterMap (fun e => g'.node? e.1) =
      (g.sources id).map (Node.renamed f) := by
  rw [sources_eq_filterMap, List.filterMap_map, List.map_filterMap]
  refine List.filterMap_congr fun e he => ?_
  rw [endsAt_eq_filter] at he
  exact r.node?_renamed valid (valid.mem_ends (List.mem_of_mem_filter he)).1

theorem sources_perm (hid : id ∈ g.nodeIds) :
    (g'.sources (f id)).Perm ((g.sources id).map (Node.renamed f)) := by
  rw [sources_eq_filterMap, ← r.filterMap_ends valid]
  exact (r.endsAt_perm valid hid).filterMap _

theorem sources_of_negation (hn : n ∈ g.nodes) (kind : n.kind = .logic)
    (negation : n.operator = .not) :
    g'.sources (f n.id) = (g.sources n.id).map (Node.renamed f) := by
  rw [sources_eq_filterMap, r.negations n hn kind negation, r.filterMap_ends valid]

theorem joins_iff (hm : m ∈ g.nodes) (hn : n ∈ g.nodes) :
    g'.Joins (m.renamed f) (n.renamed f) ↔ g.Joins m n := by
  have before : g.Joins m n ↔ m ∈ g.sources n.id := by
    rw [valid.mem_sources_iff, and_iff_right hm]
  have after : g'.Joins (m.renamed f) (n.renamed f) ↔ m.renamed f ∈ g'.sources (f n.id) := by
    have mem := (r.valid' valid).mem_sources_iff (m := m.renamed f) (n := n.renamed f)
    rw [and_iff_right (r.renamed_mem hm)] at mem
    exact mem.symm
  rw [before, after, (r.sources_perm valid (mem_nodeIds hn)).mem_iff, List.mem_map]
  constructor
  · rintro ⟨k, hk, eq⟩
    rwa [← r.renamed_inj (mem_nodes_of_mem_sources hk) hm eq]
  · exact fun h => ⟨m, h, rfl⟩

/-! ## Nodes that hold -/

omit r valid in
/-- The order of inputs matters to a negation only. -/
theorem combine_perm {op : Operator} {bs bs' : List Bool} (perm : bs.Perm bs')
    (other : op ≠ .not) : op.combine bs = op.combine bs' := by
  cases bs with
  | nil => rw [List.nil_perm.mp perm]
  | cons b bs =>
      obtain ⟨b', rest, rfl⟩ : ∃ b' rest, bs' = b' :: rest := by
        cases bs' with
        | nil => exact absurd (List.perm_nil.mp perm) (List.cons_ne_nil b bs)
        | cons b' rest => exact ⟨b', rest, rfl⟩
      cases op with
      | and =>
          rw [Bool.eq_iff_iff]
          simp only [Operator.combine, List.all_eq_true, perm.mem_iff]
      | or =>
          rw [Bool.eq_iff_iff]
          simp only [Operator.combine, List.any_eq_true, perm.mem_iff]
      | not => exact absurd rfl other

theorem conditionSources_perm (hid : id ∈ g.nodeIds) :
    (g'.conditionSources (f id)).Perm ((g.conditionSources id).map (Node.renamed f)) := by
  have perm := (r.sources_perm valid hid).filter (·.kind == .condition)
  rw [List.filter_map] at perm
  exact perm

theorem combine_conditionSources (hn : n ∈ g.nodes) (kind : n.kind = .logic) :
    n.operator.combine ((g'.conditionSources (f n.id)).map (·.passes spins)) =
      n.operator.combine ((g.conditionSources n.id).map (·.passes spins)) := by
  by_cases negation : n.operator = .not
  · have same : g'.conditionSources (f n.id) =
        (g.conditionSources n.id).map (Node.renamed f) := by
      rw [conditionSources, r.sources_of_negation valid hn kind negation, List.filter_map]
      rfl
    simp only [same, List.map_map, Function.comp_def, Node.passes_renamed]
  · have perm := (r.conditionSources_perm valid (mem_nodeIds hn)).map (·.passes spins)
    simp only [List.map_map, Function.comp_def, Node.passes_renamed] at perm
    exact combine_perm perm negation

theorem holds_iff (hn : n ∈ g.nodes) : g'.Holds spins (n.renamed f) ↔ g.Holds spins n := by
  constructor
  · intro holds
    cases holds with
    | condition kind passes =>
        rw [Node.passes_renamed] at passes
        exact .condition kind passes
    | logic kind flat true =>
        refine .logic kind (fun m hm logic joins => ?_)
          ((r.combine_conditionSources valid hn kind).symm.trans true)
        exact flat _ (r.renamed_mem hm) logic ((r.joins_iff valid hm hn).mpr joins)
  · intro holds
    cases holds with
    | condition kind passes =>
        refine .condition kind ?_
        rw [Node.passes_renamed]
        exact passes
    | logic kind flat true =>
        refine .logic kind (fun m' hm' logic joins => ?_)
          ((r.combine_conditionSources valid hn kind).trans true)
        obtain ⟨m, hm, rfl⟩ := r.mem_nodes_iff.mp hm'
        exact flat m hm logic ((r.joins_iff valid hm hn).mp joins)

theorem reached_iff (hn : n ∈ g.nodes) : g'.Reached spins (n.renamed f) ↔ g.Reached spins n := by
  constructor
  · rintro ⟨m', hm', joins, holds⟩
    obtain ⟨m, hm, rfl⟩ := r.mem_nodes_iff.mp hm'
    exact ⟨m, hm, (r.joins_iff valid hm hn).mp joins, (r.holds_iff valid hm).mp holds⟩
  · rintro ⟨m, hm, joins, holds⟩
    exact ⟨m.renamed f, r.renamed_mem hm, (r.joins_iff valid hm hn).mpr joins,
      (r.holds_iff valid hm).mpr holds⟩

/-- Another signal may be in charge, but it is active if the other one was. -/
theorem active_signalAt : (g'.signalAt spins).active = (g.signalAt spins).active := by
  rw [Bool.eq_iff_iff, (r.valid' valid).active_signalAt_iff, valid.active_signalAt_iff]
  constructor
  · rintro ⟨s', hs', reached⟩
    obtain ⟨s, hs, rfl⟩ := List.mem_map.mp ((r.nodesOf_perm .signal).mem_iff.mp hs')
    exact ⟨s, hs, (r.reached_iff valid (mem_nodesOf.mp hs).1).mp reached⟩
  · rintro ⟨s, hs, reached⟩
    refine ⟨s.renamed f, ?_, (r.reached_iff valid (mem_nodesOf.mp hs).1).mpr reached⟩
    exact (r.nodesOf_perm .signal).mem_iff.mpr (List.mem_map_of_mem hs)

end Rearranged

/-! ## Evaluation -/

/-- Settings move along with their nodes. -/
theorem Rearranged.failsIff_conditionRecords (r : Rearranged f g g') (h : History) :
    FailsIff .numberTooLarge (∃ n ∈ g.nodesOf .condition, n.HasHugeSetting)
      (g'.conditionRecords h) := by
  refine (Graph.failsIff_conditionRecords g' h).congr ?_
  constructor
  · rintro ⟨n', hn', huge⟩
    obtain ⟨n, hn, rfl⟩ := List.mem_map.mp ((r.nodesOf_perm .condition).mem_iff.mp hn')
    exact ⟨n, hn, huge⟩
  · rintro ⟨n, hn, huge⟩
    have mem := (r.nodesOf_perm .condition).mem_iff.mpr (List.mem_map_of_mem hn)
    exact ⟨n.renamed f, mem, huge⟩

end Graph

/-- What an evaluation decides: the numbers, whether to activate, how confidently and why. -/
def Evaluation.decision (e : Evaluation) : List Int × Bool × Binary64 × String :=
  (e.numbers, e.shouldActivate, e.confidence, e.reason)

theorem Evaluation.decision_congr {e e' : Evaluation} (numbers : e'.numbers = e.numbers)
    (halted : e'.halted = e.halted) : e'.decision = e.decision := by
  have activates : e'.shouldActivate = e.shouldActivate := by
    rw [shouldActivate, shouldActivate, numbers]
  rw [decision, decision, confidence, confidence, reason, reason, activates, numbers, halted]

/-- In the automatic mode, numbers set by hand neither count nor halt a selection. -/
theorem Gating.select_automatic (derived manual manual' : List Int) (rules : GatingRules)
    (active : Bool) (last : Option Int) :
    select derived manual .automatic rules active last =
      select derived manual' .automatic rules active last := rfl

namespace Graph

variable {g g' : Graph} {f : String → String} {history ctx : Json} {t : Terms}
  {e e' : Evaluation} {origin : Pairs.Origin} {p : Json}

theorem Rearranged.terms (r : Rearranged f g g') (history ctx : Json) :
    g'.terms history ctx = g.terms history ctx := by
  simp only [Graph.terms, rules, r.mode, r.gating]

theorem Rearranged.derived (r : Rearranged f g g') (he : e.Concluded g t)
    (he' : e'.Concluded g' t) : e'.derived = e.derived := by
  have ascending : ∀ {e g}, Evaluation.Concluded g t e → e.derived.Pairwise (· < ·) := by
    intro e g he
    rw [he.derived]
    exact Wheel.pairwise_lt_normalize _
  apply (ascending he').eq_of_mem_iff (ascending he)
  intro k
  rw [mem_derived he, mem_derived he']
  constructor
  · rintro ⟨n', hn', passes, hk⟩
    obtain ⟨n, hn, rfl⟩ := List.mem_map.mp ((r.nodesOf_perm .condition).mem_iff.mp hn')
    rw [Node.passes_renamed] at passes
    rw [Node.outcome_renamed] at hk
    exact ⟨n, hn, passes, hk⟩
  · rintro ⟨n, hn, passes, hk⟩
    refine ⟨n.renamed f, (r.nodesOf_perm .condition).mem_iff.mpr (List.mem_map_of_mem hn), ?_⟩
    rw [Node.passes_renamed, Node.outcome_renamed]
    exact ⟨passes, hk⟩

theorem Rearranged.decision (r : Rearranged f g g') (valid : g.Valid)
    (automatic : t.mode = .automatic) (he : e.Concluded g t) (he' : e'.Concluded g' t) :
    e'.decision = e.decision := by
  have selection : (⟨e'.numbers, e'.trace.applied, e'.halted⟩ : Gating.Selection) =
      ⟨e.numbers, e.trace.applied, e.halted⟩ := by
    rw [← he.selection, ← he'.selection, r.derived he he', he'.signalActive, he.signalActive,
      r.active_signalAt valid, he'.lastNumber, he.lastNumber, automatic]
    exact Gating.select_automatic _ _ _ _ _ _
  exact Evaluation.decision_congr (congrArg Gating.Selection.numbers selection)
    (congrArg Gating.Selection.halted selection)

/-- In the automatic mode the order of nodes and connections and the names of nodes reach neither
the numbers nor the verdict, as long as the connections that enter a negation keep their order; and
where an evaluation fails, the other one fails in the same way. -/
theorem evaluate_rearranged (hread : readFrom origin p = .ok g) (r : Rearranged f g g')
    (automatic : ∀ t, g.terms history ctx = .ok t → t.mode = .automatic) :
    g'.Valid ∧ (g'.evaluate history ctx).map Evaluation.decision =
      (g.evaluate history ctx).map Evaluation.decision := by
  have valid := valid_of_readFrom hread
  have valid' := r.valid' valid
  refine ⟨valid', ?_⟩
  cases terms : g.terms history ctx with
  | error e =>
      rw [evaluate_eq_bind, evaluate_eq_bind, r.terms, terms]
      rfl
  | ok t =>
      have fails := g.failsIff_conditionRecords t.spins
      have fails' := r.failsIff_conditionRecords t.spins
      have terms' := (r.terms history ctx).trans terms
      cases records : g.conditionRecords t.spins with
      | error e =>
          have records' := (fails' e).mpr ((fails e).mp records)
          rw [evaluate_of_terms terms, evaluate_of_terms terms', records, records']
          rfl
      | ok rs =>
          obtain ⟨rs', records'⟩ : ∃ rs', g'.conditionRecords t.spins = .ok rs' := by
            cases records' : g'.conditionRecords t.spins with
            | ok rs' => exact ⟨rs', rfl⟩
            | error e => cases records.symm.trans ((fails e).mpr ((fails' e).mp records'))
          have h := evaluate_eq_ok.mpr ⟨t, rs, terms, records, rfl⟩
          have h' := evaluate_eq_ok.mpr ⟨t, rs', terms', records', rfl⟩
          obtain ⟨u, hu, he⟩ := concluded_of_evaluate valid h
          obtain ⟨u', hu', he'⟩ := concluded_of_evaluate valid' h'
          cases hu.symm.trans terms
          cases hu'.symm.trans terms'
          rw [h, h', Except.map, Except.map]
          exact congrArg Except.ok (r.decision valid (automatic _ terms) he he')

/-- The graph with everything in reverse order and other ids for the nodes. -/
def backwards (f : String → String) (g : Graph) : Graph :=
  { g with
    nodes := (g.nodes.map (Node.renamed f)).reverse
    connections :=
      (g.connections.map fun c => { c with source := f c.source, target := f c.target }).reverse }

/-- A single connection that enters a negation has its order in either direction. -/
theorem rearranged_backwards (injective : f.Injective) (single : ∀ n ∈ g.nodes, n.kind = .logic →
    n.operator = .not → (g.endsAt n.id).length ≤ 1) : Rearranged f g (g.backwards f) := by
  have ends : (g.backwards f).ends = (g.ends.map (Prod.map f f)).reverse := by
    simp only [Graph.ends, backwards, List.map_reverse, List.map_map]
    rfl
  refine ⟨fun a _ b _ eq => injective eq, List.reverse_perm _, ?_, fun n hn kind negation => ?_,
    rfl, rfl⟩
  · rw [ends]
    exact List.reverse_perm _
  · have entering : (g.backwards f).endsAt (f n.id) =
        ((g.endsAt n.id).map (Prod.map f f)).reverse := by
      have same : ((·.2 == f n.id) ∘ Prod.map f f) = fun e : String × String => e.2 == n.id := by
        funext e
        rw [Function.comp_apply, Prod.map_snd, Bool.eq_iff_iff, beq_iff_eq, beq_iff_eq,
          injective.eq_iff]
      rw [endsAt_eq_filter, ends, List.filter_reverse, List.filter_map, same, endsAt_eq_filter]
    rw [entering]
    have few := single n hn kind negation
    cases endsAt : g.endsAt n.id with
    | nil => rfl
    | cons e rest =>
        rw [endsAt] at few
        cases rest with
        | nil => rfl
        | cons => simp at few

/-- Without overrides the run is in the automatic mode. -/
theorem evaluate_rearranged_evenRedRun : ∃ g e, Graph.read (.obj evenRedRun) = .ok g ∧
    g.evaluate evenRedSpins (.obj []) = .ok e ∧ e.trace.signalActive = true ∧
    Rearranged ("node " ++ ·) g (g.backwards ("node " ++ ·)) ∧
    (∀ t, g.terms evenRedSpins (.obj []) = .ok t → t.mode = .automatic) ∧
    (g.backwards ("node " ++ ·)).Valid ∧
    ((g.backwards ("node " ++ ·)).evaluate evenRedSpins (.obj [])).map Evaluation.decision =
      (g.evaluate evenRedSpins (.obj [])).map Evaluation.decision := by
  have accepted : (Graph.read (.obj evenRedRun) >>= fun g =>
      (g.evaluate evenRedSpins (.obj [])).map fun e => (e.trace.signalActive, e.trace.mode,
        decide (∀ n ∈ g.nodes, n.kind = .logic → n.operator = .not →
          (g.endsAt n.id).length ≤ 1))) = .ok (true, .automatic, true) := by rfl
  obtain ⟨g, hread, h⟩ := bind_eq_ok.mp accepted
  obtain ⟨e, h, told⟩ := map_eq_ok.mp h
  obtain ⟨active, told⟩ := Prod.mk.inj told
  obtain ⟨mode, single⟩ := Prod.mk.inj told
  have injective : Function.Injective ("node " ++ · : String → String) := fun a b eq =>
    (String.append_right_inj _).mp eq
  have r := rearranged_backwards injective (of_decide_eq_true single)
  have automatic : ∀ t, g.terms evenRedSpins (.obj []) = .ok t → t.mode = .automatic := by
    intro t terms
    obtain ⟨u, hu, he⟩ := concluded_of_evaluate (valid_of_readFrom hread) h
    cases hu.symm.trans terms
    exact he.mode.symm.trans mode
  exact ⟨g, e, hread, h, active, r, automatic, evaluate_rearranged hread r automatic⟩

end Graph
end RouletteStrategy
