import Mathlib.Data.Finset.Card
import RouletteStrategy.Proofs.Evaluation.Activation

/-!
# Lookups that cannot fail

Logic and signals pass over a connection from a node that is not there, and take a verdict that is
missing for false. The structural check is exact, with one issue for each node whose id occurred
before and one for each end of a connection that is no node, and in a graph that passed it a strict
evaluation, which fails where anything is missing, gives the same (`Graph.exact_issues`).
-/

namespace RouletteStrategy.Graph

/-! ## The number of issues -/

theorem length_repeats (seen xs : List String) :
    (repeats seen xs).length + (xs.toFinset \ seen.toFinset).card = xs.length := by
  induction xs generalizing seen with
  | nil => simp [repeats]
  | cons x xs ih =>
      rw [repeats, List.length_append, List.length_cons, ← ih (x :: seen), List.toFinset_cons,
        List.toFinset_cons]
      by_cases old : x ∈ seen
      · have old' := List.mem_toFinset.mpr old
        rw [if_pos old, Finset.insert_sdiff_of_mem _ old', Finset.insert_eq_of_mem old',
          List.length_singleton]
        omega
      · have new : x ∉ seen.toFinset := fun h => old (List.mem_toFinset.mp h)
        rw [if_neg old, Finset.insert_sdiff_of_notMem _ new, Finset.sdiff_insert,
          ← Finset.card_erase_add_one (Finset.mem_insert_self x _), Finset.erase_insert_eq_erase,
          List.length_nil]
        omega

theorem length_endIssues (ids : List String) (c : Connection) :
    (endIssues ids c).length =
      (if c.source ∉ ids then 1 else 0) + if c.target ∉ ids then 1 else 0 := by
  by_cases source : c.source ∈ ids <;> by_cases target : c.target ∈ ids <;>
    simp [endIssues, source, target]

theorem length_flatMap_endIssues (ids : List String) (cs : List Connection) :
    (cs.flatMap (endIssues ids)).length =
      cs.countP (fun c => c.source ∉ ids) + cs.countP (fun c => c.target ∉ ids) := by
  induction cs with
  | nil => rfl
  | cons c cs ih =>
      rw [List.flatMap_cons, List.length_append, ih, length_endIssues, List.countP_cons,
        List.countP_cons]
      simp only [decide_eq_true_eq]
      omega

theorem length_issues (g : Graph) : g.issues.length =
    (g.nodes.length - g.nodeIds.toFinset.card) +
      g.connections.countP (fun c => c.source ∉ g.nodeIds) +
      g.connections.countP (fun c => c.target ∉ g.nodeIds) := by
  have repeated := length_repeats [] g.nodeIds
  have nodes : g.nodeIds.length = g.nodes.length := List.length_map _
  rw [List.toFinset_nil, Finset.sdiff_empty] at repeated
  rw [issues, List.length_append, List.length_map, length_flatMap_endIssues]
  omega

/-! ## Strict lookups -/

/-- What an evaluation may look for in vain: the source of a connection or the verdict on a node. -/
inductive Missing where
  | source (c : Connection)
  | verdict (id : String)

namespace Strict

def verdict (vs : Verdicts) (id : String) : Except Missing Bool :=
  match vs.get? id with
  | some b => .ok b
  | none => .error (.verdict id)

theorem verdict_eq {vs : Verdicts} {id : String} {b : Bool} (found : vs.get? id = some b) :
    verdict vs id = .ok (vs.of id) := by
  rw [verdict, Verdicts.of, found]
  rfl

def source (g : Graph) (c : Connection) : Except Missing Node :=
  match g.node? c.source with
  | some n => .ok n
  | none => .error (.source c)

def sources (g : Graph) (id : String) : Except Missing (List Node) :=
  (g.incoming id).mapM (source g)

def logicResult (g : Graph) (conditions : Verdicts) (n : Node) : Except Missing LogicResult := do
  let sources ← sources g n.id
  let inputs ← (sources.filter (·.kind == .condition)).mapM fun n => verdict conditions n.id
  let nested := sources.any (·.kind == .logic)
  return ⟨n.id, n.operator, inputs, !nested && n.operator.combine inputs, nested⟩

def logicResults (g : Graph) (conditions : Verdicts) : Except Missing (Members LogicResult) := do
  let rs ← (g.nodesOf .logic).mapM (logicResult g conditions)
  return rs.foldl (fun rs r => rs.set r.nodeId r) []

def signalInputs (g : Graph) (conditions logic : Verdicts) (id : String) :
    Except Missing (List Bool) := do
  let feeds := (← sources g id).filter Node.carries
  feeds.mapM fun n => verdict (if n.kind = .condition then conditions else logic) n.id

/-- The signal in charge, with the inputs of the others looked up as well. -/
def resolveSignal (g : Graph) (conditions logic : Verdicts) : Except Missing Signal := do
  let signals ← (g.nodesOf .signal).mapM fun n =>
    return (n, ← signalInputs g conditions logic n.id)
  return match signals.find? fun p => p.2.any id with
    | some (n, inputs) => ⟨true, some n, inputs⟩
    | none => ⟨false, (g.nodesOf .signal).head?, []⟩

end Strict

/-- With verdicts on the conditions, each lookup of logic and signals finds what it looks for, and a
strict evaluation gives the same. -/
structure NothingMissing (g : Graph) (conditions : Verdicts) : Prop where
  source : ∀ c ∈ g.connections, (g.node? c.source).isSome
  onCondition : ∀ n ∈ g.nodesOf .condition, (conditions.get? n.id).isSome
  onLogic : ∀ n ∈ g.nodesOf .logic,
    (Members.get? (logicVerdicts (g.logicResults conditions)) n.id).isSome
  logic : Strict.logicResults g conditions = .ok (g.logicResults conditions)
  signal : Strict.resolveSignal g conditions (logicVerdicts (g.logicResults conditions)) =
    .ok (g.resolveSignal conditions (logicVerdicts (g.logicResults conditions)))

/-! ## Graphs that were checked -/

/-- A graph that is given and checked, or read from a payload. -/
inductive Loaded (g : Graph) : Prop where
  | given (h : g.check = .ok g)
  | read {origin : Pairs.Origin} {p : Json} (h : readFrom origin p = .ok g)

theorem Loaded.valid {g : Graph} (loaded : g.Loaded) : g.Valid := by
  cases loaded with
  | given h => exact issues_eq_nil_iff.mp (check_eq_ok.mp h).1
  | read h => exact valid_of_readFrom h

namespace Valid

variable {g : Graph} (valid : g.Valid) {h : History} {id : String}
include valid

theorem exists_source {c : Connection} (hc : c ∈ g.connections) :
    ∃ n, g.node? c.source = some n := by
  obtain ⟨n, hn, same⟩ := List.mem_map.mp (valid.sources c hc)
  exact ⟨n, valid.node?_eq_some_iff.mpr ⟨hn, same⟩⟩

theorem sources_eq : Strict.sources g id = .ok (g.sources id) := by
  refine mapM_eq_ok_filterMap fun c hc => ?_
  obtain ⟨n, found⟩ := valid.exists_source (mem_incoming.mp hc).1
  refine ⟨n, found, ?_⟩
  rw [Strict.source, found]

theorem get?_conditionVerdicts {n : Node} (hn : n ∈ g.nodes) (kind : n.kind = .condition) :
    Members.get? (g.conditionVerdicts h) n.id = some (n.passes h) :=
  valid.get?_map_nodesOf (·.passes h) hn kind

theorem get?_logicVerdictsAt {n : Node} (hn : n ∈ g.nodes) (kind : n.kind = .logic) :
    Members.get? (g.logicVerdictsAt h) n.id =
      some (g.logicResult (g.conditionVerdicts h) n).result :=
  valid.get?_map_nodesOf (fun n => (g.logicResult (g.conditionVerdicts h) n).result) hn kind

theorem logicResult_eq (n : Node) : Strict.logicResult g (g.conditionVerdicts h) n =
    .ok (g.logicResult (g.conditionVerdicts h) n) := by
  have inputs : ((g.sources n.id).filter (·.kind == .condition)).mapM
      (fun n => Strict.verdict (g.conditionVerdicts h) n.id) =
        .ok (g.conditionInputs (g.conditionVerdicts h) n.id) := by
    refine mapM_eq_ok_map fun m hm => ?_
    obtain ⟨hsource, kind⟩ := mem_conditionSources.mp hm
    exact Strict.verdict_eq (valid.get?_conditionVerdicts (mem_nodes_of_mem_sources hsource) kind)
  rw [Strict.logicResult, valid.sources_eq]
  show (((g.sources n.id).filter (·.kind == .condition)).mapM
    (fun n => Strict.verdict (g.conditionVerdicts h) n.id) >>= fun _ => _) = _
  rw [inputs]
  rfl

theorem logicResults_eq : Strict.logicResults g (g.conditionVerdicts h) =
    .ok (g.logicResults (g.conditionVerdicts h)) := by
  rw [Strict.logicResults, mapM_eq_ok_map fun n _ => valid.logicResult_eq n, logicResults]
  show Except.ok _ = Except.ok _
  rw [List.foldl_map]
  rfl

theorem signalInputs_eq (id : String) :
    Strict.signalInputs g (g.conditionVerdicts h) (g.logicVerdictsAt h) id =
      .ok (g.signalInputs (g.conditionVerdicts h) (g.logicVerdictsAt h) id) := by
  rw [Strict.signalInputs, valid.sources_eq, signalInputs_eq_feeds]
  refine mapM_eq_ok_filterMap fun n hn => ?_
  obtain ⟨source, carries⟩ := List.mem_filter.mp hn
  have mem := mem_nodes_of_mem_sources source
  cases kind : n.kind with
  | condition =>
      refine ⟨_, ?_, Strict.verdict_eq (valid.get?_conditionVerdicts mem kind)⟩
      rw [told, kind]
      rfl
  | logic =>
      refine ⟨_, ?_, Strict.verdict_eq (valid.get?_logicVerdictsAt mem kind)⟩
      rw [told, kind]
      rfl
  | trigger | signal =>
      rw [Node.carries, kind] at carries
      cases carries

theorem resolveSignal_eq :
    Strict.resolveSignal g (g.conditionVerdicts h) (g.logicVerdictsAt h) =
      .ok (g.signalAt h) := by
  have inputs : (g.nodesOf .signal).mapM (fun n => do
      return (n, ← Strict.signalInputs g (g.conditionVerdicts h) (g.logicVerdictsAt h) n.id)) =
        .ok ((g.nodesOf .signal).map fun n =>
          (n, g.signalInputs (g.conditionVerdicts h) (g.logicVerdictsAt h) n.id)) := by
    refine mapM_eq_ok_map fun n _ => ?_
    rw [valid.signalInputs_eq]
    rfl
  rw [Strict.resolveSignal, inputs, signalAt, resolveSignal]
  show Except.ok _ = Except.ok _
  rw [List.find?_map, Function.comp_def]
  cases (g.nodesOf .signal).find? fun n =>
      (g.signalInputs (g.conditionVerdicts h) (g.logicVerdictsAt h) n.id).any id with
  | none => rfl
  | some n => rfl

theorem nothingMissing {records : List ConditionRecord}
    (hrecords : g.conditionRecords h = .ok records) : g.NothingMissing (verdicts records) := by
  obtain rfl := conditionRecords_eq_map hrecords
  rw [valid.verdicts_map_record]
  constructor
  case source =>
    intro c hc
    exact Option.isSome_iff_exists.mpr (valid.exists_source hc)
  case onCondition =>
    intro n hn
    obtain ⟨mem, kind⟩ := mem_nodesOf.mp hn
    rw [valid.get?_conditionVerdicts mem kind, Option.isSome_some]
  case logic => exact valid.logicResults_eq
  all_goals rw [valid.logicVerdicts_logicResults]
  case onLogic =>
    intro n hn
    obtain ⟨mem, kind⟩ := mem_nodesOf.mp hn
    rw [valid.get?_logicVerdictsAt mem kind, Option.isSome_some]
  case signal => exact valid.resolveSignal_eq

end Valid

/-- The structural check finds nothing exactly if ids are distinct and connections join nodes, and
otherwise one issue for each repetition and for each end that is missing. In a graph that passed it,
nothing that an evaluation looks for is missing. -/
theorem exact_issues (g : Graph) :
    (g.issues = [] ↔ g.nodeIds.Nodup ∧
      ∀ c ∈ g.connections, c.source ∈ g.nodeIds ∧ c.target ∈ g.nodeIds) ∧
    g.issues.length = (g.nodes.length - g.nodeIds.toFinset.card) +
      g.connections.countP (fun c => c.source ∉ g.nodeIds) +
      g.connections.countP (fun c => c.target ∉ g.nodeIds) ∧
    (g.Loaded → ∀ h records, g.conditionRecords h = .ok records →
      g.NothingMissing (verdicts records)) := by
  refine ⟨?_, length_issues g, fun loaded h records => loaded.valid.nothingMissing⟩
  rw [issues_eq_nil_iff]
  constructor
  · intro valid
    exact ⟨valid.distinct, fun c hc => ⟨valid.sources c hc, valid.targets c hc⟩⟩
  · rintro ⟨distinct, ends⟩
    exact ⟨distinct, fun c hc => (ends c hc).1, fun c hc => (ends c hc).2⟩

/-- After two red and even spins the signal in charge hears from the conjunction. -/
theorem exact_issues_evenRedRun : ∃ g records,
    read (.obj evenRedRun) = .ok g ∧ g.issues = [] ∧
    g.conditionRecords [.number 12, .number 14] = .ok records ∧
    g.NothingMissing (verdicts records) ∧
    ∃ s, Strict.resolveSignal g (verdicts records)
      (logicVerdicts (g.logicResults (verdicts records))) = .ok s ∧ s.inputs = [true] := by
  have accepted : (read (.obj evenRedRun) >>= fun g =>
      (g.conditionRecords [.number 12, .number 14]).map fun records =>
        (g.resolveSignal (verdicts records)
          (logicVerdicts (g.logicResults (verdicts records)))).inputs) = .ok [true] := by rfl
  obtain ⟨g, hread, h⟩ := bind_eq_ok.mp accepted
  obtain ⟨records, hrecords, told⟩ := map_eq_ok.mp h
  have nothing := (exact_issues g).2.2 (.read hread) _ records hrecords
  exact ⟨g, records, hread, issues_eq_nil_iff.mpr (valid_of_readFrom hread), hrecords, nothing,
    _, nothing.signal, told⟩

end RouletteStrategy.Graph
