import RouletteStrategy.Proofs.Gating.Merging
import RouletteStrategy.Proofs.Graph.Values
import RouletteStrategy.Proofs.Strategy.Agreement
import RouletteStrategy.Service.Routes

/-!
# Previews of a body

A preview evaluates the graph of a body with a history, and takes the mode and the rules of the body
once more as overrides. They are what is in force already, so the strategy compiled from the body
evaluates the same history in the same way without overrides, and still does once it was written and
read back (`evaluate_stored_eq_preview`).
-/

namespace RouletteStrategy

namespace Schema

variable {o o' : Json.Object}

theorem nodeForms_of_readItems (origin : Pairs.Origin)
    (h : readItems o "nodes" = readItems o' "nodes") :
    nodeForms origin o = nodeForms origin o' := by
  rw [nodeForms, nodeForms, h]

/-- The list of nodes of a graph that was read. -/
theorem exists_items_of_readNodes {origin : Pairs.Origin} {forms : Checked (List NodeForm)}
    {nodes : List Node} (hforms : nodeForms origin o = .ok forms)
    (h : readNodes forms = .ok nodes) : ∃ vs, readItems o "nodes" = .ok vs := by
  unfold nodeForms at hforms
  split at hforms
  next vs items => exact ⟨vs, items⟩
  next =>
    cases hforms
    cases h

end Schema

namespace Service

/-! ## The body of a preview -/

/-- The fields of a request that give a history. -/
def historyFields : List String := ["history", "historyInput"]

/-- A body with the history of another one, which has no other fields. -/
structure WithHistory (body given whole : Json.Object) : Prop where
  elsewhere : ∀ key ∉ historyFields, Members.get? whole key = Members.get? body key
  history : ∀ key ∈ historyFields, Members.get? whole key = Members.get? given key
  only : ∀ key ∉ historyFields, Members.get? given key = none

variable {body given whole : Json.Object} {key : String}

namespace WithHistory

variable (h : WithHistory body given whole)
include h

theorem at_elsewhere (other : key ∉ historyFields) : whole.at key = body.at key := by
  rw [Json.Object.at, Json.Object.at, h.elsewhere key other]

theorem at_history (field : key ∈ historyFields) : whole.at key = given.at key := by
  rw [Json.Object.at, Json.Object.at, h.history key field]

theorem requestHistory_eq (s : Settings) : requestHistory s whole = requestHistory s given := by
  have list : whole.at "history" = given.at "history" := h.at_history (by decide)
  have text : whole.at "historyInput" = given.at "historyInput" := h.at_history (by decide)
  rw [requestHistory, requestHistory, list, text]

/-- Without other fields there are no overrides. -/
theorem requestContext_given : requestContext given = .obj [] := by
  have mode : given.at "selectionMode" = .null := by
    rw [Json.Object.at, h.only _ (by decide), Option.getD_none]
  have gating : given.at "gating" = .null := by
    rw [Json.Object.at, h.only _ (by decide), Option.getD_none]
  rw [requestContext, List.filterMap_cons, List.filterMap_cons, mode, gating]
  rfl

end WithHistory

/-- The graph of a preview has the fields that are not null, and a list of connections in any
case. -/
theorem get?_previewGraph (distinct : (Members.keys whole).Nodup) (other : key ∉ historyFields) :
    Members.get? (previewGraph whole) key =
      ((Members.get? whole key).filter fun v => !v.isNull).or
        (if key = "connections" then some (.arr []) else none) := by
  have names : "history" ≠ key ∧ "historyInput" ≠ key := by
    constructor
    all_goals
      rintro rfl
      exact other (by decide)
  have erased : (Members.keys ((Members.erase whole "history").erase "historyInput")).Nodup :=
    distinct.sublist ((List.filter_sublist.trans List.filter_sublist).map _)
  have kept := Members.get?_filter_values erased (fun v => !v.isNull) key
  rw [Members.get?_erase, if_neg names.2, Members.get?_erase, if_neg names.1] at kept
  rw [previewGraph, Members.get?_setDefault, kept]

section PreviewGraph

variable (distinct : (Members.keys whole).Nodup) (h : WithHistory body given whole)
include distinct h

theorem at_previewGraph (other : key ∉ historyFields) (ne : key ≠ "connections") :
    Json.Object.at (previewGraph whole) key = body.at key := by
  rw [Json.Object.at, get?_previewGraph distinct other, if_neg ne, Option.or_none,
    h.elsewhere key other, Json.Object.at]
  cases Members.get? body key with
  | none => rfl
  | some v => cases v <;> rfl

/-- A list that is read from the body is read from the graph of the preview. -/
theorem readItems_previewGraph (other : key ∉ historyFields) {vs : List Json}
    (items : Schema.readItems body key = .ok vs) :
    Schema.readItems (previewGraph whole) key = .ok vs := by
  unfold Schema.readItems at items ⊢
  rw [get?_previewGraph distinct other, h.elsewhere key other]
  cases found : Members.get? body key with
  | none =>
      rw [found] at items
      cases items
      split_ifs <;> rfl
  | some v =>
      rw [found] at items
      cases v with
      | arr xs =>
          cases items
          rfl
      | _ => cases items

theorem readConnections_previewGraph {connections : List Connection}
    (read : Schema.readConnections body = .ok connections) :
    Schema.readConnections (previewGraph whole) = .ok connections := by
  obtain ⟨vs, items, all⟩ := bind_eq_ok.mp read
  have edges : Members.get? (previewGraph whole) "edges" = _ :=
    get?_previewGraph distinct (by decide)
  rw [if_neg (by decide), Option.or_none, h.elsewhere _ (by decide)] at edges
  have same : Schema.connectionsKey (previewGraph whole) = Schema.connectionsKey body := by
    rw [Schema.connectionsKey, Schema.connectionsKey, Members.has, Members.has, edges]
    cases found : Members.get? body "edges" with
    | none => rfl
    | some v =>
        -- Only null would be left out, and null is no list of connections.
        cases v with
        | null =>
            have key : Schema.connectionsKey body = "edges" := by
              rw [Schema.connectionsKey, Members.has, found]
              rfl
            rw [key, Schema.readItems, found] at items
            cases items
        | _ => rfl
  have other : Schema.connectionsKey body ∉ historyFields := by
    unfold Schema.connectionsKey
    split <;> decide
  refine bind_eq_ok.mpr ⟨vs, ?_, ?_⟩
  · rw [same]
    exact readItems_previewGraph distinct h other items
  · rw [same]
    exact all

end PreviewGraph

/-! ## The graph of a preview and the graph of the strategy -/

section Graphs

variable {g : Graph} {t : Strategy} (distinct : (Members.keys whole).Nodup)
  (h : WithHistory body given whole) (flat : (body.at "graph").asObject? = none)
  (hread : Graph.read (.obj (previewGraph whole)) = .ok g)
  (compiled : Strategy.compile (.obj body) = .ok t)

/-- Away from the entries of the metadata, a strategy is compiled from its body. -/
theorem get?_graphSource_of_flat (t : Strategy) (flat : (body.at "graph").asObject? = none)
    (ne : key ≠ "graph") (other : Members.get? t.metadata.graphFields key = none) :
    Members.get? (t.graphSource body) key = Members.get? body key := by
  rw [Strategy.get?_graphSource_other t body ne other, Schema.unnest_of_flat flat]

include distinct h flat hread in
theorem fieldsRead_previewGraph : ∃ forms,
    Schema.nodeForms .values (previewGraph whole) = .ok forms ∧
      Schema.FieldsRead (previewGraph whole) forms g := by
  have graph : Json.Object.at (previewGraph whole) "graph" = body.at "graph" :=
    at_previewGraph distinct h (by decide) (by decide)
  have unnest := Schema.unnest_of_flat (graph ▸ flat)
  have read := (Graph.readFrom_eq_ok.mp hread).1
  rwa [unnest] at read

include distinct h flat hread compiled

theorem nodes_previewGraph : g.nodes = t.graph.nodes := by
  obtain ⟨forms, hforms, fields⟩ := fieldsRead_previewGraph distinct h flat hread
  obtain ⟨forms', hforms', fields'⟩ := Strategy.fieldsRead_graph compiled
  have nodes : Members.get? (t.graphSource body) "nodes" = Members.get? body "nodes" :=
    get?_graphSource_of_flat t flat (by decide) rfl
  rw [Schema.nodeForms_congr .values nodes] at hforms'
  obtain ⟨vs, items⟩ := Schema.exists_items_of_readNodes hforms' fields'.nodes
  have items' := readItems_previewGraph distinct h (by decide) items
  rw [Schema.nodeForms_of_readItems .values (items'.trans items.symm)] at hforms
  cases hforms.symm.trans hforms'
  exact Except.ok.inj (fields.nodes.symm.trans fields'.nodes)

theorem connections_previewGraph : g.connections = t.graph.connections := by
  obtain ⟨forms, -, fields⟩ := fieldsRead_previewGraph distinct h flat hread
  obtain ⟨forms', -, fields'⟩ := Strategy.fieldsRead_graph compiled
  have edges : Members.get? (t.graphSource body) "edges" = Members.get? body "edges" :=
    get?_graphSource_of_flat t flat (by decide) rfl
  have connections :
      Members.get? (t.graphSource body) "connections" = Members.get? body "connections" :=
    get?_graphSource_of_flat t flat (by decide) rfl
  have read := fields'.connections
  rw [Schema.readConnections_congr edges connections] at read
  have read' := readConnections_previewGraph distinct h read
  exact Except.ok.inj (fields.connections.symm.trans read')

theorem mode_previewGraph : g.mode = SelectionMode.read (body.at "selectionMode") .automatic ∧
    t.graph.mode = SelectionMode.read (body.at "selectionMode") .automatic := by
  obtain ⟨forms, -, fields⟩ := fieldsRead_previewGraph distinct h flat hread
  have mode := (Strategy.compileFields_eq_ok.mp compiled).1.mode
  rw [← fields.mode, at_previewGraph distinct h (by decide) (by decide),
    Strategy.mode_of_flat flat compiled, mode]
  exact ⟨rfl, rfl⟩

theorem rules_previewGraph : ∃ rules, GatingRules.ofObject (body.at "gating").members = .ok rules ∧
    g.rules = .ok rules ∧ t.graph.rules = .ok rules := by
  obtain ⟨forms, -, fields⟩ := fieldsRead_previewGraph distinct h flat hread
  have entries := (Strategy.compileFields_eq_ok.mp compiled).1
  refine ⟨t.metadata.gating, entries.gating, ?_, ?_⟩
  · rw [Graph.rules, ← fields.gating, at_previewGraph distinct h (by decide) (by decide)]
    exact entries.gating
  · rw [Graph.rules, Strategy.gating_of_flat flat compiled]
    exact GatingRules.ofObject_toObject entries.filled.gating

end Graphs

/-! ## The two evaluations -/

theorem members_of_not_isSet {v : Json} (h : ¬ v.isSet) : v.members = [] := by
  cases v with
  | obj ms =>
      have empty : ms = [] := by simpa [Json.isSet] using h
      exact empty
  | _ => rfl

/-- What a request overrides: a value that is not set is left out. -/
theorem read_requestContext (o : Json.Object) : ∃ overrides,
    Context.read (requestContext o) = .ok overrides ∧
      overrides.gating = (o.at "gating").members ∧
      (overrides.mode = o.at "selectionMode" ∨
        overrides.mode = .null ∧ ¬ (o.at "selectionMode").isSet) := by
  refine ⟨Context.ofObject (requestContext o).members, rfl, ?_⟩
  simp only [requestContext, List.filterMap_cons, List.filterMap_nil, Context.ofObject]
  generalize o.at "selectionMode" = mode
  generalize o.at "gating" = gating
  by_cases hmode : mode.isSet <;> by_cases hgating : gating.isSet <;>
    simp only [hmode, hgating, if_true, if_false, Bool.false_eq_true]
  · exact ⟨rfl, .inl rfl⟩
  · exact ⟨(members_of_not_isSet hgating).symm, .inl rfl⟩
  · exact ⟨rfl, .inr ⟨rfl, not_false⟩⟩
  · exact ⟨(members_of_not_isSet hgating).symm, .inr ⟨rfl, not_false⟩⟩

section Evaluations

variable {g : Graph} {t : Strategy} (formed : (Json.obj whole).WellFormed)
  (h : WithHistory body given whole) (flat : (body.at "graph").asObject? = none)
  (hread : Graph.read (.obj (previewGraph whole)) = .ok g)
  (compiled : Strategy.compile (.obj body) = .ok t)

include formed h flat hread compiled

/-- The mode and the rules of the body, given once more as overrides, change nothing. -/
theorem terms_previewGraph (history : Json) :
    g.terms history (requestContext whole) = t.graph.terms history (.obj []) := by
  have distinct := formed.nodup_keys
  obtain ⟨rules, hrules, own, own'⟩ := rules_previewGraph distinct h flat hread compiled
  obtain ⟨mode, mode'⟩ := mode_previewGraph distinct h flat hread compiled
  obtain ⟨overrides, hctx, gating, named⟩ := read_requestContext whole
  rw [h.at_elsewhere (by decide)] at gating named
  -- the rules of the body do not change those that were read from it
  have merged : rules.merge overrides.gating = .ok rules := by
    have value : (whole.at "gating").WellFormed := formed.members.valueAt "gating"
    rw [h.at_elsewhere (by decide)] at value
    rw [gating]
    cases eq : body.at "gating" with
    | obj ms =>
        rw [eq] at value hrules
        exact GatingRules.merge_self value.nodup_keys hrules
    | _ => rfl
  have selected : SelectionMode.read overrides.mode g.mode = g.mode := by
    rw [mode]
    rcases named with eq | ⟨eq, unset⟩
    · rw [eq, SelectionMode.read_self]
    · rw [eq, SelectionMode.read_of_not_isSet (by decide)]
  have bare : Context.read (.obj []) = .ok ⟨.null, []⟩ := rfl
  have unchanged : SelectionMode.read .null t.graph.mode = t.graph.mode :=
    SelectionMode.read_of_not_isSet (by decide) _
  rw [Graph.terms_of_overrides hctx own merged, Graph.terms_of_overrides bare own' rfl, selected,
    unchanged, mode, mode']

theorem evaluate_previewGraph (history : Json) :
    g.evaluate history (requestContext whole) = t.evaluate history (.obj []) := by
  have distinct := formed.nodup_keys
  have nodes := nodes_previewGraph distinct h flat hread compiled
  have connections := connections_previewGraph distinct h flat hread compiled
  rw [Strategy.evaluate, Graph.evaluate_eq_bind, Graph.evaluate_eq_bind,
    terms_previewGraph formed h flat hread compiled, Graph.conclude_congr nodes connections]
  simp only [Graph.conditionRecords_congr nodes]

end Evaluations

/-- The numbers of configurations are finite if those of the body are. -/
theorem isFinite_config {t : Strategy} (finite : (Json.obj body).isFinite)
    (flat : (body.at "graph").asObject? = none) (compiled : Strategy.compile (.obj body) = .ok t) :
    ∀ n ∈ t.graph.nodes, ∀ kv ∈ n.config, kv.2.isFinite := by
  obtain ⟨forms, hforms, fields⟩ := Strategy.fieldsRead_graph compiled
  have parts := Json.hereditary_isFinite.members.mp finite
  refine Schema.of_mem_readNodes Json.hereditary_isFinite (fun vs found => ?_) hforms fields.nodes
  rw [get?_graphSource_of_flat t flat (by decide) rfl] at found
  exact Json.hereditary_isFinite.items (parts ("nodes", .arr vs) (Members.mem_of_get? found))

/-- A strategy that was read back evaluates as its body does in a preview. -/
theorem evaluate_stored_eq_preview {g : Graph} {t : Strategy} (formed : (Json.obj body).WellFormed)
    (formed' : (Json.obj whole).WellFormed) (h : WithHistory body given whole)
    (flat : (body.at "graph").asObject? = none) (finite : (Json.obj body).isFinite)
    (hread : Graph.read (.obj (previewGraph whole)) = .ok g)
    (compiled : Strategy.compile (.obj body) = .ok t)
    (ordered : ∀ n ∈ t.graph.nodes, ∀ kv ∈ n.config, kv.2.sorted = kv.2) (history : Json) :
    t.stored.graph.evaluate history (requestContext given) =
      g.evaluate history (requestContext whole) := by
  have numbers := isFinite_config finite flat compiled
  have steady := Strategy.steady_config formed compiled fun n hn kv hkv =>
    ⟨numbers n hn kv hkv, ordered n hn kv hkv⟩
  have stored := congrFun (congrFun (Strategy.evaluate_stored flat compiled steady) history)
  rw [h.requestContext_given, evaluate_previewGraph formed' h flat hread compiled]
  exact stored (.obj [])

end Service
end RouletteStrategy
