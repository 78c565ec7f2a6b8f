import RouletteStrategy.Proofs.Evaluation.Stored
import RouletteStrategy.Proofs.Strategy.RoundTrip

/-!
# Compiled strategies and the graphs of their payloads

A payload that is both read as a graph and compiled evaluates the same both ways. The graph of a
strategy agrees with its metadata exactly if a graph inside the payload does not say otherwise.
-/

namespace RouletteStrategy

namespace Schema

variable {o o' : Json.Object}

theorem nodeForms_congr (origin : Pairs.Origin)
    (h : Members.get? o "nodes" = Members.get? o' "nodes") :
    nodeForms origin o = nodeForms origin o' := by
  rw [nodeForms, nodeForms, readItems, readItems, h]

theorem readConnections_congr (edges : Members.get? o "edges" = Members.get? o' "edges")
    (connections : Members.get? o "connections" = Members.get? o' "connections") :
    readConnections o = readConnections o' := by
  have key : connectionsKey o = connectionsKey o' := by
    rw [connectionsKey, connectionsKey, Members.has, Members.has, edges]
  have items : readItems o (connectionsKey o') = readItems o' (connectionsKey o') := by
    have either : connectionsKey o' = "edges" ∨ connectionsKey o' = "connections" := by
      unfold connectionsKey
      split
      · exact .inl rfl
      · exact .inr rfl
    rcases either with eq | eq
    · rw [eq, readItems, readItems, edges]
    · rw [eq, readItems, readItems, connections]
  simp only [readConnections, key, items]

theorem at_unnest (o : Json.Object) {key : String} (ne : key ≠ "graph") :
    Json.Object.at (unnest o) key = (nested? o key).getD (o.at key) := by
  rw [Json.Object.at, get?_unnest o ne]
  cases nested? o key <;> rfl

end Schema

namespace Strategy

variable {o : Json.Object} {s : Strategy}

/-- Away from the entries of the metadata, a graph is compiled from what it is read from. -/
theorem get?_graphSource_other (s : Strategy) (o : Json.Object) {key : String} (ne : key ≠ "graph")
    (other : Members.get? s.metadata.graphFields key = none) :
    Members.get? (s.graphSource o) key = Members.get? (Schema.unnest o) key :=
  get?_unnest_overlay_other s.metadata o ne other

/-- Under the entries of the metadata, a graph inside the payload wins over them. -/
theorem get?_graphSource_entry (s : Strategy) (o : Json.Object) {key : String} (ne : key ≠ "graph")
    {v : Json} (entry : Members.get? s.metadata.graphFields key = some v) :
    Members.get? (s.graphSource o) key = some ((Schema.nested? o key).getD v) := by
  rw [get?_graphSource s o ne, entry]
  cases Schema.nested? o key <;> rfl

theorem at_graphSource (s : Strategy) (o : Json.Object) {key : String} (ne : key ≠ "graph")
    {v : Json} (entry : Members.get? s.metadata.graphFields key = some v) :
    Json.Object.at (s.graphSource o) key = (Schema.nested? o key).getD v := by
  rw [Json.Object.at, get?_graphSource_entry s o ne entry]
  rfl

section Live

variable {g : Graph} (hread : Graph.read (.obj o) = .ok g) (h : compile (.obj o) = .ok s)
include hread h

theorem nodes_eq_of_read : s.graph.nodes = g.nodes := by
  obtain ⟨⟨forms, hforms, fields⟩, -⟩ := Graph.readFrom_eq_ok.mp hread
  obtain ⟨forms', hforms', fields'⟩ := fieldsRead_graph h
  have nodes := get?_graphSource_other s o (show "nodes" ≠ "graph" by decide) rfl
  cases hforms'.symm.trans ((Schema.nodeForms_congr .values nodes).trans hforms)
  exact Except.ok.inj (fields'.nodes.symm.trans fields.nodes)

theorem connections_eq_of_read : s.graph.connections = g.connections := by
  obtain ⟨⟨forms, -, fields⟩, -⟩ := Graph.readFrom_eq_ok.mp hread
  obtain ⟨forms', -, fields'⟩ := fieldsRead_graph h
  have edges := get?_graphSource_other s o (show "edges" ≠ "graph" by decide) rfl
  have connections := get?_graphSource_other s o (show "connections" ≠ "graph" by decide) rfl
  have same := Schema.readConnections_congr edges connections
  exact Except.ok.inj (fields'.connections.symm.trans (same.trans fields.connections))

/-- The mode is read once from the payload, or again from its name in the metadata. -/
theorem mode_eq_of_read : s.graph.mode = g.mode := by
  obtain ⟨⟨forms, -, fields⟩, -⟩ := Graph.readFrom_eq_ok.mp hread
  obtain ⟨forms', -, fields'⟩ := fieldsRead_graph h
  have entries := (compileFields_eq_ok.mp h).1
  rw [← fields'.mode, ← fields.mode, at_graphSource s o (by decide) rfl,
    Schema.at_unnest o (by decide)]
  cases Schema.nested? o "selectionMode" with
  | some v => rfl
  | none => exact (SelectionMode.read_name entries.filled.mode _).trans entries.mode.symm

/-- The rules are read once from the payload, or again from those in the metadata. -/
theorem rules_eq_of_read : s.graph.rules = g.rules := by
  obtain ⟨⟨forms, -, fields⟩, -⟩ := Graph.readFrom_eq_ok.mp hread
  obtain ⟨forms', -, fields'⟩ := fieldsRead_graph h
  have entries := (compileFields_eq_ok.mp h).1
  rw [Graph.rules, Graph.rules, ← fields'.gating, ← fields.gating,
    at_graphSource s o (by decide) rfl, Schema.at_unnest o (by decide)]
  cases Schema.nested? o "gating" with
  | some v => rfl
  | none => exact (GatingRules.ofObject_toObject entries.filled.gating).trans entries.gating.symm

theorem evaluate_eq_of_read : s.evaluate = g.evaluate :=
  Graph.evaluate_congr (rules_eq_of_read hread h) (mode_eq_of_read hread h)
    (nodes_eq_of_read hread h)
    (connections_eq_of_read hread h)

end Live

/-- Live evaluation of a payload and evaluation of its strategy give the same errors and reports. -/
theorem evaluate_compile_eq_read {p : Json} {g : Graph} (hread : Graph.read p = .ok g)
    (h : compile p = .ok s) (history ctx : Json) :
    s.evaluate history ctx = g.evaluate history ctx ∧
      (s.evaluate history ctx).map Evaluation.views =
        (g.evaluate history ctx).map Evaluation.views := by
  cases p with
  | obj o =>
      rw [evaluate_eq_of_read hread h]
      exact ⟨rfl, rfl⟩
  | _ => cases h

/-- The graph of a payload inside another one, with a mode and rules that need reading. -/
def nestedRun : Json.Object :=
  [("selectionMode", .str " HYBRID "),
   ("gating", .obj [("maxNumbersAuto", .int 99), ("excludeZero", .str "sim")]),
   ("graph", .obj redRun)]

theorem evaluate_compile_eq_read_nestedRun : ∃ g s, Graph.read (.obj nestedRun) = .ok g ∧
    compile (.obj nestedRun) = .ok s ∧ ∀ history ctx,
      s.evaluate history ctx = g.evaluate history ctx ∧
      (s.evaluate history ctx).map Evaluation.views =
        (g.evaluate history ctx).map Evaluation.views := by
  obtain ⟨g, hread⟩ := exists_of_isOk (show (Graph.read (.obj nestedRun)).isOk by rfl)
  obtain ⟨s, h⟩ := exists_of_isOk (show (compile (.obj nestedRun)).isOk by rfl)
  exact ⟨g, s, hread, h, evaluate_compile_eq_read hread h⟩

/-! ## Graph and metadata -/

/-- What is evaluated is what is exported, listed and checked. -/
structure Agrees (s : Strategy) : Prop where
  name : s.graph.name = s.metadata.name
  description : s.graph.description = s.metadata.description
  version : s.graph.version = s.metadata.version
  mode : s.graph.mode = s.metadata.mode
  rules : s.graph.rules = .ok s.metadata.gating
  schemaVersion : s.graph.schemaVersion = s.metadata.schemaVersion
  supported : s.graph.schemaVersion ∈ supportedVersions

end Strategy

namespace Schema

variable {o : Json.Object} {key default t : String} {v : Json}

theorem display_of_readText (found : Members.get? o key = some v)
    (h : readText o key default = .ok t) : v.display = t := by
  unfold readText at h
  rw [found] at h
  cases v <;> cases h
  rfl

theorem display_of_readVersion (found : Members.get? o key = some v)
    (h : readVersion o key default = .ok t) : v.display = t := by
  unfold readVersion at h
  rw [found] at h
  cases v <;> cases h <;> rfl

end Schema

namespace Strategy

variable {o : Json.Object} {s : Strategy}

/-- A value gives way to a default text exactly if it is missing or displayed as that text. -/
theorem display_getD_iff (v : Option Json) (t : String) :
    (v.getD (.str t)).display = t ↔ ∀ w, v = some w → w.display = t := by
  cases v <;> simp [Json.display]

/-- The graph of a strategy agrees with its metadata exactly if a graph inside the payload has none
of the entries of the metadata, or says the same under them. -/
theorem agrees_iff (h : compile (.obj o) = .ok s) : s.Agrees ↔
    (∀ v, Schema.nested? o "name" = some v → v.display = s.metadata.name) ∧
    (∀ v, Schema.nested? o "description" = some v → v.display = s.metadata.description) ∧
    (∀ v, Schema.nested? o "version" = some v → v.display = s.metadata.version) ∧
    (∀ v, Schema.nested? o "selectionMode" = some v →
      SelectionMode.read v .automatic = s.metadata.mode) ∧
    (∀ v, Schema.nested? o "gating" = some v →
      GatingRules.ofObject v.members = .ok s.metadata.gating) ∧
    ∀ v, Schema.nested? o "schemaVersion" = some v → v.display = s.metadata.schemaVersion := by
  obtain ⟨forms, -, fields⟩ := fieldsRead_graph h
  obtain ⟨entries, valid, -⟩ := compileFields_eq_ok.mp h
  have name := Schema.display_of_readText (get?_graphSource_entry s o (by decide) rfl) fields.name
  have description :=
    Schema.display_of_readText (get?_graphSource_entry s o (by decide) rfl) fields.description
  have version :=
    Schema.display_of_readVersion (get?_graphSource_entry s o (by decide) rfl) fields.version
  have schemaVersion :=
    Schema.display_of_readVersion (get?_graphSource_entry s o (by decide) rfl) fields.schemaVersion
  have mode : s.graph.mode = s.metadata.mode ↔ ∀ v, Schema.nested? o "selectionMode" = some v →
      SelectionMode.read v .automatic = s.metadata.mode := by
    rw [← fields.mode, at_graphSource s o (by decide) rfl]
    cases Schema.nested? o "selectionMode" with
    | some v => simp
    | none => simpa using SelectionMode.read_name entries.filled.mode _
  have rules : s.graph.rules = .ok s.metadata.gating ↔ ∀ v, Schema.nested? o "gating" = some v →
      GatingRules.ofObject v.members = .ok s.metadata.gating := by
    rw [Graph.rules, ← fields.gating, at_graphSource s o (by decide) rfl]
    cases Schema.nested? o "gating" with
    | some v => simp
    | none => simpa [Json.members] using GatingRules.ofObject_toObject entries.filled.gating
  rw [← display_getD_iff, ← display_getD_iff, ← display_getD_iff, ← display_getD_iff, name,
    description, version, schemaVersion, ← mode, ← rules]
  constructor
  · exact fun a => ⟨a.name, a.description, a.version, a.mode, a.rules, a.schemaVersion⟩
  · rintro ⟨name, description, version, mode, rules, schemaVersion⟩
    exact ⟨name, description, version, mode, rules, schemaVersion,
      schemaVersion ▸ (Metadata.issues_eq_nil_iff.mp valid).1⟩

/-- A graph inside a payload with another name and an unknown schema version. -/
def renamedRun : Json.Object :=
  [("name", .str "Red run"),
   ("graph", .obj [("name", .str "Black run"), ("schemaVersion", .str "9.9"), ("nodes", .arr [])])]

/-- It is compiled all the same: under one name, with the graph under the other one. -/
theorem agrees_iff_renamedRun : ∃ s, compile (.obj renamedRun) = .ok s ∧
    s.metadata.name = "Red run" ∧ s.graph.schemaVersion ∉ supportedVersions ∧ ¬s.Agrees := by
  have accepted : (compile (.obj renamedRun)).isOk := by rfl
  obtain ⟨s, h⟩ := exists_of_isOk accepted
  have name : s.metadata.name = "Red run" := (compileFields_eq_ok.mp h).1.name.symm
  refine ⟨s, h, name, ?_, fun agrees => ?_⟩
  · obtain ⟨forms, -, fields⟩ := fieldsRead_graph h
    have version : "9.9" = s.graph.schemaVersion := Schema.display_of_readVersion
      (get?_graphSource_entry s renamedRun (by decide) rfl) fields.schemaVersion
    rw [← version]
    decide
  · have same := ((agrees_iff h).mp agrees).1 (.str "Black run") rfl
    rw [name] at same
    exact absurd same (by decide)

end Strategy
end RouletteStrategy
