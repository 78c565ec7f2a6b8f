import RouletteStrategy.Proofs.Graph.KeyOrder

/-!
# The two shapes of a graph

A node has its subtype, configuration and label on top or under `data`, a connection names its kind
under either of two keys, and the lists of both stand on top, the connections under either of two
keys, or in a graph inside the payload. Each choice is made on its own, and none of them makes a
difference to the graph (`Graph.sameReading_readFrom`).
-/

namespace RouletteStrategy

/-! ## Issues under another key -/

/-- The same issue, where the list of connections stands under another key. -/
inductive Issue.Renamed (key : String) : Issue → Issue → Prop where
  | same (issue : Issue) : Renamed key issue issue
  | connection (path : Path) (fault : FieldFault) :
    Renamed key (.field ("connections" :: path) fault) (.field (key :: path) fault)

theorem Issue.Renamed.refl_all (key : String) (issues : List Issue) :
    List.Forall₂ (Renamed key) issues issues :=
  List.forall₂_same.mpr fun issue _ => .same issue

/-- The same value, or the same issues up to the key of the list of connections. -/
inductive Checked.Matches {α : Type} (key : String) : Checked α → Checked α → Prop where
  | ok (a : α) : Matches key (.ok a) (.ok a)
  | error {issues issues' : List Issue}
    (renamed : List.Forall₂ (Issue.Renamed key) issues issues') :
    Matches key (.error issues) (.error issues')

namespace Checked.Matches

variable {α β γ : Type} {key : String}

theorem refl (c : Checked α) : Matches key c c := by
  cases c with
  | ok a => exact .ok a
  | error issues => exact .error (Issue.Renamed.refl_all key issues)

theorem and {a a' : Checked α} {b b' : Checked β} (ha : Matches key a a') (hb : Matches key b b') :
    Matches key (Checked.and a b) (Checked.and a' b') := by
  cases ha with
  | ok x => cases hb with
    | ok y => exact .ok (x, y)
    | error renamed => exact .error renamed
  | error renamed => cases hb with
    | ok y => exact .error renamed
    | error renamed' => exact .error (List.rel_append renamed renamed')

theorem map {a a' : Checked α} (h : Matches key a a') (f : α → β) :
    Matches key (a.map f) (a'.map f) := by
  cases h with
  | ok x => exact .ok (f x)
  | error renamed => exact .error renamed

theorem all {R : α → β → Prop} {f : α × Nat → Checked γ} {g : β × Nat → Checked γ} {xs : List α}
    {ys : List β} (h : List.Forall₂ R xs ys)
    (each : ∀ {x y}, R x y → ∀ i, Matches key (f (x, i)) (g (y, i))) (i : Nat) :
    Matches key (Checked.all ((xs.zipIdx i).map f)) (Checked.all ((ys.zipIdx i).map g)) := by
  induction h generalizing i with
  | nil => exact .ok []
  | cons first _ ih =>
      rw [List.zipIdx_cons, List.zipIdx_cons, List.map_cons, List.map_cons, Checked.all,
        Checked.all]
      exact ((each first i).and (ih (i + 1))).map _

end Checked.Matches

namespace Schema

variable {origin : Pairs.Origin} {key : String}

/-! ## Nodes -/

/-- The fields of a node with everything on top. -/
structure FlatNode (n : Json.Object) : Prop where
  flat : Members.get? n "data" = none
  subtype : n.at "subtype" = .null ∨ ∃ s, n.at "subtype" = .str s ∧ s ≠ ""
  config : n.at "config" = .null ∨ ∃ ms, n.at "config" = .obj ms
  label : n.at "label" = .null ∨ ∃ s, n.at "label" = .str s

/-- The same node with subtype, configuration and label under `data`. -/
structure Built (n b data : Json.Object) : Prop where
  id : Members.get? b "id" = Members.get? n "id"
  kind : Members.get? b "type" = Members.get? n "type"
  below : ∀ key ∈ ["subtype", "config", "label"], Members.get? b key = none
  nested : Members.get? b "data" = some (.obj data)
  subtype : data.at "conditionType" = n.at "subtype"
  config : data.at "config" = n.at "config"
  label : data.at "label" = n.at "label"
  noOthers : ∀ key ∈ "subtype" :: liftedKeys, Members.get? data key = none

/-- A node in either of the two shapes. -/
inductive Reshaped : Json → Json → Prop where
  | flat (v : Json) : Reshaped v v
  | built {n b data : Json.Object} (h : Built n b data) : Reshaped (.obj n) (.obj b)

/-- Fields from which the same node is read. -/
structure SameFields (o o' : Json.Object) : Prop where
  id : Members.get? o "id" = Members.get? o' "id"
  kind : Members.get? o "type" = Members.get? o' "type"
  subtype : o.at "subtype" = o'.at "subtype"
  config : (o.at "config").members = (o'.at "config").members
  label : o.at "label" = o'.at "label"

theorem SameFields.readNode_eq {o o' : Json.Object} (h : SameFields o o') (index : Nat) :
    readNode index (.fields o []) = readNode index (.fields o' []) := by
  simp only [readNode, requiredText, readKind, optionalText, readConfig, h.id, h.kind, h.subtype,
    h.config, h.label]

theorem nodeForm_of_flat {n : Json.Object} (flat : FlatNode n) :
    nodeForm origin (.obj n) = .ok (.fields n []) := by
  simp only [nodeForm, Json.asObject?, objectForm, Json.Object.at, flat.flat, Option.getD_none]

/-- An object, or null for an object without members, read as pairs gives its members again. -/
theorem exists_entries (origin : Pairs.Origin) {v : Json}
    (object : v = .null ∨ ∃ ms, v = .obj ms) : ∃ es, Pairs.read origin v = .ok (.ok es) ∧
      Pairs.textMembers es = v.members ∧ Pairs.otherKeys es = [] := by
  rcases object with rfl | ⟨ms, rfl⟩
  · exact ⟨[], rfl, rfl, rfl⟩
  · exact ⟨_, Pairs.read_obj origin ms, Pairs.textMembers_ofMembers ms,
      Pairs.otherKeys_ofMembers ms⟩

theorem liftSettings_of_none {data : Json.Object} {es : Pairs.Entries}
    (missing : ∀ key ∈ liftedKeys, Members.get? data key = none) : liftSettings data es = es := by
  apply liftSettings_induction (P := (· = es)) rfl
  intro _ key v _ lifted found
  cases found.symm.trans (missing key lifted)

section Lifted

variable {b data : Json.Object} {es : Pairs.Entries}

/-- The flat form of a node with neither subtype nor configuration nor label on top. -/
def lifted (b data : Json.Object) (es : Pairs.Entries) : Json.Object :=
  Members.set
    (Members.setDefault (Members.setDefault b "config" (.obj (Pairs.textMembers es)))
      "label" (data.at "label"))
    "subtype" ((data.at "conditionType").orElse (data.at "subtype"))

theorem get?_lifted {key : String} (other : key ∉ ["subtype", "config", "label"]) :
    Members.get? (lifted b data es) key = Members.get? b key := by
  simp only [List.mem_cons, List.not_mem_nil, or_false, not_or] at other
  rw [lifted, Members.get?_set, if_neg (Ne.symm other.1), Members.get?_setDefault,
    if_neg other.2.2, Option.or_none, Members.get?_setDefault, if_neg other.2.1, Option.or_none]

theorem at_subtype_lifted : (lifted b data es).at "subtype" =
    (data.at "conditionType").orElse (data.at "subtype") := by
  rw [Json.Object.at, lifted, Members.get?_set, if_pos rfl, Option.getD_some]

theorem at_config_lifted (missing : Members.get? b "config" = none) :
    (lifted b data es).at "config" = .obj (Pairs.textMembers es) := by
  simp [Json.Object.at, lifted, Members.get?_set, Members.get?_setDefault, missing]

theorem at_label_lifted (missing : Members.get? b "label" = none) :
    (lifted b data es).at "label" = data.at "label" := by
  simp [Json.Object.at, lifted, Members.get?_set, Members.get?_setDefault, missing]

theorem flatten_eq_lifted (missing : Members.get? b "subtype" = none)
    (unlifted : ∀ key ∈ liftedKeys, Members.get? data key = none)
    (others : Pairs.otherKeys es = []) : flatten b data es = .fields (lifted b data es) [] := by
  have unset : Json.Object.at (Members.setDefault (Members.setDefault b "config"
      (.obj (Pairs.textMembers es))) "label" (data.at "label")) "subtype" = .null := by
    simp [Json.Object.at, Members.get?_setDefault, missing]
  simp only [flatten, liftSettings_of_none unlifted, others, ite_self, unset]
  rfl

end Lifted

theorem exists_nodeForm_of_built (origin : Pairs.Origin) {n b data : Json.Object}
    (flat : FlatNode n) (built : Built n b data) :
    ∃ o, nodeForm origin (.obj b) = .ok (.fields o []) ∧ SameFields n o := by
  obtain ⟨es, read, members, others⟩ := exists_entries origin flat.config
  obtain ⟨missing, unlifted⟩ := List.forall_mem_cons.mp built.noOthers
  have below := built.below
  simp only [List.forall_mem_cons] at below
  obtain ⟨subtype, config, label, -⟩ := below
  refine ⟨lifted b data es, ?_, ?_⟩
  · have nested : (b.at "data").asObject? = some data := by
      rw [Json.Object.at, built.nested]
      rfl
    rw [← flatten_eq_lifted subtype unlifted others]
    show objectForm origin b = _
    rw [objectForm, nested]
    show (Pairs.read origin (data.at "config") >>= _) = _
    rw [built.config, read]
    rfl
  · refine ⟨?_, ?_, ?_, ?_, ?_⟩
    · rw [get?_lifted (by decide), built.id]
    · rw [get?_lifted (by decide), built.kind]
    · have noSubtype : data.at "subtype" = .null := by
        rw [Json.Object.at, missing]
        rfl
      rw [at_subtype_lifted, built.subtype, noSubtype]
      rcases flat.subtype with eq | ⟨s, eq, nonempty⟩
      · rw [eq]
        rfl
      · rw [eq]
        exact (if_pos (bne_iff_ne.mpr nonempty)).symm
    · rw [at_config_lifted config, members, Json.members]
    · rw [at_label_lifted label, built.label]

/-- Flat forms from which the same node is read. -/
def SameNode (form form' : NodeForm) : Prop := ∀ index, readNode index form = readNode index form'

theorem exists_form (origin : Pairs.Origin) {v w : Json} (shape : Reshaped v w)
    (flat : ∃ n, v = .obj n ∧ FlatNode n) : ∃ form form',
      nodeForm origin v = .ok form ∧ nodeForm origin w = .ok form' ∧ SameNode form form' := by
  obtain ⟨n, rfl, flat⟩ := flat
  cases shape with
  | flat => exact ⟨_, _, nodeForm_of_flat flat, nodeForm_of_flat flat, fun _ => rfl⟩
  | built h =>
      obtain ⟨o, form, fields⟩ := exists_nodeForm_of_built origin flat h
      exact ⟨_, _, nodeForm_of_flat flat, form, fields.readNode_eq⟩

/-- Nodes with everything on top, and the same nodes in either shape, have flat forms. -/
theorem exists_forms (origin : Pairs.Origin) {vs ws : List Json}
    (shapes : List.Forall₂ Reshaped vs ws)
    (flat : ∀ v ∈ vs, ∃ n, v = .obj n ∧ FlatNode n) : ∃ forms forms',
      vs.mapM (nodeForm origin) = .ok forms ∧ ws.mapM (nodeForm origin) = .ok forms' ∧
        List.Forall₂ SameNode forms forms' := by
  induction shapes with
  | nil => exact ⟨[], [], rfl, rfl, .nil⟩
  | cons shape _ ih =>
      obtain ⟨first, rest⟩ := List.forall_mem_cons.mp flat
      obtain ⟨form, form', read, read', same⟩ := exists_form origin shape first
      obtain ⟨forms, forms', reads, reads', alike⟩ := ih rest
      refine ⟨form :: forms, form' :: forms', ?_, ?_, .cons same alike⟩
      · rw [List.mapM_cons, read, reads]
        rfl
      · rw [List.mapM_cons, read', reads']
        rfl

theorem nodeForms_of_list {o : Json.Object} {vs : List Json} {forms : List NodeForm}
    (list : Members.get? o "nodes" = some (.arr vs))
    (read : vs.mapM (nodeForm origin) = .ok forms) : nodeForms origin o = .ok (.ok forms) := by
  rw [nodeForms, readItems, list]
  show (vs.mapM (nodeForm origin)).map Except.ok = _
  rw [read]
  rfl

theorem readNodes_eq {forms forms' : List NodeForm} (h : List.Forall₂ SameNode forms forms') :
    readNodes (.ok forms) = readNodes (.ok forms') := by
  have read : Parallel (List.Forall₂ Eq) (readNodes (.ok forms)) (readNodes (.ok forms')) :=
    Checked.parallel_all h (fun same i => .of_eq (same i)) 0
  rw [List.forall₂_eq_eq_eq] at read
  exact read.eq

/-! ## Connections -/

/-- The same connection with its kind under another key. -/
structure Retyped (c d : Json.Object) : Prop where
  moved : Members.get? d "type" = Members.get? c "kind"
  kind : Members.get? d "kind" = none
  rest : ∀ key, key ≠ "type" → key ≠ "kind" → Members.get? d key = Members.get? c key

/-- A connection with its kind under either key. -/
inductive Rekeyed : Json → Json → Prop where
  | kept (v : Json) : Rekeyed v v
  | retyped {c d : Json.Object} (h : Retyped c d) : Rekeyed (.obj c) (.obj d)

theorem matches_requiredText {o o' : Json.Object} {field : String} (path : Path)
    (same : Members.get? o' field = Members.get? o field) :
    Checked.Matches key (requiredText ("connections" :: path) o field)
      (requiredText (key :: path) o' field) := by
  unfold requiredText
  rw [same]
  cases Members.get? o field with
  | none => exact .error (.cons (.connection _ _) .nil)
  | some v => cases v with
    | null => exact .error (.cons (.connection _ _) .nil)
    | _ => exact .ok _

theorem matches_connection {c d : Json.Object}
    (texts : ∀ field ∈ ["id", "source", "target"], Members.get? d field = Members.get? c field)
    (kind : connectionKind d = connectionKind c) (index : Nat) :
    Checked.Matches key (readConnection "connections" index (.obj c))
      (readConnection key index (.obj d)) := by
  simp only [List.forall_mem_cons] at texts
  obtain ⟨id, source, target, -⟩ := texts
  simp only [readConnection, Json.asObject?, Json.Object.at, defaultConnectionId, id, source,
    target, kind]
  exact ((matches_requiredText _ source).and (matches_requiredText _ target)).map _

theorem matches_readConnection {v w : Json} (h : Rekeyed v w)
    (untyped : ∃ c, v = .obj c ∧ Members.get? c "type" = none) (index : Nat) :
    Checked.Matches key (readConnection "connections" index v) (readConnection key index w) := by
  obtain ⟨c, rfl, untyped⟩ := untyped
  cases h with
  | kept => exact matches_connection (fun _ _ => rfl) rfl index
  | @retyped _ d h =>
      have kind : connectionKind d = connectionKind c := by
        rw [connectionKind, connectionKind, untyped, h.moved, Option.getD_none, Json.Object.at,
          Json.Object.at, h.kind]
        rfl
      refine matches_connection (fun field mem => h.rest field ?_ ?_) kind index
      · rintro rfl
        exact absurd mem (by decide)
      · rintro rfl
        exact absurd mem (by decide)

/-! ## Payloads -/

/-- A payload with flat nodes and connections on top. -/
structure FlatPayload (o : Json.Object) (vs cs : List Json) : Prop where
  nodes : Members.get? o "nodes" = some (.arr vs)
  connections : Members.get? o "connections" = some (.arr cs)
  noEdges : Members.get? o "edges" = none
  noGraph : Members.get? o "graph" = none
  flat : ∀ v ∈ vs, ∃ n, v = .obj n ∧ FlatNode n
  untyped : ∀ v ∈ cs, ∃ c, v = .obj c ∧ Members.get? c "type" = none

/-- The keys of nodes and connections, and of a graph with them inside a payload. -/
def bodyKeys : List String := ["nodes", "connections", "edges", "graph"]

/-- A payload with given nodes and connections, with the connections under a key, on top or in a
graph inside it, and the other fields of an object on top. -/
inductive Arranged (o : Json.Object) (vs cs : List Json) : String → Json.Object → Prop where
  | connections {p : Json.Object} (nodes : Members.get? p "nodes" = some (.arr vs))
    (list : Members.get? p "connections" = some (.arr cs)) (noEdges : Members.get? p "edges" = none)
    (noGraph : Members.get? p "graph" = none)
    (rest : ∀ key ∉ bodyKeys, Members.get? p key = Members.get? o key) :
    Arranged o vs cs "connections" p
  | edges {p : Json.Object} (nodes : Members.get? p "nodes" = some (.arr vs))
    (list : Members.get? p "edges" = some (.arr cs)) (noGraph : Members.get? p "graph" = none)
    (rest : ∀ key ∉ bodyKeys, Members.get? p key = Members.get? o key) : Arranged o vs cs "edges" p
  | nested {key : String} {p g : Json.Object} (listed : key = "connections" ∨ key = "edges")
    (inside : g.Perm [("nodes", .arr vs), (key, .arr cs)])
    (graph : Members.get? p "graph" = some (.obj g))
    (above : ∀ key ∈ ["nodes", "connections", "edges"], Members.get? p key = none)
    (rest : ∀ key ∉ bodyKeys, Members.get? p key = Members.get? o key) : Arranged o vs cs key p

/-- What is read of a payload that is arranged in one of these ways. -/
structure Holds (o : Json.Object) (vs cs : List Json) (key : String) (f : Json.Object) : Prop where
  nodes : Members.get? f "nodes" = some (.arr vs)
  connections : Members.get? f key = some (.arr cs)
  key : connectionsKey f = key
  rest : ∀ key ∉ bodyKeys, Members.get? f key = Members.get? o key

theorem Holds.of_flat {o p : Json.Object} {vs cs : List Json}
    (noGraph : Members.get? p "graph" = none) (holds : Holds o vs cs key p) :
    Holds o vs cs key (unnest p) := by
  have flat : (p.at "graph").asObject? = none := by
    rw [Json.Object.at, noGraph]
    rfl
  rwa [unnest_of_flat flat]

/-- Lists in a graph inside a payload count before those on top. -/
theorem get?_unnest_of_perm {p g lists : Json.Object}
    (graph : Members.get? p "graph" = some (.obj g)) (inside : g.Perm lists)
    (distinct : (Members.keys lists).Nodup) {k : String} (ne : k ≠ "graph") :
    Members.get? (unnest p) k = (Members.get? lists k).or (Members.get? p k) := by
  have object : (p.at "graph").asObject? = some g := by
    rw [Json.Object.at, graph]
    rfl
  have perm : lists.Perm g.reverse := (g.reverse_perm.trans inside).symm
  rw [get?_unnest p ne, nested?, object, Option.bind_some, Members.get?_eq_of_perm perm distinct]

theorem Arranged.holds {o p : Json.Object} {vs cs : List Json} (h : Arranged o vs cs key p) :
    Holds o vs cs key (unnest p) := by
  cases h with
  | connections nodes list noEdges noGraph rest =>
      refine .of_flat noGraph ⟨nodes, list, ?_, rest⟩
      rw [connectionsKey, Members.has, noEdges]
      rfl
  | edges nodes list noGraph rest =>
      refine .of_flat noGraph ⟨nodes, list, ?_, rest⟩
      rw [connectionsKey, Members.has, list]
      rfl
  | nested listed inside graph above rest =>
      have distinct : ["nodes", key].Nodup := by
        rcases listed with rfl | rfl <;> decide
      have fields {k : String} (ne : k ≠ "graph") := get?_unnest_of_perm graph inside distinct ne
      have noEdges : Members.get? p "edges" = none := above "edges" (by decide)
      refine ⟨fields (by decide), ?_, ?_, fun k other => ?_⟩
      · rcases listed with rfl | rfl <;> exact fields (by decide)
      · rw [connectionsKey, Members.has, fields (by decide), noEdges]
        rcases listed with rfl | rfl <;> rfl
      · rw [← rest k other]
        simp only [bodyKeys, List.mem_cons, List.not_mem_nil, or_false, not_or] at other
        rw [fields other.2.2.2]
        rcases listed with rfl | rfl
        · simp [Ne.symm other.1, Ne.symm other.2.1]
        · simp [Ne.symm other.1, Ne.symm other.2.2.1]

theorem matches_readFields {o f f' : Json.Object} {vs ws cs ds : List Json}
    {forms forms' : List NodeForm} (h : Holds o vs cs "connections" f) (h' : Holds o ws ds key f')
    (nodes : List.Forall₂ SameNode forms forms') (connections : List.Forall₂ Rekeyed cs ds)
    (untyped : ∀ v ∈ cs, ∃ c, v = .obj c ∧ Members.get? c "type" = none) :
    Checked.Matches key (readFields f (.ok forms)) (readFields f' (.ok forms')) := by
  have rest (k : String) (other : k ∉ bodyKeys) : Members.get? f' k = Members.get? f k :=
    (h'.rest k other).trans (h.rest k other).symm
  have name := rest "name" (by decide)
  have description := rest "description" (by decide)
  have version := rest "version" (by decide)
  have schemaVersion := rest "schemaVersion" (by decide)
  have mode := rest "selectionMode" (by decide)
  have gating := rest "gating" (by decide)
  have lists : Checked.Matches key (readConnections f) (readConnections f') := by
    have items : readConnections f =
        Checked.all (cs.zipIdx.map fun p => readConnection "connections" p.2 p.1) := by
      rw [readConnections, h.key, readItems, h.connections]
      rfl
    have items' : readConnections f' =
        Checked.all (ds.zipIdx.map fun p => readConnection key p.2 p.1) := by
      rw [readConnections, h'.key, readItems, h'.connections]
      rfl
    rw [items, items']
    have typed := (List.forall₂_and_left cs ds).mpr ⟨untyped, connections⟩
    exact .all typed (fun related i => matches_readConnection related.2 related.1 i) 0
  simp only [readFields, readText, readVersion, Json.Object.at, name, description, version,
    schemaVersion, mode, gating, readNodes_eq nodes]
  exact ((Checked.Matches.refl _).and ((Checked.Matches.refl _).and ((Checked.Matches.refl _).and
    ((Checked.Matches.refl _).and ((Checked.Matches.refl _).and lists))))).map _

end Schema

namespace Graph

/-- Two readings of the same graph, or two refusals for the same reasons up to the key of the list
of connections. -/
inductive SameReading (key : String) : Except Error Graph → Except Error Graph → Prop where
  | read (g : Graph) : SameReading key (.ok g) (.ok g)
  | refused {issues issues' : List Issue}
    (renamed : List.Forall₂ (Issue.Renamed key) issues issues') :
    SameReading key (.error (.invalidGraph issues)) (.error (.invalidGraph issues'))

variable {origin : Pairs.Origin} {o p : Json.Object} {key : String} {vs ws cs ds : List Json}

theorem sameReading_of_matches {c c' : Checked Graph} (h : c.Matches key c')
    (fields : ofObject origin (Schema.unnest o) = .ok c)
    (fields' : ofObject origin (Schema.unnest p) = .ok c') :
    SameReading key (readFrom origin (.obj o)) (readFrom origin (.obj p)) := by
  simp only [readFrom, readUnchecked, Json.asObject?, fields, fields']
  cases h with
  | error renamed => exact .refused renamed
  | ok g =>
      show SameReading key g.check g.check
      unfold check
      split
      · exact .read g
      · exact .refused (Issue.Renamed.refl_all key g.issues)

/-- Neither the shape of a node nor the key of a kind nor the place of the lists makes a difference to
the graph that is read, or to the reasons for which it is refused. -/
theorem sameReading_readFrom (flat : Schema.FlatPayload o vs cs)
    (nodes : List.Forall₂ Schema.Reshaped vs ws) (connections : List.Forall₂ Schema.Rekeyed cs ds)
    (arranged : Schema.Arranged o ws ds key p) :
    SameReading key (readFrom origin (.obj o)) (readFrom origin (.obj p)) := by
  have onTop : Schema.Arranged o vs cs "connections" o :=
    .connections flat.nodes flat.connections flat.noEdges flat.noGraph fun _ _ => rfl
  have holds := onTop.holds
  have holds' := arranged.holds
  obtain ⟨forms, forms', read, read', same⟩ := Schema.exists_forms origin nodes flat.flat
  have matched := Schema.matches_readFields holds holds' same connections flat.untyped
  apply sameReading_of_matches matched
  · rw [ofObject, Schema.nodeForms_of_list holds.nodes read]
    rfl
  · rw [ofObject, Schema.nodeForms_of_list holds'.nodes read']
    rfl

namespace RedRun

/-- A run of red numbers, as a node with everything on top. -/
def run : Json.Object :=
  [("id", .str "run"), ("type", .str "condition"), ("subtype", .str "repetition"),
   ("config", .obj [("evento", .str "red")])]

/-- What stands under `data` in the node as the builder gives it. -/
def runData : Json.Object :=
  [("label", .null), ("conditionType", .str "repetition"),
   ("config", .obj [("evento", .str "red")])]

def builtRun : Json.Object :=
  [("id", .str "run"), ("type", .str "condition"), ("data", .obj runData)]

def bet : Json.Object :=
  [("id", .str "bet"), ("type", .str "signal"), ("config", .obj []), ("label", .str "Bet")]

def link (key : String) : Json.Object :=
  [("source", .str "run"), ("target", .str "bet"), (key, .str "failure")]

def payload : Json.Object :=
  [("name", .str "Red run"), ("nodes", .arr [.obj run, .obj bet]),
   ("connections", .arr [.obj (link "kind")])]

def inner : Json.Object :=
  [("edges", .arr [.obj (link "type")]), ("nodes", .arr [.obj builtRun, .obj bet])]

/-- The same graph with the run as the builder gives it, inside the payload. -/
def nested : Json.Object := [("graph", .obj inner), ("name", .str "Red run")]

theorem flat : Schema.FlatPayload payload [.obj run, .obj bet] [.obj (link "kind")] where
  nodes := rfl
  connections := rfl
  noEdges := rfl
  noGraph := rfl
  flat := by
    have flatRun : Schema.FlatNode run :=
      ⟨rfl, .inr ⟨"repetition", rfl, by decide⟩, .inr ⟨_, rfl⟩, .inl rfl⟩
    have flatBet : Schema.FlatNode bet := ⟨rfl, .inl rfl, .inr ⟨[], rfl⟩, .inr ⟨"Bet", rfl⟩⟩
    simp only [List.forall_mem_cons]
    exact ⟨⟨run, rfl, flatRun⟩, ⟨bet, rfl, flatBet⟩, List.forall_mem_nil _⟩
  untyped := List.forall_mem_singleton.mpr ⟨_, rfl, rfl⟩

theorem built : Schema.Built run builtRun runData where
  id := rfl
  kind := rfl
  below := by decide
  nested := rfl
  subtype := rfl
  config := rfl
  label := rfl
  noOthers := by decide

theorem retyped : Schema.Retyped (link "kind") (link "type") where
  moved := rfl
  kind := rfl
  rest := by
    intro key type kind
    simp [link, type.symm, kind.symm]

theorem arranged : Schema.Arranged payload [.obj builtRun, .obj bet] [.obj (link "type")] "edges"
    nested := by
  refine .nested (.inr rfl) (List.Perm.swap _ _ _) rfl (by decide) fun key other => ?_
  simp only [Schema.bodyKeys, List.mem_cons, List.not_mem_nil, or_false, not_or] at other
  obtain ⟨nodes, connections, -, graph⟩ := other
  simp [nested, payload, Ne.symm nodes, Ne.symm connections, Ne.symm graph]

end RedRun

/-- The run is read from both payloads, with the kind of its connection. -/
theorem sameReading_readFrom_redRun :
    SameReading "edges" (read (.obj RedRun.payload)) (read (.obj RedRun.nested)) ∧
      (read (.obj RedRun.nested)).map (·.connections.map (·.kind)) = .ok [.failure] := by
  refine ⟨?_, by rfl⟩
  exact sameReading_readFrom RedRun.flat
    (.cons (.built RedRun.built) (.cons (.flat _) .nil)) (.cons (.retyped RedRun.retyped) .nil)
    RedRun.arranged

end Graph
end RouletteStrategy
