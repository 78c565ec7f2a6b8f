import RouletteStrategy.Graph.Schema
import RouletteStrategy.Proofs.Except
import RouletteStrategy.Proofs.Members

/-!
# What a graph that was read has in common with its fields

A graph is read exactly if each of its fields is (`Schema.readFields_eq_ok`,
`Graph.readFrom_eq_ok`), and so are its nodes and connections (`Schema.readNode_eq_ok`,
`Schema.readConnection_eq_ok`).
-/

namespace RouletteStrategy

namespace Checked

variable {α β γ : Type}

theorem and_eq_ok {a : Checked α} {b : Checked β} {p : α × β} :
    Checked.and a b = .ok p ↔ a = .ok p.1 ∧ b = .ok p.2 := by
  obtain ⟨x, y⟩ := p
  cases a <;> cases b <;> simp [Checked.and]

theorem mem_of_all_eq_ok {cs : List (Checked α)} {xs : List α} (h : all cs = .ok xs) :
    ∀ x ∈ xs, .ok x ∈ cs := by
  induction cs generalizing xs with
  | nil =>
      cases h
      exact fun _ hx => absurd hx List.not_mem_nil
  | cons c cs ih =>
      obtain ⟨⟨x, rest⟩, both, rfl⟩ := map_eq_ok.mp h
      obtain ⟨first, more⟩ := and_eq_ok.mp both
      refine List.forall_mem_cons.mpr ⟨?_, fun y hy => List.mem_cons_of_mem _ (ih more y hy)⟩
      rw [first]
      exact List.mem_cons_self

/-- Numbered items that are all read give the list of what each of them is read as. -/
theorem all_zipIdx_eq_ok {f : β × Nat → Checked γ} {a : α → β} {g : α → γ} {xs : List α}
    (h : ∀ x ∈ xs, ∀ i, f (a x, i) = .ok (g x)) (i : Nat) :
    all (((xs.map a).zipIdx i).map f) = .ok (xs.map g) := by
  induction xs generalizing i with
  | nil => rfl
  | cons x xs ih =>
      obtain ⟨first, rest⟩ := List.forall_mem_cons.mp h
      rw [List.map_cons, List.zipIdx_cons, List.map_cons, all, first, ih rest]
      rfl

end Checked

namespace Pairs

variable {origin : Origin} {P : Entries → Prop} {Q : Json → Prop}

/-- A property of values that entries inherit from what they are read from. -/
structure Inherited (origin : Origin) (Q : Json → Prop) (P : Entries → Prop) : Prop where
  nil : P []
  set : ∀ {es key v}, P es → Q key → Q v → P (set origin es key v)
  items : ∀ {v items}, Q v → entryItems v = .ok items → ∀ x ∈ items, Q x
  members : ∀ {ms : Json.Object}, Q (.obj ms) → P (ms.map fun kv => (.str kv.1, kv.2))

theorem Inherited.ofItems (h : Inherited origin Q P) {vs : List Json} (hvs : ∀ v ∈ vs, Q v)
    {index : Nat} {done es : Entries} (hdone : P done)
    (read : ofItems origin index done vs = .ok (.ok es)) : P es := by
  induction vs generalizing index done with
  | nil =>
      cases read
      exact hdone
  | cons v vs ih =>
      obtain ⟨first, rest⟩ := List.forall_mem_cons.mp hvs
      obtain ⟨items, entry, read⟩ := bind_eq_ok.mp read
      have parts := h.items first entry
      split at read
      · next key value =>
        split at read
        · exact ih rest (h.set hdone (parts key (by simp)) (parts value (by simp))) read
        · cases read
      · cases read

theorem Inherited.read (h : Inherited origin Q P) {v : Json} (hv : Q v) {es : Entries}
    (read : read origin v = .ok (.ok es)) : P es := by
  unfold Pairs.read at read
  split at read
  · cases read
    exact h.nil
  · split at read
    · cases read
      exact h.members hv
    · exact h.ofItems (h.items hv rfl) h.nil read
    · exact h.ofItems (h.items hv rfl) h.nil read
    · cases read

end Pairs

namespace Schema

variable {origin : Pairs.Origin}

/-- What holds of entries, and goes on to hold when settings of the node are put behind them. -/
theorem liftSettings_induction {P : Pairs.Entries → Prop} {data : Json.Object} {es : Pairs.Entries}
    (start : P es)
    (step : ∀ {es key v}, P es → key ∈ liftedKeys → Members.get? data key = some v →
      (¬es.any fun e => e.1.asString? == some key) → P (es ++ [(.str key, v)])) :
    P (liftSettings data es) := by
  unfold liftSettings
  generalize same : liftedKeys = keys
  have lifted : ∀ key ∈ keys, key ∈ liftedKeys := fun _ h => same ▸ h
  clear same
  induction keys generalizing es with
  | nil => exact start
  | cons key keys ih =>
      obtain ⟨first, lifted⟩ := List.forall_mem_cons.mp lifted
      refine ih ?_ lifted
      dsimp only
      split
      · next found =>
        split
        · exact start
        · next new => exact step start first found new
      · exact start

/-- How the flat form of a node comes about. -/
inductive Flattened (origin : Pairs.Origin) (v : Json) : NodeForm → Prop where
  | notObject : Flattened origin v .notObject
  | flat {o : Json.Object} (object : v.asObject? = some o) : Flattened origin v (.fields o [])
  | badPairs (entry : Pairs.BadEntry) : Flattened origin v (.badPairs entry)
  | nested {o data : Json.Object} {es : Pairs.Entries} (object : v.asObject? = some o)
    (nested : (o.at "data").asObject? = some data)
    (read : Pairs.read origin (data.at "config") = .ok (.ok es)) :
    Flattened origin v (flatten o data es)

theorem flattened_of_nodeForm {v : Json} {form : NodeForm} (h : nodeForm origin v = .ok form) :
    Flattened origin v form := by
  unfold nodeForm at h
  split at h
  · cases h
    exact .notObject
  · next object =>
    unfold objectForm at h
    split at h
    · cases h
      exact .flat object
    · next nested =>
      obtain ⟨entries, read, h⟩ := bind_eq_ok.mp h
      split at h
      · cases h
        exact .badPairs _
      · cases h
        exact .nested object nested read

/-- Each field of a node is what is read from its flat form. -/
structure NodeRead (path : Path) (o : Json.Object) (n : Node) : Prop where
  id : requiredText path o "id" = .ok n.id
  kind : readKind path o = .ok n.kind
  subtype : optionalText path o "subtype" = .ok n.subtype
  config : (o.at "config").members = n.config
  label : optionalText path o "label" = .ok n.label

theorem readNode_eq_ok {index : Nat} {form : NodeForm} {n : Node} :
    readNode index form = .ok n ↔
      ∃ o, form = .fields o [] ∧ NodeRead ["nodes", toString index] o n := by
  constructor
  · intro h
    cases form with
    | notObject => cases h
    | badPairs entry => cases h
    | fields o badKeys =>
        obtain ⟨⟨id, kind, subtype, config, label⟩, parts, rfl⟩ := map_eq_ok.mp h
        simp only [Checked.and_eq_ok] at parts
        obtain ⟨hid, hkind, hsubtype, hconfig, hlabel⟩ := parts
        unfold readConfig at hconfig
        split at hconfig
        next empty =>
          obtain rfl := List.isEmpty_iff.mp empty
          exact ⟨o, rfl, hid, hkind, hsubtype, Except.ok.inj hconfig, hlabel⟩
        next => cases hconfig
  · rintro ⟨o, rfl, read⟩
    refine map_eq_ok.mpr ⟨(n.id, n.kind, n.subtype, n.config, n.label), ?_, rfl⟩
    simp only [Checked.and_eq_ok]
    exact ⟨read.id, read.kind, read.subtype, congrArg Except.ok read.config, read.label⟩

/-- Each field of a connection is what is read from its own fields. -/
structure ConnectionRead (path : Path) (o : Json.Object) (c : Connection) : Prop where
  id : (if (o.at "id").isSet then (o.at "id").display else defaultConnectionId o) = c.id
  source : requiredText path o "source" = .ok c.source
  target : requiredText path o "target" = .ok c.target
  kind : connectionKind o = c.kind

theorem readConnection_eq_ok {key : String} {index : Nat} {v : Json} {c : Connection} :
    readConnection key index v = .ok c ↔
      ∃ o, v.asObject? = some o ∧ ConnectionRead [key, toString index] o c := by
  unfold readConnection
  constructor
  · intro h
    simp only at h
    split at h
    next => cases h
    next o object =>
      obtain ⟨⟨source, target⟩, read, rfl⟩ := map_eq_ok.mp h
      obtain ⟨hsource, htarget⟩ := Checked.and_eq_ok.mp read
      exact ⟨o, object, by dsimp only, hsource, htarget, by dsimp only⟩
  · rintro ⟨o, object, read⟩
    simp only [object]
    refine map_eq_ok.mpr ⟨(c.source, c.target), ?_, ?_⟩
    · exact Checked.and_eq_ok.mpr ⟨read.source, read.target⟩
    · rw [read.id, read.kind]

theorem get?_of_mem_readItems {o : Json.Object} {key : String} {vs : List Json}
    (h : readItems o key = .ok vs) {v : Json} (hv : v ∈ vs) :
    Members.get? o key = some (.arr vs) := by
  unfold readItems at h
  split at h
  next =>
    cases h
    cases hv
  next found =>
    cases h
    exact found
  next => cases h

/-- Every node is read from the flat form of an item of the list. -/
theorem exists_of_mem_readNodes {o : Json.Object} {forms : Checked (List NodeForm)}
    {nodes : List Node} (hforms : nodeForms origin o = .ok forms)
    (h : readNodes forms = .ok nodes) {n : Node} (hn : n ∈ nodes) :
    ∃ vs, Members.get? o "nodes" = some (.arr vs) ∧ ∃ v ∈ vs, ∃ form index,
      Flattened origin v form ∧ readNode index form = .ok n := by
  unfold nodeForms at hforms
  split at hforms
  next vs items =>
    obtain ⟨list, read, rfl⟩ := map_eq_ok.mp hforms
    obtain ⟨⟨form, i⟩, mem, node⟩ := List.mem_map.mp (Checked.mem_of_all_eq_ok h n hn)
    obtain ⟨v, hv, eq⟩ := exists_of_mem_mapM read form (List.fst_mem_of_mem_zipIdx mem)
    exact ⟨vs, get?_of_mem_readItems items hv, v, hv, form, i, flattened_of_nodeForm eq, node⟩
  next =>
    cases hforms
    cases h

theorem exists_of_mem_readConnections {o : Json.Object} {connections : List Connection}
    (h : readConnections o = .ok connections) {c : Connection} (hc : c ∈ connections) :
    ∃ key vs, Members.get? o key = some (.arr vs) ∧ ∃ v ∈ vs, ∃ index,
      readConnection key index v = .ok c := by
  obtain ⟨vs, items, all⟩ := bind_eq_ok.mp h
  obtain ⟨⟨v, i⟩, mem, read⟩ := List.mem_map.mp (Checked.mem_of_all_eq_ok all c hc)
  have hv := List.fst_mem_of_mem_zipIdx mem
  exact ⟨_, vs, get?_of_mem_readItems items hv, v, hv, i, read⟩

/-- Each field of a graph is what is read from the field of the payload. -/
structure FieldsRead (o : Json.Object) (forms : Checked (List NodeForm)) (g : Graph) : Prop where
  name : readText o "name" defaultName = .ok g.name
  description : readText o "description" "" = .ok g.description
  version : readVersion o "version" defaultVersion = .ok g.version
  schemaVersion : readVersion o "schemaVersion" currentSchema = .ok g.schemaVersion
  nodes : readNodes forms = .ok g.nodes
  connections : readConnections o = .ok g.connections
  mode : SelectionMode.read (o.at "selectionMode") .automatic = g.mode
  gating : (o.at "gating").members = g.gating

theorem readFields_eq_ok {o : Json.Object} {forms : Checked (List NodeForm)} {g : Graph} :
    readFields o forms = .ok g ↔ FieldsRead o forms g := by
  constructor
  · intro h
    obtain ⟨p, h, eq⟩ := map_eq_ok.mp h
    obtain ⟨name, h⟩ := Checked.and_eq_ok.mp h
    obtain ⟨description, h⟩ := Checked.and_eq_ok.mp h
    obtain ⟨version, h⟩ := Checked.and_eq_ok.mp h
    obtain ⟨schemaVersion, h⟩ := Checked.and_eq_ok.mp h
    obtain ⟨nodes, connections⟩ := Checked.and_eq_ok.mp h
    have mode := congrArg Graph.mode eq
    have gating := congrArg Graph.gating eq
    simp only at mode gating
    subst eq
    exact ⟨name, description, version, schemaVersion, nodes, connections, mode, gating⟩
  · intro h
    refine map_eq_ok.mpr
      ⟨(g.name, g.description, g.version, g.schemaVersion, g.nodes, g.connections), ?_, ?_⟩
    · simp only [Checked.and_eq_ok]
      exact ⟨h.name, h.description, h.version, h.schemaVersion, h.nodes, h.connections⟩
    · rw [h.mode, h.gating]

/-! ## Fields on two levels -/

/-- The value under a key of a graph inside a payload; of equal keys the last one counts. -/
def nested? (o : Json.Object) (key : String) : Option Json :=
  (o.at "graph").asObject?.bind fun inner => Members.get? inner.reverse key

theorem nested?_of_flat {o : Json.Object} (flat : (o.at "graph").asObject? = none) (key : String) :
    nested? o key = none := by
  rw [nested?, flat, Option.bind_none]

theorem unnest_of_flat {o : Json.Object} (flat : (o.at "graph").asObject? = none) :
    unnest o = o := by
  rw [unnest, flat]

/-- Fields of a graph inside a payload win. -/
theorem get?_unnest (o : Json.Object) {key : String} (ne : key ≠ "graph") :
    Members.get? (unnest o) key = (nested? o key).or (Members.get? o key) := by
  unfold unnest nested?
  cases (o.at "graph").asObject? with
  | none => rfl
  | some inner =>
      rw [Members.get?_overlay, Members.get?_erase, if_neg (Ne.symm ne), Option.bind_some]

end Schema

namespace Graph

theorem check_eq_ok {g g' : Graph} : g.check = .ok g' ↔ g.issues = [] ∧ g = g' := by
  rw [check]
  split
  · next empty => simp [List.isEmpty_iff.mp empty]
  · next issues => simp [mt List.isEmpty_iff.mpr issues]

theorem readUnchecked_eq_ok {origin : Pairs.Origin} {o : Json.Object} {g : Graph} :
    readUnchecked origin (.obj o) = .ok g ↔ ∃ forms,
      Schema.nodeForms origin (Schema.unnest o) = .ok forms ∧
        Schema.FieldsRead (Schema.unnest o) forms g := by
  simp only [readUnchecked, Json.asObject?, ofObject, bind_eq_ok]
  constructor
  · rintro ⟨_, ⟨forms, hforms, h⟩, h'⟩
    refine ⟨forms, hforms, Schema.readFields_eq_ok.mp ?_⟩
    cases h
    split at h'
    · next eq => cases h'; exact eq
    · cases h'
  · rintro ⟨forms, hforms, fields⟩
    refine ⟨_, ⟨forms, hforms, rfl⟩, ?_⟩
    rw [Schema.readFields_eq_ok.mpr fields]
    rfl

/-- A graph is read if its fields are and nothing is wrong with its structure. -/
theorem readFrom_eq_ok {origin : Pairs.Origin} {o : Json.Object} {g : Graph} :
    readFrom origin (.obj o) = .ok g ↔ (∃ forms,
      Schema.nodeForms origin (Schema.unnest o) = .ok forms ∧
        Schema.FieldsRead (Schema.unnest o) forms g) ∧ g.issues = [] := by
  rw [readFrom, bind_eq_ok, ← readUnchecked_eq_ok]
  constructor
  · rintro ⟨g', read, checked⟩
    obtain ⟨valid, rfl⟩ := check_eq_ok.mp checked
    exact ⟨read, valid⟩
  · rintro ⟨read, valid⟩
    exact ⟨g, read, check_eq_ok.mpr ⟨valid, rfl⟩⟩

end Graph
end RouletteStrategy
