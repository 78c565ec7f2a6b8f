import RouletteStrategy.Proofs.Graph.Configurations
import RouletteStrategy.Proofs.Json.KeyOrder

/-!
# Graphs read from fields in another order

Reading a graph takes fields by their keys, so it goes the same way for reordered payloads
(`Graph.parallel_readFrom`). Only where a list or an object would be written out as a text, or a
list of pairs stands for a configuration, does the order of keys show.
-/

namespace RouletteStrategy

open Json (Scalar)

/-! ## Checked values -/

namespace Checked

variable {α β γ δ : Type} {R : α → β → Prop} {S : γ → δ → Prop}

theorem parallel_and {a : Checked α} {b : Checked β} {c : Checked γ} {d : Checked δ}
    (h : Parallel R a b) (h' : Parallel S c d) :
    Parallel (fun p q => R p.1 q.1 ∧ S p.2 q.2) (and a c) (and b d) := by
  cases h with
  | error e => cases h' with
    | error e' => exact .error (e ++ e')
    | ok _ => exact .error e
  | ok first => cases h' with
    | error e' => exact .error e'
    | ok second => exact .ok ⟨first, second⟩

theorem parallel_all {f : α × Nat → Checked γ} {g : β × Nat → Checked δ} {xs : List α}
    {ys : List β} (h : List.Forall₂ R xs ys)
    (each : ∀ {a b}, R a b → ∀ i, Parallel S (f (a, i)) (g (b, i))) (i : Nat) :
    Parallel (List.Forall₂ S) (all ((xs.zipIdx i).map f)) (all ((ys.zipIdx i).map g)) := by
  induction h generalizing i with
  | nil => exact .ok .nil
  | cons first _ ih =>
      rw [List.zipIdx_cons, List.zipIdx_cons, List.map_cons, List.map_cons, all, all]
      exact (parallel_and (each first i) (ih (i + 1))).map fun h => .cons h.1 h.2

end Checked

/-! ## Configurations -/

namespace Pairs

variable {origin : Origin} {es es' : Entries} {v w : Json}

/-- Entries that give reordered values under text keys and have the same other keys. -/
structure Reordered (es es' : Entries) : Prop where
  texts : Json.Object.Reordered (textMembers es) (textMembers es')
  others : otherKeys es = otherKeys es'

theorem Proper.reordered (h : Proper es) : Reordered es es :=
  ⟨(h.textMembers.distinct.reordered rfl).members, rfl⟩

theorem otherKeys_ofMembers (ms : Json.Object) :
    otherKeys (ms.map fun kv => (.str kv.1, kv.2)) = [] := by
  simp [otherKeys, Json.asString?]

theorem read_obj (origin : Origin) (ms : Json.Object) :
    read origin (.obj ms) = .ok (.ok (ms.map fun kv => (.str kv.1, kv.2))) := by
  cases ms <;> rfl

/-- The entries of a scalar are those of a text. -/
theorem proper_of_read (scalar : Scalar v) (h : read origin v = .ok (.ok es)) : Proper es := by
  cases v with
  | str s => exact inherited_proper.read (.str s) h
  | arr xs => cases scalar
  | obj ms => cases scalar
  | _ =>
      unfold read at h
      split at h
      · cases h
        exact .nil
      · cases h

theorem parallel_read (h : v.Reordered w) (plain : ∀ x xs, v ≠ .arr (x :: xs)) :
    Parallel (Parallel Reordered) (read origin v) (read origin w) := by
  cases h with
  | scalar scalar =>
      cases result : read origin v with
      | error e => exact .error e
      | ok checked => cases checked with
        | error entry => exact .ok (.error entry)
        | ok es => exact .ok (.ok (proper_of_read scalar result).reordered)
  | arr items => cases items with
    | nil => exact .ok (.ok Proper.nil.reordered)
    | cons _ _ => exact absurd rfl (plain _ _)
  | @obj ms ns distinct distinct' members =>
      rw [read_obj, read_obj]
      refine .ok (.ok ⟨?_, ?_⟩)
      · rw [textMembers_ofMembers, textMembers_ofMembers]
        exact ⟨distinct, distinct', members⟩
      · rw [otherKeys_ofMembers, otherKeys_ofMembers]

theorem Reordered.any_eq (h : Reordered es es') (key : String) :
    (es.any fun e => e.1.asString? == some key) = es'.any fun e => e.1.asString? == some key := by
  rw [any_text_eq, any_text_eq, h.texts.has_eq]

theorem Reordered.append (h : Reordered es es') {key : String} (hv : v.Reordered w)
    (new : ¬es.any fun e => e.1.asString? == some key) :
    Reordered (es ++ [(.str key, v)]) (es' ++ [(.str key, w)]) := by
  have others : ∀ (es : Entries) (v : Json),
      otherKeys (es ++ [(.str key, v)]) = otherKeys es := by
    intro es v
    simp [otherKeys, Json.asString?]
  refine ⟨?_, by rw [others, others, h.others]⟩
  rw [textMembers_append new, textMembers_append (h.any_eq key ▸ new)]
  exact h.texts.set key hv

end Pairs

/-! ## Nodes -/

/-- Nodes that differ in the order of keys within their configurations only. -/
structure Node.Reordered (n n' : Node) : Prop where
  id : n.id = n'.id
  kind : n.kind = n'.kind
  subtype : n.subtype = n'.subtype
  config : n.config.Reordered n'.config
  label : n.label = n'.label

namespace Schema

variable {origin : Pairs.Origin} {o o' data data' : Json.Object} {v w : Json}

/-- A node whose id is no list or object, and whose configuration under `data` is no list of
pairs. -/
structure PlainNode (v : Json) : Prop where
  id : Scalar (v.members.at "id")
  config : ∀ x xs, (v.members.at "data").members.at "config" ≠ .arr (x :: xs)

/-- A connection whose texts are no lists or objects. -/
structure PlainConnection (v : Json) : Prop where
  texts : ∀ key ∈ ["id", "source", "target", "type", "kind"], Scalar (v.members.at key)

/-- Flat forms with reordered fields. -/
inductive NodeForm.Reordered : NodeForm → NodeForm → Prop where
  | notObject : Reordered .notObject .notObject
  | badPairs (entry : Pairs.BadEntry) : Reordered (.badPairs entry) (.badPairs entry)
  | fields {o o' : Json.Object} (h : o.Reordered o') (id : Scalar (o.at "id"))
    (badKeys : List String) : Reordered (.fields o badKeys) (.fields o' badKeys)

theorem reordered_liftSettings (hdata : data.Reordered data') {es es' : Pairs.Entries}
    (h : Pairs.Reordered es es') :
    Pairs.Reordered (liftSettings data es) (liftSettings data' es') := by
  unfold liftSettings
  generalize liftedKeys = keys
  induction keys generalizing es es' with
  | nil => exact h
  | cons key keys ih =>
      refine ih ?_
      dsimp only
      have setting := hdata.members key
      generalize Members.get? data key = a at setting ⊢
      generalize Members.get? data' key = b at setting ⊢
      cases setting with
      | none => exact h
      | some related =>
          dsimp only
          rw [← h.any_eq]
          split
          · exact h
          · next new => exact h.append related new

theorem reordered_flatten (ho : o.Reordered o') (hdata : data.Reordered data')
    {es es' : Pairs.Entries} (h : Pairs.Reordered es es') (id : Scalar (o.at "id")) :
    (flatten o data es).Reordered (flatten o' data' es') := by
  have entries := reordered_liftSettings hdata h
  have config := ho.setDefault "config" entries.texts.value
  have label := config.setDefault "label" (hdata.valueAt "label")
  have subtype := (hdata.valueAt "conditionType").orElse (hdata.valueAt "subtype")
  unfold flatten
  dsimp only
  rw [ho.has_eq, entries.others, (label.valueAt "subtype").isSet_eq]
  split
  · refine .fields label ?_ _
    simpa [Json.Object.at, Members.get?_setDefault] using id
  · refine .fields (label.set "subtype" subtype) ?_ _
    simpa [Json.Object.at, Members.get?_setDefault, Members.get?_set] using id

theorem parallel_objectForm (ho : o.Reordered o') (plain : PlainNode (.obj o)) :
    Parallel NodeForm.Reordered (objectForm origin o) (objectForm origin o') := by
  have nested := (ho.valueAt "data").asObject?
  unfold objectForm
  generalize (o'.at "data").asObject? = other at nested ⊢
  cases found : (o.at "data").asObject? with
  | none =>
      rw [found] at nested
      cases nested
      exact .ok (.fields ho plain.id [])
  | some data =>
      rw [found] at nested
      cases nested with
      | some hdata =>
          have config := plain.config
          rw [Json.members, Json.eq_obj_of_asObject? found, Json.members] at config
          refine (Pairs.parallel_read (hdata.valueAt "config") config).bind fun entries => ?_
          cases entries with
          | error entry => exact .ok (.badPairs entry)
          | ok entries => exact .ok (reordered_flatten ho hdata entries plain.id)

theorem parallel_nodeForm (h : v.Reordered w) (plain : PlainNode v) :
    Parallel NodeForm.Reordered (nodeForm origin v) (nodeForm origin w) := by
  cases h with
  | scalar scalar =>
      cases v with
      | arr xs => cases scalar
      | obj ms => cases scalar
      | _ => exact .ok .notObject
  | arr items => exact .ok .notObject
  | obj distinct distinct' members =>
      exact parallel_objectForm ⟨distinct, distinct', members⟩ plain

/-! ## Fields -/

theorem requiredText_eq (h : o.Reordered o') {key : String} (scalar : Scalar (o.at key))
    (path : Path) : requiredText path o key = requiredText path o' key := by
  rw [requiredText, requiredText, h.get?_eq scalar]

theorem optionalText_eq (h : o.Reordered o') (path : Path) (key : String) :
    optionalText path o key = optionalText path o' key := by
  unfold optionalText Json.Object.at
  refine h.lookup_cases key rfl (fun _ _ => rfl) ?_ ?_ <;> exact fun _ _ _ => rfl

theorem readKind_eq (h : o.Reordered o') (path : Path) : readKind path o = readKind path o' := by
  unfold readKind
  refine h.lookup_cases "type" rfl (fun _ _ => rfl) ?_ ?_ <;> exact fun _ _ _ => rfl

theorem readText_eq (h : o.Reordered o') (key default : String) :
    readText o key default = readText o' key default := by
  unfold readText
  refine h.lookup_cases key rfl (fun _ _ => rfl) ?_ ?_ <;> exact fun _ _ _ => rfl

theorem readVersion_eq (h : o.Reordered o') (key default : String) :
    readVersion o key default = readVersion o' key default := by
  unfold readVersion
  refine h.lookup_cases key rfl (fun _ _ => rfl) ?_ ?_ <;> exact fun _ _ _ => rfl

/-- The items of a list come in the same order, with what is known of them. -/
theorem parallel_readItems {P : Json → Prop} (h : o.Reordered o') {key : String}
    (items : ∀ vs, Members.get? o key = some (.arr vs) → ∀ v ∈ vs, P v) :
    Parallel (List.Forall₂ fun v w => P v ∧ v.Reordered w) (readItems o key)
      (readItems o' key) := by
  unfold readItems
  revert items
  refine h.lookup_cases key (fun _ => .ok .nil) ?_ ?_ fun _ _ _ _ => .error _
  · intro v scalar _
    cases v with
    | arr xs => cases scalar
    | _ => exact .error _
  · intro xs ys related items
    exact .ok ((List.forall₂_and_left xs ys).mpr ⟨items xs rfl, related⟩)

theorem parallel_readNode {form form' : NodeForm} (h : form.Reordered form') (index : Nat) :
    Parallel Node.Reordered (readNode index form) (readNode index form') := by
  cases h with
  | notObject => exact .error _
  | badPairs entry => exact .error _
  | @fields o o' h id badKeys =>
      have config : Parallel Json.Object.Reordered
          (readConfig ["nodes", toString index] o badKeys)
          (readConfig ["nodes", toString index] o' badKeys) := by
        unfold readConfig
        split
        · exact .ok (h.valueAt "config").members
        · exact .error _
      refine (Checked.parallel_and (.of_eq (requiredText_eq h id _))
        (Checked.parallel_and (.of_eq (readKind_eq h _))
          (Checked.parallel_and (.of_eq (optionalText_eq h _ "subtype"))
            (Checked.parallel_and config (.of_eq (optionalText_eq h _ "label")))))).map ?_
      rintro ⟨_, _, _, _, _⟩ ⟨_, _, _, _, _⟩ ⟨id, kind, subtype, config, label⟩
      exact ⟨id, kind, subtype, config, label⟩

theorem parallel_readNodes {forms forms' : Checked (List NodeForm)}
    (h : Parallel (List.Forall₂ NodeForm.Reordered) forms forms') :
    Parallel (List.Forall₂ Node.Reordered) (readNodes forms) (readNodes forms') :=
  h.bind fun items => Checked.parallel_all items parallel_readNode 0

theorem readConnection_eq (h : v.Reordered w) (plain : PlainConnection v) (key : String)
    (index : Nat) : readConnection key index v = readConnection key index w := by
  cases h with
  | scalar _ => rfl
  | arr _ => rfl
  | @obj o o' distinct distinct' members =>
      have ho : o.Reordered o' := ⟨distinct, distinct', members⟩
      have texts := plain.texts
      simp only [List.forall_mem_cons, Json.members] at texts
      obtain ⟨id, source, target, type, kind, -⟩ := texts
      have hid := ho.at_eq id
      have hsource := ho.at_eq source
      have htarget := ho.at_eq target
      have htype := ho.get?_eq type
      have hkind := ho.at_eq kind
      simp only [readConnection, Json.asObject?, requiredText_eq ho source,
        requiredText_eq ho target, connectionKind, defaultConnectionId, hid, hsource, htarget,
        htype, hkind]

/-- Fields of a graph with plain nodes and connections. -/
structure Plain (o : Json.Object) : Prop where
  nodes : ∀ vs, Members.get? o "nodes" = some (.arr vs) → ∀ v ∈ vs, PlainNode v
  connections : ∀ vs, Members.get? o (connectionsKey o) = some (.arr vs) →
    ∀ v ∈ vs, PlainConnection v

theorem parallel_nodeForms (h : o.Reordered o') (plain : Plain o) :
    Parallel (Parallel (List.Forall₂ NodeForm.Reordered)) (nodeForms origin o)
      (nodeForms origin o') := by
  have items := parallel_readItems h plain.nodes
  unfold nodeForms
  generalize readItems o "nodes" = a at items ⊢
  generalize readItems o' "nodes" = b at items ⊢
  cases items with
  | error issues => exact .ok (.error issues)
  | ok items => exact (Parallel.mapM items fun h => parallel_nodeForm h.2 h.1).map .ok

theorem readConnections_eq (h : o.Reordered o') (plain : Plain o) :
    readConnections o = readConnections o' := by
  have key : connectionsKey o = connectionsKey o' := by
    rw [connectionsKey, connectionsKey, h.has_eq]
  have read : Parallel (List.Forall₂ Eq) (readConnections o) (readConnections o') := by
    unfold readConnections
    dsimp only
    rw [← key]
    exact (parallel_readItems h plain.connections).bind fun items =>
      Checked.parallel_all items (fun h i => .of_eq (readConnection_eq h.2 h.1 _ i)) 0
  rw [List.forall₂_eq_eq_eq] at read
  exact read.eq

theorem reordered_unnest (h : o.Reordered o') : (unnest o).Reordered (unnest o') := by
  have nested := (h.valueAt "graph").asObject?
  unfold unnest
  generalize (o.at "graph").asObject? = a at nested ⊢
  generalize (o'.at "graph").asObject? = b at nested ⊢
  cases nested with
  | none => exact h
  | some inner => exact (h.erase "graph").overlay inner

end Schema

/-! ## Graphs -/

namespace Graph

/-- Graphs with the same connections and reordered nodes. -/
structure Reordered (g g' : Graph) : Prop where
  nodes : List.Forall₂ Node.Reordered g.nodes g'.nodes
  connections : g.connections = g'.connections

variable {origin : Pairs.Origin} {o o' : Json.Object} {g g' : Graph}

theorem Reordered.issues_eq (h : g.Reordered g') : g.issues = g'.issues := by
  have ids : List.Forall₂ (· = ·) g.nodeIds g'.nodeIds := by
    unfold nodeIds
    rw [List.forall₂_map_left_iff, List.forall₂_map_right_iff]
    exact h.nodes.imp fun _ _ node => node.id
  rw [List.forall₂_eq_eq_eq] at ids
  rw [issues, issues, ids, h.connections]

theorem parallel_check (h : g.Reordered g') : Parallel Reordered g.check g'.check := by
  rw [check, check, h.issues_eq]
  split
  · exact .ok h
  · exact .error _

theorem parallel_readFields (h : o.Reordered o') (plain : Schema.Plain o)
    {forms forms' : Checked (List Schema.NodeForm)}
    (nodes : Parallel (List.Forall₂ Schema.NodeForm.Reordered) forms forms') :
    Parallel Reordered (Schema.readFields o forms) (Schema.readFields o' forms') := by
  refine (Checked.parallel_and (.of_eq (Schema.readText_eq h "name" _))
    (Checked.parallel_and (.of_eq (Schema.readText_eq h "description" _))
      (Checked.parallel_and (.of_eq (Schema.readVersion_eq h "version" _))
        (Checked.parallel_and (.of_eq (Schema.readVersion_eq h "schemaVersion" _))
          (Checked.parallel_and (Schema.parallel_readNodes nodes)
            (.of_eq (Schema.readConnections_eq h plain))))))).map ?_
  rintro ⟨_, _, _, _, _, _⟩ ⟨_, _, _, _, _, _⟩ ⟨-, -, -, -, nodes, connections⟩
  exact ⟨nodes, connections⟩

/-- Reordered fields are read as reordered graphs, or refused for the same reasons. -/
theorem parallel_readFrom (h : o.Reordered o') (plain : Schema.Plain (Schema.unnest o)) :
    Parallel Reordered (readFrom origin (.obj o)) (readFrom origin (.obj o')) := by
  have fields := Schema.reordered_unnest h
  have read : Parallel Reordered (readUnchecked origin (.obj o))
      (readUnchecked origin (.obj o')) := by
    simp only [readUnchecked, Json.asObject?, ofObject]
    refine Parallel.bind (R := Parallel Reordered) ?_ fun checked => ?_
    · exact (Schema.parallel_nodeForms fields plain).bind fun nodes =>
        .ok (parallel_readFields fields plain nodes)
    · cases checked with
      | error issues => exact .error _
      | ok h => exact .ok h
  exact read.bind parallel_check

end Graph
end RouletteStrategy
