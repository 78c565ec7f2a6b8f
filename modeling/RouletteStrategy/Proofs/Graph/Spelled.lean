import RouletteStrategy.Proofs.Graph.Reading
import RouletteStrategy.Proofs.Json.Spelled

/-!
# Graphs whose texts spell code points

Ids, labels and configurations are parts of the payload or what values in it are displayed as, so
they spell code points if its texts do (`Graph.spelled_body`).
-/

namespace RouletteStrategy

namespace Pairs

variable {origin : Origin} {es : Entries} {key v : Json}

/-- Keys and values whose texts spell code points. -/
def Spelled (es : Entries) : Prop := ∀ e ∈ es, e.1.Spelled ∧ e.2.Spelled

namespace Spelled

theorem nil : Spelled [] := fun _ h => absurd h List.not_mem_nil

theorem append {es' : Entries} (h : Spelled es) (h' : Spelled es') : Spelled (es ++ es') :=
  fun e he => (List.mem_append.mp he).elim (h e) (h' e)

theorem set (h : Spelled es) (hkey : key.Spelled) (hv : v.Spelled) :
    Spelled (set origin es key v) := by
  induction es with
  | nil => exact List.forall_mem_singleton.mpr ⟨hkey, hv⟩
  | cons e es ih =>
      obtain ⟨first, rest⟩ := List.forall_mem_cons.mp h
      rw [Pairs.set]
      split
      · exact List.forall_mem_cons.mpr ⟨⟨first.1, hv⟩, rest⟩
      · exact List.forall_mem_cons.mpr ⟨first, ih rest⟩

end Spelled

theorem spelled_singles (s : String) : ∀ x ∈ singles s, x.Spelled := by
  refine List.forall_mem_map.mpr fun n hn => .str ?_
  rw [Text.ofPoints, String.toList_ofList]
  exact Text.spelled_spelling (List.forall_mem_singleton.mpr (Text.isValidChar_or_isHalf hn))

theorem spelled_entryItems (hv : v.Spelled) {items : List Json} (h : entryItems v = .ok items) :
    ∀ x ∈ items, x.Spelled := by
  cases hv with
  | str =>
      cases h
      exact spelled_singles _
  | arr parts =>
      cases h
      exact parts
  | obj keys members =>
      cases h
      exact List.forall_mem_map.mpr fun kv hkv => .str (keys kv hkv)
  | _ => cases h

theorem inherited_spelled : Inherited origin Json.Spelled Spelled where
  nil := .nil
  set h hkey hv := h.set hkey hv
  items hv h := spelled_entryItems hv h
  members h := List.forall_mem_map.mpr fun kv hkv =>
    ⟨.str (Json.spelled_obj_iff.mp h kv hkv).1, (Json.spelled_obj_iff.mp h kv hkv).2⟩

theorem Spelled.textMembers (h : Spelled es) : Json.Object.Spelled (textMembers es) := by
  intro kv hkv
  obtain ⟨⟨key, v⟩, he, eq⟩ := List.mem_filterMap.mp hkv
  obtain ⟨s, text, rfl⟩ := Option.map_eq_some_iff.mp eq
  obtain ⟨hkey, hv⟩ := h _ he
  cases hkey with
  | str hs =>
      cases text
      exact ⟨hs, hv⟩
  | _ => cases text

end Pairs

/-! ## Nodes and connections -/

/-- A node whose texts spell code points. -/
structure Node.Spelled (n : Node) : Prop where
  id : Text.Spelled n.id.toList
  subtype : (Json.ofOption .str n.subtype).Spelled
  config : Json.Object.Spelled n.config
  label : (Json.ofOption .str n.label).Spelled

/-- A connection whose texts spell code points. -/
structure Connection.Spelled (c : Connection) : Prop where
  id : Text.Spelled c.id.toList
  source : Text.Spelled c.source.toList
  target : Text.Spelled c.target.toList

theorem Node.Spelled.toJson {n : Node} (h : n.Spelled) : n.toJson.Spelled := by
  have kind : Text.Spelled n.kind.name.toList := by
    apply Text.spelled_of_notMem
    cases n.kind <;> decide
  refine Json.spelled_obj_of_keys
    (show ∀ key ∈ ["id", "type", "subtype", "config", "label"], Text.mark ∉ key.toList by decide) ?_
  simp only [List.forall_mem_cons]
  exact ⟨.str h.id, .str kind, h.subtype, Json.spelled_obj_iff.mpr h.config.written, h.label,
    by simp⟩

theorem Connection.Spelled.toJson {c : Connection} (h : c.Spelled) : c.toJson.Spelled := by
  have kind : Text.Spelled c.kind.name.toList := by
    apply Text.spelled_of_notMem
    cases c.kind <;> decide
  refine Json.spelled_obj_of_keys
    (show ∀ key ∈ ["id", "source", "target", "kind"], Text.mark ∉ key.toList by decide) ?_
  simp only [List.forall_mem_cons]
  exact ⟨.str h.id, .str h.source, .str h.target, .str kind, by simp⟩

namespace Schema

variable {origin : Pairs.Origin} {o data : Json.Object} {v : Json}

theorem spelled_liftSettings (hdata : data.Spelled) {es : Pairs.Entries} (h : Pairs.Spelled es) :
    Pairs.Spelled (liftSettings data es) := by
  have unmarked : ∀ key ∈ liftedKeys, Text.mark ∉ key.toList := by decide
  refine liftSettings_induction h fun h lifted found _ => ?_
  have name := Json.Spelled.str (Text.spelled_of_notMem (unmarked _ lifted))
  exact h.append (List.forall_mem_singleton.mpr ⟨name, hdata.get found⟩)

/-- Fields whose texts spell code points. -/
def NodeForm.Spelled : NodeForm → Prop
  | .fields o _ => o.Spelled
  | _ => True

theorem spelled_setDefault (ho : o.Spelled) (key : String) (hkey : Text.mark ∉ key.toList)
    (hv : v.Spelled) : Json.Object.Spelled (Members.setDefault o key v) := by
  unfold Members.setDefault
  split
  · exact ho
  · exact ho.set (Text.spelled_of_notMem hkey) hv

theorem spelled_flatten (ho : o.Spelled) (hdata : data.Spelled) {es : Pairs.Entries}
    (h : Pairs.Spelled es) : (flatten o data es).Spelled := by
  have entries := Json.spelled_obj_iff.mpr (spelled_liftSettings hdata h).textMembers
  have config := spelled_setDefault ho "config" (by decide) entries
  have label := spelled_setDefault config "label" (by decide) (hdata.valueAt "label")
  have subtype := (hdata.valueAt "conditionType").orElse (hdata.valueAt "subtype")
  unfold flatten NodeForm.Spelled
  dsimp only
  split
  · exact label
  · exact label.set (Text.spelled_of_notMem (by decide)) subtype

theorem Flattened.spelled {form : NodeForm} (h : Flattened origin v form) (hv : v.Spelled) :
    form.Spelled := by
  cases h with
  | notObject => trivial
  | flat object => exact hv.asObject object
  | badPairs entry => trivial
  | nested object nested read =>
      have ho := hv.asObject object
      have hdata := (ho.valueAt "data").asObject nested
      exact spelled_flatten ho hdata (Pairs.inherited_spelled.read (hdata.valueAt "config") read)

theorem spelled_requiredText {path : Path} {key s : String} (ho : o.Spelled)
    (h : requiredText path o key = .ok s) : Text.Spelled s.toList := by
  unfold requiredText at h
  split at h
  · cases h
  · cases h
  · next found =>
    cases h
    exact Json.spelled_display (ho.get found)

theorem spelled_optionalText {path : Path} {key : String} {s : Option String} (ho : o.Spelled)
    (h : optionalText path o key = .ok s) : (Json.ofOption .str s).Spelled := by
  have value := ho.valueAt key
  unfold optionalText at h
  split at h
  · cases h
    exact .null
  · next text =>
    cases h
    rw [text] at value
    exact value
  · cases h

theorem spelled_readNode {index : Nat} {form : NodeForm} {n : Node} (hform : form.Spelled)
    (h : readNode index form = .ok n) : n.Spelled := by
  obtain ⟨o, rfl, read⟩ := readNode_eq_ok.mp h
  have config := (hform.valueAt "config").members
  rw [read.config] at config
  exact ⟨spelled_requiredText hform read.id, spelled_optionalText hform read.subtype, config,
    spelled_optionalText hform read.label⟩

theorem spelled_readNodes (ho : o.Spelled) {forms : Checked (List NodeForm)} {nodes : List Node}
    (hforms : nodeForms origin o = .ok forms) (h : readNodes forms = .ok nodes) :
    ∀ n ∈ nodes, n.Spelled := by
  intro n hn
  obtain ⟨vs, found, v, hv, form, index, flattened, read⟩ := exists_of_mem_readNodes hforms h hn
  cases ho.get found with
  | arr items => exact spelled_readNode (flattened.spelled (items v hv)) read

theorem spelled_defaultConnectionId (ho : o.Spelled) :
    Text.Spelled (defaultConnectionId o).toList := by
  have arrow : Text.Spelled "->".toList := Text.spelled_of_notMem (by decide)
  have source := Json.spelled_display (ho.valueAt "source")
  have target := Json.spelled_display (ho.valueAt "target")
  rw [defaultConnectionId, String.toList_append, String.toList_append]
  exact (source.append arrow).append target

theorem spelled_readConnection {key : String} {index : Nat} {c : Connection} (hv : v.Spelled)
    (h : readConnection key index v = .ok c) : c.Spelled := by
  obtain ⟨o, object, read⟩ := readConnection_eq_ok.mp h
  have ho := hv.asObject object
  refine ⟨?_, spelled_requiredText ho read.source, spelled_requiredText ho read.target⟩
  rw [← read.id]
  split
  · exact Json.spelled_display (ho.valueAt "id")
  · exact spelled_defaultConnectionId ho

theorem spelled_readConnections (ho : o.Spelled) {connections : List Connection}
    (h : readConnections o = .ok connections) : ∀ c ∈ connections, c.Spelled := by
  intro c hc
  obtain ⟨key, vs, found, v, hv, index, read⟩ := exists_of_mem_readConnections h hc
  cases ho.get found with
  | arr items => exact spelled_readConnection (items v hv) read

theorem spelled_unnest (ho : o.Spelled) : Json.Object.Spelled (unnest o) := by
  unfold unnest
  split
  · next nested => exact (ho.erase "graph").overlay ((ho.valueAt "graph").asObject nested)
  · exact ho

end Schema

namespace Graph

variable {origin : Pairs.Origin} {o : Json.Object} {g : Graph}

/-- Nodes and connections of a graph that was read are written with texts of the payload. -/
theorem spelled_body (ho : o.Spelled) (h : readFrom origin (.obj o) = .ok g) :
    (Json.obj g.body).Spelled := by
  obtain ⟨⟨forms, hforms, fields⟩, -⟩ := readFrom_eq_ok.mp h
  have source := Schema.spelled_unnest ho
  have nodes := Schema.spelled_readNodes source hforms fields.nodes
  have connections := Schema.spelled_readConnections source fields.connections
  refine Json.spelled_obj_of_keys
    (show ∀ key ∈ ["nodes", "connections"], Text.mark ∉ key.toList by decide) ?_
  simp only [body, List.forall_mem_cons]
  exact ⟨.arr (List.forall_mem_map.mpr fun n hn => (nodes n hn).toJson),
    .arr (List.forall_mem_map.mpr fun c hc => (connections c hc).toJson), by simp⟩

end Graph
end RouletteStrategy
