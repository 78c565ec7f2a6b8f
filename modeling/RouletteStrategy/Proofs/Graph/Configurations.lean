import RouletteStrategy.Proofs.Graph.Values
import RouletteStrategy.Proofs.Json.Display
import RouletteStrategy.Proofs.Json.WellFormed

/-!
# Configurations of nodes that were read

A configuration is made of values of the payload under distinct keys, whether it stands in an
object, in a list of pairs or beside it (`Graph.wellFormed_config`).
-/

namespace RouletteStrategy

namespace Pairs

variable {origin : Origin} {es : Entries} {v : Json}

/-- Entries with values that a text can denote, each text key occurring once. -/
structure Proper (es : Entries) : Prop where
  values : ∀ e ∈ es, e.2.WellFormed
  distinct : (Members.keys (textMembers es)).Nodup

theorem sameKey_str (origin : Origin) (k : Json) (s : String) :
    sameKey origin k (.str s) = (k.asString? == some s) := by
  cases k with
  | float x => cases x <;> rfl
  | _ => rfl

theorem asString?_of_sameKey {k key : Json} (other : key.asString? = none)
    (h : sameKey origin k key) : k.asString? = none := by
  cases k with
  | str s =>
      cases key with
      | str t => cases other
      | float x => cases x <;> cases h
      | _ => cases h
  | _ => rfl

theorem textMembers_cons (e : Json × Json) (es : Entries) :
    textMembers (e :: es) = (e.1.asString?.map (·, e.2)).toList ++ textMembers es := by
  unfold textMembers
  cases eq : e.1.asString? <;> simp [eq]

theorem textMembers_set_str (origin : Origin) (es : Entries) (s : String) (v : Json) :
    textMembers (set origin es (.str s) v) = Members.set (textMembers es) s v := by
  induction es with
  | nil => rfl
  | cons e es ih =>
      obtain ⟨k, w⟩ := e
      rw [set, sameKey_str]
      cases k with
      | str t =>
          by_cases same : t = s
          · subst same
            simp [textMembers_cons, Json.asString?, Members.set]
          · simp [textMembers_cons, Json.asString?, Members.set, same, ih]
      | _ => simp [textMembers_cons, Json.asString?, ih]

theorem textMembers_set_other {key : Json} (other : key.asString? = none) :
    textMembers (set origin es key v) = textMembers es := by
  induction es with
  | nil => simp [set, textMembers_cons, other]
  | cons e es ih =>
      obtain ⟨k, w⟩ := e
      rw [set]
      split
      · next same => simp [textMembers_cons, asString?_of_sameKey other same]
      · rw [textMembers_cons, textMembers_cons, ih]

theorem Proper.nil : Proper [] := ⟨fun _ h => absurd h List.not_mem_nil, List.nodup_nil⟩

theorem Proper.set (h : Proper es) (key : Json) (hv : v.WellFormed) :
    Proper (set origin es key v) := by
  refine ⟨of_mem_set h.values hv, ?_⟩
  cases text : key.asString? with
  | none =>
      rw [textMembers_set_other text]
      exact h.distinct
  | some s =>
      obtain rfl : key = .str s := by
        cases key <;> cases text
        rfl
      rw [textMembers_set_str]
      exact Members.nodup_keys_set h.distinct s v

theorem textMembers_ofMembers (ms : Json.Object) :
    textMembers (ms.map fun kv => (.str kv.1, kv.2)) = ms := by
  simp [textMembers, List.filterMap_map, Json.asString?]

theorem Proper.ofObject {ms : Json.Object} (h : (Json.obj ms).WellFormed) :
    Proper (ms.map fun kv => (.str kv.1, kv.2)) := by
  cases h with
  | obj distinct members =>
      refine ⟨List.forall_mem_map.mpr members, ?_⟩
      rwa [textMembers_ofMembers]

theorem inherited_proper : Inherited origin Json.WellFormed Proper where
  nil := .nil
  set h _ hv := h.set _ hv
  items hv h := of_mem_entryItems .str Json.WellFormed.items hv h
  members := .ofObject

theorem Proper.textMembers (h : Proper es) : (Json.obj (textMembers es)).WellFormed := by
  refine .obj h.distinct fun kv hkv => ?_
  obtain ⟨e, he, eq⟩ := List.mem_filterMap.mp hkv
  obtain ⟨s, -, rfl⟩ := Option.map_eq_some_iff.mp eq
  exact h.values e he

theorem any_text_eq (es : Entries) (key : String) :
    (es.any fun e => e.1.asString? == some key) = Members.has (textMembers es) key := by
  induction es with
  | nil => rfl
  | cons e es ih =>
      rw [List.any_cons, ih, textMembers_cons, Members.has, Members.has, Members.get?_append]
      cases text : e.1.asString? with
      | none => rfl
      | some s =>
          by_cases same : s = key
          · simp [same]
          · simp [same]

/-- An entry under a text key that is not there yet is a new member. -/
theorem textMembers_append {key : String} (new : ¬es.any fun e => e.1.asString? == some key)
    (v : Json) : textMembers (es ++ [(.str key, v)]) = Members.set (textMembers es) key v := by
  have notMem : key ∉ Members.keys (textMembers es) := by
    rw [any_text_eq] at new
    rw [← Members.get?_eq_none_iff]
    simpa [Members.has] using new
  rw [Members.set_of_notMem notMem]
  simp [textMembers, Json.asString?]

theorem Proper.append (h : Proper es) {key : String} (hv : v.WellFormed)
    (new : ¬es.any fun e => e.1.asString? == some key) : Proper (es ++ [(.str key, v)]) := by
  refine ⟨List.forall_mem_append.mpr ⟨h.values, List.forall_mem_singleton.mpr hv⟩, ?_⟩
  rw [textMembers_append new]
  exact Members.nodup_keys_set h.distinct key v

end Pairs

namespace Schema

variable {origin : Pairs.Origin} {o data : Json.Object} {v : Json}

theorem proper_liftSettings (hdata : data.WellFormed) {es : Pairs.Entries} (h : Pairs.Proper es) :
    Pairs.Proper (liftSettings data es) :=
  liftSettings_induction h fun h _ found new => h.append (hdata.get found) new

/-- The fields of the flat form are values of the payload. -/
structure NodeForm.Proper (form : NodeForm) : Prop where
  fields : ∀ {o badKeys}, form = .fields o badKeys → o.WellFormed

theorem proper_flatten (ho : o.WellFormed) (hdata : data.WellFormed) {es : Pairs.Entries}
    (h : Pairs.Proper es) : (flatten o data es).Proper := by
  have fields := of_mem_flatten .null ho hdata (proper_liftSettings hdata h).textMembers
  refine ⟨fun {_ _} eq => ?_⟩
  rw [eq] at fields
  exact fields

theorem Flattened.proper {form : NodeForm} (h : Flattened origin v form) (hv : v.WellFormed) :
    form.Proper := by
  cases h with
  | notObject => exact ⟨fun eq => by cases eq⟩
  | flat object => exact ⟨fun eq => by cases eq; exact hv.asObject object⟩
  | badPairs entry => exact ⟨fun eq => by cases eq⟩
  | nested object nested read =>
      have ho := hv.asObject object
      have hdata := (ho.valueAt "data").asObject nested
      exact proper_flatten ho hdata (Pairs.inherited_proper.read (hdata.valueAt "config") read)

theorem wellFormed_obj_members (hv : v.WellFormed) : (Json.obj v.members).WellFormed := by
  cases hv with
  | obj distinct members => exact .obj distinct members
  | _ => exact .obj List.nodup_nil fun _ h => absurd h List.not_mem_nil

theorem wellFormed_readNode {index : Nat} {form : NodeForm} {n : Node} (hform : form.Proper)
    (h : readNode index form = .ok n) : (Json.obj n.config).WellFormed := by
  obtain ⟨o, eq, read⟩ := readNode_eq_ok.mp h
  rw [← read.config]
  exact wellFormed_obj_members ((hform.fields eq).valueAt "config")

theorem wellFormed_readNodes (ho : o.WellFormed) {forms : Checked (List NodeForm)}
    {nodes : List Node} (hforms : nodeForms origin o = .ok forms)
    (h : readNodes forms = .ok nodes) : ∀ n ∈ nodes, (Json.obj n.config).WellFormed := by
  intro n hn
  obtain ⟨vs, found, v, hv, form, index, flattened, read⟩ := exists_of_mem_readNodes hforms h hn
  cases ho.get found with
  | arr items => exact wellFormed_readNode (flattened.proper (items v hv)) read

theorem wellFormed_unnest (ho : o.WellFormed) : Json.Object.WellFormed (unnest o) := by
  unfold unnest
  split
  · next nested => exact (ho.erase "graph").overlay ((ho.valueAt "graph").asObject nested)
  · exact ho

/-- A connection without an id gets one with an arrow in it. -/
theorem id_readConnection {key : String} {index : Nat} {c : Connection}
    (h : readConnection key index v = .ok c) : c.id ≠ "" := by
  obtain ⟨o, -, read⟩ := readConnection_eq_ok.mp h
  rw [← read.id]
  split
  · next isSet => exact Json.display_ne_empty isSet
  · simp [defaultConnectionId]

theorem id_readConnections {connections : List Connection}
    (h : readConnections o = .ok connections) : ∀ c ∈ connections, c.id ≠ "" := by
  intro c hc
  obtain ⟨key, vs, -, v, -, index, read⟩ := exists_of_mem_readConnections h hc
  exact id_readConnection read

end Schema

namespace Graph

variable {origin : Pairs.Origin} {o : Json.Object} {g : Graph}

/-- Configurations of a graph that was read are made of values of the payload. -/
theorem wellFormed_config (ho : o.WellFormed) (h : readFrom origin (.obj o) = .ok g) :
    ∀ n ∈ g.nodes, (Json.obj n.config).WellFormed := by
  obtain ⟨⟨forms, hforms, fields⟩, -⟩ := readFrom_eq_ok.mp h
  exact Schema.wellFormed_readNodes (Schema.wellFormed_unnest ho) hforms fields.nodes

theorem id_ne_empty (h : readFrom origin (.obj o) = .ok g) : ∀ c ∈ g.connections, c.id ≠ "" := by
  obtain ⟨⟨forms, -, fields⟩, -⟩ := readFrom_eq_ok.mp h
  exact Schema.id_readConnections fields.connections

end Graph
end RouletteStrategy
