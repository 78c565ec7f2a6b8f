import RouletteStrategy.Proofs.Graph.Reading
import RouletteStrategy.Proofs.Json.Values

/-!
# Where the values of configurations come from

The values of a configuration are parts of the nodes of the payload or texts in them, so they have
every property that goes over to parts and that all texts have (`Schema.of_mem_readNodes`).
-/

namespace RouletteStrategy

namespace Json

/-- A property that texts and null have, and that an object has exactly if its values have it. It
goes over to the items of a list. -/
structure Hereditary (Q : Json → Prop) : Prop where
  null : Q .null
  str : ∀ s, Q (.str s)
  items : ∀ {xs : List Json}, Q (.arr xs) → ∀ x ∈ xs, Q x
  members : ∀ {ms : Object}, Q (.obj ms) ↔ ∀ kv ∈ ms, Q kv.2

theorem hereditary_isFinite : Hereditary fun v => v.isFinite where
  null := rfl
  str _ := rfl
  items h := (isFiniteItems_iff _).mp h
  members := isFiniteMembers_iff _

theorem Object.of_at {Q : Json → Prop} {o : Object} (null : Q .null) (h : ∀ kv ∈ o, Q kv.2)
    (key : String) : Q (o.at key) := by
  rw [Object.at]
  cases found : Members.get? o key with
  | none => exact null
  | some v => exact h (key, v) (Members.mem_of_get? found)

namespace Hereditary

variable {Q : Json → Prop} (hQ : Hereditary Q) {v w : Json} {o : Object}
include hQ

theorem asObject (h : Q v) (object : v.asObject? = some o) : ∀ kv ∈ o, Q kv.2 := by
  cases eq_obj_of_asObject? object
  exact hQ.members.mp h

theorem valueAt (h : ∀ kv ∈ o, Q kv.2) (key : String) : Q (o.at key) :=
  Object.of_at hQ.null h key

end Hereditary
end Json

variable {Q : Json → Prop}

namespace Members

variable {o : Json.Object} {v : Json}

theorem of_mem_set (h : ∀ kv ∈ o, Q kv.2) (key : String) (hv : Q v) :
    ∀ kv ∈ set o key v, Q kv.2 := by
  intro kv hkv
  rcases mem_set hkv with old | rfl
  · exact h kv old
  · exact hv

theorem of_mem_setDefault (h : ∀ kv ∈ o, Q kv.2) (key : String) (hv : Q v) :
    ∀ kv ∈ setDefault o key v, Q kv.2 := by
  unfold setDefault
  split
  · exact h
  · exact of_mem_set h key hv

end Members

namespace Pairs

variable {origin : Origin} {es : Entries} {v : Json}

theorem of_mem_set (h : ∀ e ∈ es, Q e.2) {key : Json} (hv : Q v) :
    ∀ e ∈ set origin es key v, Q e.2 := by
  induction es with
  | nil => exact List.forall_mem_singleton.mpr hv
  | cons e es ih =>
      obtain ⟨first, rest⟩ := List.forall_mem_cons.mp h
      rw [set]
      split
      · exact List.forall_mem_cons.mpr ⟨hv, rest⟩
      · exact List.forall_mem_cons.mpr ⟨first, ih rest⟩

theorem of_mem_entryItems (str : ∀ s, Q (.str s)) (parts : ∀ {xs}, Q (.arr xs) → ∀ x ∈ xs, Q x)
    (hv : Q v) {items : List Json} (h : entryItems v = .ok items) : ∀ x ∈ items, Q x := by
  cases v with
  | str s =>
      cases h
      exact List.forall_mem_map.mpr fun _ _ => str _
  | arr xs =>
      cases h
      exact parts hv
  | obj ms =>
      cases h
      exact List.forall_mem_map.mpr fun _ _ => str _
  | _ => cases h

theorem inherited_of_hereditary (hQ : Json.Hereditary Q) :
    Inherited origin Q fun es => ∀ e ∈ es, Q e.2 where
  nil := fun _ h => absurd h List.not_mem_nil
  set h _ hv := of_mem_set h hv
  items hv h := of_mem_entryItems hQ.str hQ.items hv h
  members h := List.forall_mem_map.mpr fun kv hkv => hQ.members.mp h kv hkv

theorem of_mem_textMembers (h : ∀ e ∈ es, Q e.2) : ∀ kv ∈ textMembers es, Q kv.2 := by
  intro kv hkv
  obtain ⟨e, he, eq⟩ := List.mem_filterMap.mp hkv
  obtain ⟨s, -, rfl⟩ := Option.map_eq_some_iff.mp eq
  exact h e he

end Pairs

namespace Schema

variable {origin : Pairs.Origin} {o data : Json.Object} {v : Json}

theorem of_mem_liftSettings (hdata : ∀ kv ∈ data, Q kv.2) {es : Pairs.Entries}
    (h : ∀ e ∈ es, Q e.2) : ∀ e ∈ liftSettings data es, Q e.2 := by
  refine liftSettings_induction (P := fun es => ∀ e ∈ es, Q e.2) h fun h _ found _ => ?_
  have lifted := hdata _ (Members.mem_of_get? found)
  exact List.forall_mem_append.mpr ⟨h, List.forall_mem_singleton.mpr lifted⟩

/-- The fields of the flat form of a node. -/
def NodeForm.fieldsOf : NodeForm → Json.Object
  | .fields o _ => o
  | _ => []

/-- The flat form has the values of the node, those under `data`, and the configuration. -/
theorem of_mem_flatten (null : Q .null) (ho : ∀ kv ∈ o, Q kv.2) (hdata : ∀ kv ∈ data, Q kv.2)
    {es : Pairs.Entries} (entries : Q (.obj (Pairs.textMembers (liftSettings data es)))) :
    ∀ kv ∈ (flatten o data es).fieldsOf, Q kv.2 := by
  have valueAt := Json.Object.of_at null hdata
  have config := Members.of_mem_setDefault ho "config" entries
  have label := Members.of_mem_setDefault config "label" (valueAt "label")
  unfold flatten NodeForm.fieldsOf
  dsimp only
  split
  · exact label
  · refine Members.of_mem_set label "subtype" ?_
    unfold Json.orElse
    split
    · exact valueAt "conditionType"
    · exact valueAt "subtype"

theorem Flattened.of_mem_fieldsOf (hQ : Json.Hereditary Q) (hv : Q v) {form : NodeForm}
    (h : Flattened origin v form) : ∀ kv ∈ form.fieldsOf, Q kv.2 := by
  cases h with
  | notObject => exact fun _ hkv => absurd hkv List.not_mem_nil
  | flat object => exact hQ.asObject hv object
  | badPairs entry => exact fun _ hkv => absurd hkv List.not_mem_nil
  | nested object nested read =>
      have ho := hQ.asObject hv object
      have hdata := hQ.asObject (hQ.valueAt ho "data") nested
      have hes := (Pairs.inherited_of_hereditary hQ).read (hQ.valueAt hdata "config") read
      have texts := Pairs.of_mem_textMembers (of_mem_liftSettings hdata hes)
      exact of_mem_flatten hQ.null ho hdata (hQ.members.mpr texts)

theorem of_mem_readNodes (hQ : Json.Hereditary Q)
    (ho : ∀ vs, Members.get? o "nodes" = some (.arr vs) → ∀ v ∈ vs, Q v)
    {forms : Checked (List NodeForm)} {nodes : List Node} (hforms : nodeForms origin o = .ok forms)
    (h : readNodes forms = .ok nodes) : ∀ n ∈ nodes, ∀ kv ∈ n.config, Q kv.2 := by
  intro n hn
  obtain ⟨vs, found, v, hv, form, index, flattened, read⟩ := exists_of_mem_readNodes hforms h hn
  obtain ⟨fields, rfl, node⟩ := readNode_eq_ok.mp read
  have config := hQ.valueAt (flattened.of_mem_fieldsOf hQ (ho vs found v hv)) "config"
  rw [← node.config]
  cases eq : Json.Object.at fields "config" with
  | obj ms =>
      rw [NodeForm.fieldsOf, eq] at config
      exact hQ.members.mp config
  | _ => exact fun _ hkv => absurd hkv List.not_mem_nil

end Schema
end RouletteStrategy
