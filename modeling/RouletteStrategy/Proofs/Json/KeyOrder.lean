import Mathlib.Data.List.Forall2
import RouletteStrategy.Graph.Pairs
import RouletteStrategy.Proofs.Json.Stored

/-!
# Values with their keys in another order

Values with distinct keys that are alike are the same scalar, lists of such values, or objects that
give such values under every key (`Distinct.reordered`, `Reordered.alike`). Objects of this kind
stay so when members are set, erased or laid over them, and the same is kept of them if no two keys
are written as the same text (`Object.Reordered.stored_eq`).
-/

namespace RouletteStrategy.Json

/-- Neither a list nor an object. -/
abbrev Scalar (v : Json) : Prop := Pairs.isKey v

/-- The keys of every object are distinct. -/
inductive Distinct : Json → Prop where
  | scalar {v : Json} (h : Scalar v) : Distinct v
  | arr {xs : List Json} (items : ∀ x ∈ xs, Distinct x) : Distinct (.arr xs)
  | obj {ms : Object} (distinct : (Members.keys ms).Nodup) (members : ∀ kv ∈ ms, Distinct kv.2) :
    Distinct (.obj ms)

theorem WellFormed.distinct {v : Json} (h : v.WellFormed) : v.Distinct := by
  induction h with
  | arr _ ih => exact .arr ih
  | obj distinct _ ih => exact .obj distinct ih
  | _ => exact .scalar rfl

/-- The same value with the members of objects in another order. -/
inductive Reordered : Json → Json → Prop where
  | scalar {v : Json} (h : Scalar v) : Reordered v v
  | arr {xs ys : List Json} (items : List.Forall₂ Reordered xs ys) : Reordered (.arr xs) (.arr ys)
  | obj {ms ns : Object} (distinct : (Members.keys ms).Nodup) (distinct' : (Members.keys ns).Nodup)
      (members : ∀ key, Option.Rel Reordered (Members.get? ms key) (Members.get? ns key)) :
      Reordered (.obj ms) (.obj ns)

/-- Objects that give the same values but for the order of keys in them. -/
structure Object.Reordered (o o' : Object) : Prop where
  distinct : (Members.keys o).Nodup
  distinct' : (Members.keys o').Nodup
  members : ∀ key, Option.Rel Json.Reordered (Members.get? o key) (Members.get? o' key)

/-! ## Two lookups -/

section

variable {α β : Type} {R : α → α → Prop} {f : α → β} {a b c d : Option α}

theorem map_eq_of_rel (h : Option.Rel R a b) (same : ∀ {v w}, a = some v → R v w → f v = f w) :
    a.map f = b.map f := by
  cases h with
  | none => rfl
  | some related => exact congrArg some (same rfl related)

theorem rel_of_map_eq (h : a.map f = b.map f) (related : ∀ {v w}, a = some v → f v = f w → R v w) :
    Option.Rel R a b := by
  cases a with
  | none =>
      rw [Option.map_eq_none_iff.mp h.symm]
      exact .none
  | some v =>
      obtain ⟨w, rfl, same⟩ := Option.map_eq_some_iff.mp h.symm
      exact .some (related rfl same.symm)

theorem rel_getD {x y : α} (h : Option.Rel R a b) (default : R x y) :
    R (a.getD x) (b.getD y) := by
  cases h with
  | none => exact default
  | some related => exact related

theorem rel_or (h : Option.Rel R a b) (h' : Option.Rel R c d) :
    Option.Rel R (a.or c) (b.or d) := by
  cases h with
  | none => exact h'
  | some related => exact .some related

theorem isSome_eq_of_rel (h : Option.Rel R a b) : a.isSome = b.isSome := by
  cases h <;> rfl

end

/-! ## The order of keys at all depths -/

/-- The members with sorted values. -/
def Object.sortedValues (o : Object) : Object := o.map fun kv => (kv.1, kv.2.sorted)

namespace Object

theorem sorted_obj (o : Object) : (obj o).sorted = .obj (Members.sorted o.sortedValues) := by
  rw [Json.sorted_obj, sortedValues, Members.sorted_map]

theorem keys_sortedValues (o : Object) : Members.keys o.sortedValues = Members.keys o :=
  Members.keys_map _ o

theorem get?_sortedValues (o : Object) (key : String) :
    Members.get? o.sortedValues key = (Members.get? o key).map Json.sorted :=
  Members.get?_map _ o key

end Object

theorem eq_of_alike_scalar {v w : Json} (scalar : Scalar v) (h : v.Alike w) : v = w := by
  cases v <;> cases w <;> first | exact h | cases h | cases scalar

theorem exists_of_alike_arr {xs : List Json} {w : Json} (h : (arr xs).Alike w) :
    ∃ ys, w = .arr ys ∧ List.Forall₂ Alike xs ys := by
  cases w with
  | arr ys =>
      rw [Alike, sorted_arr, sorted_arr] at h
      refine ⟨ys, rfl, ?_⟩
      have same : List.Forall₂ (· = ·) (xs.map sorted) (ys.map sorted) := by
        rw [List.forall₂_eq_eq_eq]
        exact arr.inj h
      rwa [List.forall₂_map_left_iff, List.forall₂_map_right_iff] at same
  | _ => cases h

theorem exists_of_alike_obj {ms : Object} {w : Json} (h : (obj ms).Alike w) :
    ∃ ns : Object, w = .obj ns ∧ ms.sortedValues.Perm ns.sortedValues := by
  cases w with
  | obj ns =>
      rw [Alike, Object.sorted_obj, Object.sorted_obj] at h
      have sorted := obj.inj h
      exact ⟨ns, rfl, ((Members.sorted_perm _).symm.trans (sorted ▸ .rfl)).trans
        (Members.sorted_perm _)⟩
  | _ => cases h

/-- The order of members is no difference. -/
theorem alike_of_perm {ms ns : Object} (distinct : (Members.keys ms).Nodup) (perm : ms.Perm ns) :
    (obj ms).Alike (.obj ns) := by
  have values : ms.sortedValues.Perm ns.sortedValues := perm.map _
  rw [Alike, Object.sorted_obj, Object.sorted_obj,
    Members.sorted_eq_of_perm (by rwa [Object.keys_sortedValues]) values]

theorem Reordered.alike {v w : Json} (h : v.Reordered w) : v.Alike w := by
  induction v using ind generalizing w with
  | arr xs ih =>
      cases h with
      | scalar h => cases h
      | @arr _ ys items =>
        have same : xs.map sorted = ys.map sorted := by
          induction items with
          | nil => rfl
          | cons first _ rest =>
              obtain ⟨head, tail⟩ := List.forall_mem_cons.mp ih
              rw [List.map_cons, List.map_cons, rest tail]
              exact congrArg (· :: _) (head first)
        rw [Alike, sorted_arr, sorted_arr, same]
  | obj ms ih =>
      cases h with
      | scalar h => cases h
      | @obj _ ns distinct distinct' members =>
        have perm : ms.sortedValues.Perm ns.sortedValues := by
          rw [Members.perm_iff_get?_eq (by rwa [Object.keys_sortedValues])
            (by rwa [Object.keys_sortedValues])]
          intro key
          rw [Object.get?_sortedValues, Object.get?_sortedValues]
          exact map_eq_of_rel (members key) fun found related =>
            ih _ (Members.mem_of_get? found) related
        rw [Alike, Object.sorted_obj, Object.sorted_obj,
          Members.sorted_eq_of_perm (by rwa [Object.keys_sortedValues]) perm]
  | _ => cases h; rfl

theorem Distinct.reordered {v w : Json} (h : v.Distinct) (alike : v.Alike w) : v.Reordered w := by
  induction h generalizing w with
  | scalar h =>
      cases eq_of_alike_scalar h alike
      exact .scalar h
  | arr parts ih =>
      obtain ⟨ys, rfl, items⟩ := exists_of_alike_arr alike
      clear alike parts
      refine .arr ?_
      induction items with
      | nil => exact .nil
      | cons first _ rest =>
          obtain ⟨head, tail⟩ := List.forall_mem_cons.mp ih
          exact .cons (head first) (rest tail)
  | @obj ms distinct _ ih =>
      obtain ⟨ns, rfl, perm⟩ := exists_of_alike_obj alike
      have distinct' : (Members.keys ns).Nodup := by
        rw [← Object.keys_sortedValues] at distinct ⊢
        exact (perm.map _).nodup_iff.mp distinct
      refine .obj distinct distinct' fun key => ?_
      have same : (Members.get? ms key).map sorted = (Members.get? ns key).map sorted := by
        rw [← Object.get?_sortedValues, ← Object.get?_sortedValues]
        exact Members.get?_eq_of_perm perm (by rwa [Object.keys_sortedValues]) key
      exact rel_of_map_eq same fun found alike => ih _ (Members.mem_of_get? found) alike

/-! ## Parts of reordered values -/

namespace Reordered

variable {v w d d' : Json}

theorem eq_of_scalar (h : v.Reordered w) (scalar : Scalar v) : v = w :=
  eq_of_alike_scalar scalar h.alike

theorem isSet_eq (h : v.Reordered w) : v.isSet = w.isSet := by
  have same : v.sorted = w.sorted := h.alike
  rw [← isSet_sorted v, same, isSet_sorted w]

theorem orElse (h : v.Reordered w) (default : d.Reordered d') :
    (v.orElse d).Reordered (w.orElse d') := by
  rw [Json.orElse, Json.orElse, h.isSet_eq]
  split
  · exact h
  · exact default

theorem asObject? (h : v.Reordered w) :
    Option.Rel Object.Reordered v.asObject? w.asObject? := by
  cases h with
  | scalar scalar => cases v <;> first | exact .none | cases scalar
  | arr _ => exact .none
  | obj distinct distinct' members => exact .some ⟨distinct, distinct', members⟩

theorem members (h : v.Reordered w) : v.members.Reordered w.members := by
  cases h with
  | scalar scalar =>
      cases v <;> first
        | exact ⟨List.nodup_nil, List.nodup_nil, fun _ => .none⟩
        | cases scalar
  | arr _ => exact ⟨List.nodup_nil, List.nodup_nil, fun _ => .none⟩
  | obj distinct distinct' members => exact ⟨distinct, distinct', members⟩

end Reordered

namespace Object.Reordered

variable {o o' p p' : Object}

theorem value (h : o.Reordered o') : (obj o).Reordered (.obj o') :=
  .obj h.distinct h.distinct' h.members

/-- What is found under a key of reordered objects. -/
@[elab_as_elim]
theorem lookup_cases {motive : Option Json → Option Json → Prop} (h : o.Reordered o')
    (key : String) (none : motive none none) (scalar : ∀ v, Scalar v → motive (some v) (some v))
    (arr : ∀ xs ys, List.Forall₂ Json.Reordered xs ys → motive (some (.arr xs)) (some (.arr ys)))
    (obj : ∀ ms ns : Object, ms.Reordered ns → motive (some (.obj ms)) (some (.obj ns))) :
    motive (Members.get? o key) (Members.get? o' key) := by
  have same := h.members key
  generalize Members.get? o key = a at same ⊢
  generalize Members.get? o' key = b at same ⊢
  cases same with
  | none => exact none
  | some related => cases related with
    | scalar h => exact scalar _ h
    | arr items => exact arr _ _ items
    | obj distinct distinct' members => exact obj _ _ ⟨distinct, distinct', members⟩

theorem valueAt (h : o.Reordered o') (key : String) : (o.at key).Reordered (o'.at key) :=
  rel_getD (h.members key) (.scalar rfl)

theorem has_eq (h : o.Reordered o') (key : String) : Members.has o key = Members.has o' key :=
  isSome_eq_of_rel (h.members key)

/-- Scalars are found as they are. -/
theorem at_eq (h : o.Reordered o') {key : String} (scalar : Scalar (o.at key)) :
    o.at key = o'.at key :=
  (h.valueAt key).eq_of_scalar scalar

theorem get?_eq (h : o.Reordered o') {key : String} (scalar : Scalar (o.at key)) :
    Members.get? o key = Members.get? o' key := by
  unfold Object.at at scalar
  revert scalar
  refine h.lookup_cases key (fun _ => rfl) (fun _ _ _ => rfl) ?_ ?_
  · intro xs ys _ scalar
    cases scalar
  · intro ms ns _ scalar
    cases scalar

theorem set (h : o.Reordered o') (key : String) {v w : Json} (hv : v.Reordered w) :
    Object.Reordered (Members.set o key v) (Members.set o' key w) := by
  refine ⟨Members.nodup_keys_set h.distinct key v, Members.nodup_keys_set h.distinct' key w, ?_⟩
  intro other
  rw [Members.get?_set, Members.get?_set]
  split
  · exact .some hv
  · exact h.members other

theorem setDefault (h : o.Reordered o') (key : String) {v w : Json} (hv : v.Reordered w) :
    Object.Reordered (Members.setDefault o key v) (Members.setDefault o' key w) := by
  rw [Members.setDefault, Members.setDefault, h.has_eq]
  split
  · exact h
  · exact h.set key hv

theorem erase (h : o.Reordered o') (key : String) :
    Object.Reordered (Members.erase o key) (Members.erase o' key) := by
  refine ⟨h.distinct.sublist (List.filter_sublist.map _),
    h.distinct'.sublist (List.filter_sublist.map _), fun other => ?_⟩
  rw [Members.get?_erase, Members.get?_erase]
  split
  · exact .none
  · exact h.members other

theorem overlay (h : o.Reordered o') (h' : p.Reordered p') :
    Object.Reordered (Members.overlay o p) (Members.overlay o' p') := by
  refine ⟨Members.nodup_keys_overlay h.distinct p, Members.nodup_keys_overlay h.distinct' p', ?_⟩
  intro key
  rw [Members.get?_overlay_of_nodup o h'.distinct, Members.get?_overlay_of_nodup o' h'.distinct']
  exact rel_or (h'.members key) (h.members key)

/-! ## What is kept of reordered objects -/

theorem perm_sortedValues (h : o.Reordered o') : o.sortedValues.Perm o'.sortedValues := by
  obtain ⟨_, eq, perm⟩ := exists_of_alike_obj h.value.alike
  cases eq
  exact perm

theorem obstacle?_iff (h : o.Reordered o') : o.obstacle? = none ↔ o'.obstacle? = none := by
  have sorted : ∀ o : Object, o.obstacle? = none ↔
      ∀ kv ∈ o.sortedValues, kv.2.obstacle? maxHeight = none := by
    intro o
    simp only [obstacle?_eq_none_iff, sortedValues, List.forall_mem_map, obstacle?_sorted]
  rw [sorted o, sorted o']
  simp only [h.perm_sortedValues.mem_iff]

end Object.Reordered

/-- No two keys are written as the same text. -/
def Object.Legible (o : Object) : Prop := ((Members.keys o).map Text.Utf8.legible).Nodup

namespace Object

variable {o o' : Object}

theorem legible_of_whole (distinct : (Members.keys o).Nodup)
    (whole : ∀ key ∈ Members.keys o, ∀ n ∈ Text.points key, ¬Text.isHalf n) : o.Legible := by
  have same : (Members.keys o).map Text.Utf8.legible = Members.keys o :=
    (List.map_congr_left fun key h => Text.Utf8.legible_of_whole (whole key h)).trans
      (List.map_id _)
  rwa [Legible, same]

theorem sortedValues_written (legible : o.Legible) : o.written.sortedValues =
    o.sortedValues.map fun kv => (Text.Utf8.legible kv.1, kv.2.finite) := by
  have distinct : (Members.keys (o.map fun kv => (Text.Utf8.legible kv.1, kv.2.finite))).Nodup := by
    rw [Legible, Members.keys, List.map_map] at legible
    rwa [Members.keys, List.map_map]
  have kept : o.written = o.map fun kv => (Text.Utf8.legible kv.1, kv.2.finite) :=
    Members.overlay_of_nodup (m := []) distinct
  rw [kept, sortedValues, sortedValues, List.map_map, List.map_map]
  exact List.map_congr_left fun kv _ => congrArg (Prod.mk _) (finite_sorted kv.2)

/-- The same is kept of reordered objects, if no keys become equal. -/
theorem Reordered.stored_eq (h : o.Reordered o') (legible : o.Legible) : o.stored = o'.stored := by
  have keys : (Members.keys o).Perm (Members.keys o') := by
    rw [← keys_sortedValues o, ← keys_sortedValues o']
    exact h.perm_sortedValues.map _
  have legible' : o'.Legible := (keys.map _).nodup_iff.mp legible
  have perm : o.written.sortedValues.Perm o'.written.sortedValues := by
    rw [sortedValues_written legible, sortedValues_written legible']
    exact h.perm_sortedValues.map _
  have distinct : (Members.keys o.written.sortedValues).Nodup := by
    rw [keys_sortedValues]
    exact nodup_keys_written o
  refine obj.inj ?_
  rw [obj_stored, obj_stored, sorted_obj, sorted_obj, Members.sorted_eq_of_perm distinct perm]

end Object
end RouletteStrategy.Json
