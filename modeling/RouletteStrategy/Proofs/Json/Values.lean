import RouletteStrategy.Json.Writable
import RouletteStrategy.Numeric.Literal
import RouletteStrategy.Proofs.Members

/-!
# Values with sorted keys and finite numbers

Sorting the keys and dropping the numbers that are not finite go through lists and objects, and
neither has anything to do a second time.
-/

namespace RouletteStrategy.Json

/-- What holds of the parts of a list or an object holds of the whole. -/
theorem ind {P : Json → Prop} (null : P .null) (bool : ∀ b, P (.bool b)) (int : ∀ i, P (.int i))
    (float : ∀ x, P (.float x)) (str : ∀ s, P (.str s))
    (arr : ∀ xs, (∀ x ∈ xs, P x) → P (.arr xs))
    (obj : ∀ ms : Object, (∀ kv ∈ ms, P kv.2) → P (.obj ms)) (v : Json) : P v := by
  refine @Json.rec P (fun xs => ∀ x ∈ xs, P x) (fun ms => ∀ kv ∈ ms, P kv.2) (fun kv => P kv.2)
    null bool int float str arr obj ?_ ?_ ?_ ?_ (fun _ _ h => h) v
  · simp
  · exact fun x xs hx hxs => List.forall_mem_cons.mpr ⟨hx, hxs⟩
  · simp
  · exact fun kv ms hkv hms => List.forall_mem_cons.mpr ⟨hkv, hms⟩

theorem eq_obj_of_asObject? {v : Json} {o : Object} (h : v.asObject? = some o) : v = .obj o := by
  cases v <;> cases h
  rfl

/-! ## Parts -/

theorem finiteItems_eq (xs : List Json) : finiteItems xs = xs.map finite := by
  induction xs with
  | nil => rfl
  | cons x xs ih => rw [finiteItems, ih, List.map_cons]

theorem finiteMembers_eq (ms : Object) :
    finiteMembers ms = ms.map fun kv => (kv.1, kv.2.finite) := by
  induction ms with
  | nil => rfl
  | cons kv ms ih => rw [finiteMembers, ih, List.map_cons]

theorem sortedItems_eq (xs : List Json) : sortedItems xs = xs.map sorted := by
  induction xs with
  | nil => rfl
  | cons x xs ih => rw [sortedItems, ih, List.map_cons]

theorem sortedMembers_eq (ms : Object) :
    sortedMembers ms = ms.map fun kv => (kv.1, kv.2.sorted) := by
  induction ms with
  | nil => rfl
  | cons kv ms ih => rw [sortedMembers, ih, List.map_cons]

theorem isFiniteItems_iff (xs : List Json) : isFiniteItems xs ↔ ∀ x ∈ xs, x.isFinite := by
  induction xs with
  | nil => simp [isFiniteItems]
  | cons x xs ih => simp [isFiniteItems, ih]

theorem isFiniteMembers_iff (ms : Object) : isFiniteMembers ms ↔ ∀ kv ∈ ms, kv.2.isFinite := by
  induction ms with
  | nil => simp [isFiniteMembers]
  | cons kv ms ih => simp [isFiniteMembers, ih]

theorem heightOfItems_le_iff {xs : List Json} {n : Nat} :
    heightOfItems xs ≤ n ↔ ∀ x ∈ xs, x.height ≤ n := by
  induction xs with
  | nil => simp [heightOfItems]
  | cons x xs ih => rw [heightOfItems, Nat.max_le, ih, List.forall_mem_cons]

theorem heightOfMembers_le_iff {ms : Object} {n : Nat} :
    heightOfMembers ms ≤ n ↔ ∀ kv ∈ ms, kv.2.height ≤ n := by
  induction ms with
  | nil => simp [heightOfMembers]
  | cons kv ms ih => rw [heightOfMembers, Nat.max_le, ih, List.forall_mem_cons]

theorem obstacleInItems?_eq_none_iff {room : Nat} {xs : List Json} :
    obstacleInItems? room xs = none ↔ ∀ x ∈ xs, x.obstacle? room = none := by
  induction xs with
  | nil => simp [obstacleInItems?]
  | cons x xs ih => simp [obstacleInItems?, ih]

theorem obstacleInMembers?_eq_none_iff {room : Nat} {ms : Object} :
    obstacleInMembers? room ms = none ↔
      ∀ kv ∈ ms, Text.halfRun? kv.1 = none ∧ kv.2.obstacle? room = none := by
  induction ms with
  | nil => simp [obstacleInMembers?]
  | cons kv ms ih =>
      rw [obstacleInMembers?, List.forall_mem_cons]
      cases Text.halfRun? kv.1 <;> simp [ih]

/-! ## Sorted keys -/

theorem sorted_arr (xs : List Json) : (arr xs).sorted = .arr (xs.map sorted) := by
  rw [sorted, sortedItems_eq]

theorem sorted_obj (ms : Object) :
    (obj ms).sorted = .obj (Members.sorted ms |>.map fun kv => (kv.1, kv.2.sorted)) := by
  rw [sorted, sortedMembers_eq, Members.sorted_map]

/-- The same value but for the order of keys. -/
def Alike (v w : Json) : Prop := v.sorted = w.sorted

theorem alike_obj {ms ns : Object} (h : sortedMembers ms = sortedMembers ns) :
    (obj ms).Alike (.obj ns) := by
  rw [Alike, sorted, sorted, h]

theorem obj_members_sorted (ms : Object) : obj (obj ms).sorted.members = (obj ms).sorted := by
  rw [sorted_obj, members]

/-- Looking up in an object with sorted keys gives the values with sorted keys. -/
theorem get?_members_sorted {o : Object} (distinct : (Members.keys o).Nodup) (key : String) :
    Members.get? (obj o).sorted.members key = (Members.get? o key).map sorted := by
  rw [sorted_obj, members, Members.get?_map, Members.get?_sorted distinct]

theorem at_members_sorted {o : Object} (distinct : (Members.keys o).Nodup) (key : String) :
    Object.at (obj o).sorted.members key = (o.at key).sorted := by
  rw [Object.at, get?_members_sorted distinct, Object.at]
  cases Members.get? o key <;> rfl

@[simp] theorem sorted_sorted (v : Json) : v.sorted.sorted = v.sorted := by
  induction v using ind with
  | arr xs ih =>
      rw [sorted_arr, sorted_arr, List.map_map]
      exact congrArg arr (List.map_congr_left ih)
  | obj ms ih =>
      rw [sorted_obj, sorted_obj, Members.sorted_map, Members.sorted_sorted, List.map_map]
      refine congrArg obj (List.map_congr_left fun kv h => ?_)
      exact congrArg (Prod.mk kv.1) (ih kv (Members.mem_sorted.mp h))
  | _ => rfl

theorem isSet_sorted (v : Json) : v.sorted.isSet = v.isSet := by
  cases v with
  | arr xs => simp [sorted_arr, isSet]
  | obj ms =>
      have length : (Members.sorted ms).length = ms.length := (Members.sorted_perm ms).length_eq
      rw [sorted_obj, isSet, isSet, List.isEmpty_map]
      congr 1
      rw [Bool.eq_iff_iff, List.isEmpty_iff_length_eq_zero, List.isEmpty_iff_length_eq_zero, length]
  | _ => rfl

theorem height_sorted (v : Json) : v.sorted.height = v.height := by
  induction v using ind with
  | arr xs ih =>
      rw [sorted_arr, height, height]
      congr 1
      refine Nat.le_antisymm (heightOfItems_le_iff.mpr ?_) (heightOfItems_le_iff.mpr ?_)
      · refine List.forall_mem_map.mpr fun x h => ?_
        rw [ih x h]
        exact heightOfItems_le_iff.mp (Nat.le_refl _) x h
      · intro x h
        rw [← ih x h]
        exact heightOfItems_le_iff.mp (Nat.le_refl _) _ (List.mem_map_of_mem h)
  | obj ms ih =>
      rw [sorted_obj, height, height]
      congr 1
      refine Nat.le_antisymm (heightOfMembers_le_iff.mpr ?_) (heightOfMembers_le_iff.mpr ?_)
      · refine List.forall_mem_map.mpr fun kv h => ?_
        have h := Members.mem_sorted.mp h
        rw [ih kv h]
        exact heightOfMembers_le_iff.mp (Nat.le_refl _) kv h
      · intro kv h
        rw [← ih kv h]
        exact heightOfMembers_le_iff.mp (Nat.le_refl _) (kv.1, kv.2.sorted)
          (List.mem_map.mpr ⟨kv, Members.mem_sorted.mpr h, rfl⟩)
  | _ => rfl

/-! ## Finite numbers -/

theorem finite_arr (xs : List Json) : (arr xs).finite = .arr (xs.map finite) := by
  rw [finite, finiteItems_eq]

theorem finite_obj (ms : Object) :
    (obj ms).finite = .obj (ms.map fun kv => (kv.1, kv.2.finite)) := by
  rw [finite, finiteMembers_eq]

theorem finite_of_isFinite {v : Json} (h : v.isFinite) : v.finite = v := by
  induction v using ind with
  | float x => exact if_pos h
  | arr xs ih =>
      rw [finite_arr]
      have parts := (isFiniteItems_iff xs).mp h
      exact congrArg arr ((List.map_congr_left fun x hx => ih x hx (parts x hx)).trans
        (List.map_id xs))
  | obj ms ih =>
      have parts := (isFiniteMembers_iff ms).mp h
      rw [finite_obj]
      refine congrArg obj ((List.map_congr_left fun kv hkv => ?_).trans (List.map_id ms))
      exact congrArg (Prod.mk kv.1) (ih kv hkv (parts kv hkv))
  | _ => rfl

theorem finite_sorted (v : Json) : v.finite.sorted = v.sorted.finite := by
  induction v using ind with
  | float x =>
      have same : (Json.float x).sorted = .float x := rfl
      rw [same, finite]
      split <;> rfl
  | arr xs ih =>
      rw [finite_arr, sorted_arr, sorted_arr, finite_arr, List.map_map, List.map_map]
      exact congrArg arr (List.map_congr_left ih)
  | obj ms ih =>
      rw [finite_obj, sorted_obj, sorted_obj, finite_obj, Members.sorted_map, List.map_map,
        List.map_map]
      refine congrArg obj (List.map_congr_left fun kv hkv => ?_)
      exact congrArg (Prod.mk kv.1) (ih kv (Members.mem_sorted.mp hkv))
  | _ => rfl

theorem isFinite_finite (v : Json) : v.finite.isFinite := by
  induction v using ind with
  | float x =>
      rw [finite]
      split
      · assumption
      · rfl
  | arr xs ih =>
      rw [finite_arr]
      exact (isFiniteItems_iff _).mpr (List.forall_mem_map.mpr ih)
  | obj ms ih =>
      rw [finite_obj]
      exact (isFiniteMembers_iff _).mpr (List.forall_mem_map.mpr ih)
  | _ => rfl

theorem isFinite_sorted {v : Json} (h : v.isFinite) : v.sorted.isFinite := by
  induction v using ind with
  | arr xs ih =>
      rw [sorted_arr]
      refine (isFiniteItems_iff _).mpr (List.forall_mem_map.mpr fun x hx => ?_)
      exact ih x hx ((isFiniteItems_iff xs).mp h x hx)
  | obj ms ih =>
      rw [sorted_obj]
      refine (isFiniteMembers_iff _).mpr (List.forall_mem_map.mpr fun kv hkv => ?_)
      have hkv := Members.mem_sorted.mp hkv
      exact ih kv hkv ((isFiniteMembers_iff ms).mp h kv hkv)
  | _ => exact h

/-! ## Obstacles to writing -/

theorem obstacle?_finite {v : Json} {room : Nat} (h : v.obstacle? room = none) :
    v.finite.obstacle? room = none := by
  induction v using ind generalizing room with
  | float x => cases room with
    | zero => exact absurd h (by simp [obstacle?])
    | succ room =>
        rw [finite]
        split <;> rfl
  | arr xs ih => cases room with
    | zero => exact absurd h (by simp [obstacle?])
    | succ room =>
        have parts := obstacleInItems?_eq_none_iff.mp h
        rw [finite_arr, obstacle?, obstacleInItems?_eq_none_iff]
        exact List.forall_mem_map.mpr fun x hx => ih x hx (parts x hx)
  | obj ms ih => cases room with
    | zero => exact absurd h (by simp [obstacle?])
    | succ room =>
        have parts := obstacleInMembers?_eq_none_iff.mp h
        rw [finite_obj, obstacle?, obstacleInMembers?_eq_none_iff]
        exact List.forall_mem_map.mpr fun kv hkv =>
          ⟨(parts kv hkv).1, ih kv hkv (parts kv hkv).2⟩
  | _ => exact h

/-- The order of keys is no obstacle. -/
theorem obstacle?_sorted {v : Json} {room : Nat} :
    v.sorted.obstacle? room = none ↔ v.obstacle? room = none := by
  induction v using ind generalizing room with
  | arr xs ih => cases room with
    | zero => simp [obstacle?]
    | succ room =>
        simp only [sorted_arr, obstacle?, obstacleInItems?_eq_none_iff, List.forall_mem_map]
        exact forall₂_congr fun x hx => ih x hx
  | obj ms ih => cases room with
    | zero => simp [obstacle?]
    | succ room =>
        simp only [sorted_obj, obstacle?, obstacleInMembers?_eq_none_iff, List.forall_mem_map,
          Members.mem_sorted]
        exact forall₂_congr fun kv hkv => and_congr_right' (ih kv hkv)
  | _ => rfl

end RouletteStrategy.Json
