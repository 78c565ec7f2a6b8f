import Mathlib.Data.List.Nodup
import Mathlib.Tactic.SplitIfs
import RouletteStrategy.Members

/-!
# Tables of members: overlays and the order of keys

A table with distinct keys is its set of pairs (`get?_eq_some_iff`), so sorting it keeps every
lookup.
-/

namespace RouletteStrategy.Members

variable {α β : Type}

@[simp] theorem keys_nil : keys ([] : Members α) = [] := rfl

@[simp] theorem keys_cons (kv : String × α) (m : Members α) : keys (kv :: m) = kv.1 :: keys m := rfl

theorem keys_append (m n : Members α) : keys (m ++ n) = keys m ++ keys n := List.map_append

theorem mem_keys_of_mem {m : Members α} {key : String} {v : α} (h : (key, v) ∈ m) : key ∈ keys m :=
  List.mem_map_of_mem (f := (·.1)) h

/-! ## Lookups -/

theorem mem_of_get? {m : Members α} {key : String} {v : α} (h : get? m key = some v) :
    (key, v) ∈ m := by
  induction m with
  | nil => simp at h
  | cons kv m ih =>
      obtain ⟨k, w⟩ := kv
      rw [get?_cons] at h
      split_ifs at h with same
      · subst same
        cases h
        exact List.mem_cons_self
      · exact List.mem_cons_of_mem _ (ih h)

theorem get?_eq_some_iff {m : Members α} (nodup : (keys m).Nodup) {key : String} {v : α} :
    get? m key = some v ↔ (key, v) ∈ m := by
  refine ⟨mem_of_get?, fun h => ?_⟩
  induction m with
  | nil => simp at h
  | cons kv m ih =>
      obtain ⟨new, nodup⟩ := List.nodup_cons.mp nodup
      rw [get?_cons]
      rcases List.mem_cons.mp h with eq | h
      · cases eq
        exact if_pos rfl
      · have other : kv.1 ≠ key := by
          rintro rfl
          exact new (mem_keys_of_mem h)
        rw [if_neg other, ih nodup h]

theorem get?_eq_none_iff {m : Members α} {key : String} : get? m key = none ↔ key ∉ keys m := by
  induction m with
  | nil => simp
  | cons kv m ih =>
      rw [get?_cons, keys_cons, List.mem_cons, not_or, ← ih]
      split_ifs with same
      · simp [same]
      · simp [Ne.symm same]

theorem get?_append (m n : Members α) (key : String) :
    get? (m ++ n) key = (get? m key).or (get? n key) := by
  induction m with
  | nil => rfl
  | cons kv m ih =>
      rw [List.cons_append, get?_cons, get?_cons, ih]
      split_ifs <;> rfl

theorem get?_eq_of_perm {m n : Members α} (perm : m.Perm n) (nodup : (keys m).Nodup)
    (key : String) : get? m key = get? n key := by
  have nodup' : (keys n).Nodup := (perm.map _).nodup_iff.mp nodup
  refine Option.ext fun v => ?_
  rw [get?_eq_some_iff nodup, get?_eq_some_iff nodup', perm.mem_iff]

/-- Tables with distinct keys have the same members exactly if they look the same. -/
theorem perm_iff_get?_eq {m n : Members α} (hm : (keys m).Nodup) (hn : (keys n).Nodup) :
    m.Perm n ↔ ∀ key, get? m key = get? n key := by
  refine ⟨fun perm => get?_eq_of_perm perm hm, fun same => ?_⟩
  refine (List.perm_ext_iff_of_nodup (hm.of_map _) (hn.of_map _)).mpr fun kv => ?_
  rw [← get?_eq_some_iff hm, ← get?_eq_some_iff hn, same]

/-- Where values are left out, a key keeps its value unless it is one of them. -/
theorem get?_filter_values {m : Members α} (nodup : (keys m).Nodup) (p : α → Bool) (key : String) :
    get? (m.filter fun kv => p kv.2) key = (get? m key).filter p := by
  have nodup' : (keys (m.filter fun kv => p kv.2)).Nodup :=
    nodup.sublist (List.filter_sublist.map _)
  refine Option.ext fun v => ?_
  rw [get?_eq_some_iff nodup', List.mem_filter, ← get?_eq_some_iff nodup, Option.filter_eq_some_iff]

theorem get?_reverse {m : Members α} (nodup : (keys m).Nodup) (key : String) :
    get? m.reverse key = get? m key :=
  (get?_eq_of_perm (List.reverse_perm m).symm nodup key).symm

/-- A key that no other key is turned into keeps its place. -/
theorem get?_map_keys (g : String → String) (f : α → β) (m : Members α) {key : String}
    (h : ∀ k, g k = key ↔ k = key) :
    get? (m.map fun kv => (g kv.1, f kv.2)) key = (get? m key).map f := by
  induction m with
  | nil => rfl
  | cons kv m ih =>
      rw [List.map_cons, get?_cons, get?_cons, ih]
      simp only [h]
      split_ifs <;> rfl

theorem get?_map (f : α → β) (m : Members α) (key : String) :
    get? (m.map fun kv => (kv.1, f kv.2)) key = (get? m key).map f :=
  get?_map_keys id f m fun _ => Iff.rfl

/-- In a table of items by their keys, a lookup finds the first item of a key. -/
theorem get?_map_items (name : α → String) (f : α → β) (xs : List α) (key : String) :
    get? (xs.map fun x => (name x, f x)) key = (xs.find? (name · == key)).map f := by
  induction xs with
  | nil => rfl
  | cons x xs ih =>
      rw [List.map_cons, get?_cons, ih]
      by_cases h : name x = key
      · simp only [h, if_pos, List.find?_cons, beq_self_eq_true, Option.map_some]
      · simp only [if_neg h, List.find?_cons, beq_false_of_ne h]

theorem has_map (f : α → β) (m : Members α) (key : String) :
    has (m.map fun kv => (kv.1, f kv.2)) key = m.has key := by
  rw [has, has, get?_map, Option.isSome_map]

theorem keys_map (f : α → β) (m : Members α) : keys (m.map fun kv => (kv.1, f kv.2)) = keys m := by
  simp [keys]

/-! ## Settings and overlays -/

theorem set_of_mem {m : Members α} {key : String} (h : key ∈ keys m) (v : α) :
    keys (m.set key v) = keys m := by
  induction m with
  | nil => simp at h
  | cons kv m ih =>
      rw [set]
      split_ifs with same
      · rfl
      · have later : key ∈ keys m := (List.mem_cons.mp h).resolve_left (Ne.symm same)
        rw [keys_cons, keys_cons, ih later]

theorem set_map (f : α → β) (m : Members α) (key : String) (v : α) :
    set (m.map fun kv => (kv.1, f kv.2)) key (f v) =
      (m.set key v).map fun kv => (kv.1, f kv.2) := by
  induction m with
  | nil => rfl
  | cons kv m ih =>
      rw [List.map_cons, set, set, ih]
      split_ifs <;> rfl

theorem erase_map (f : α → β) (m : Members α) (key : String) :
    erase (m.map fun kv => (kv.1, f kv.2)) key =
      (m.erase key).map fun kv => (kv.1, f kv.2) := by
  rw [erase, erase, List.filter_map]
  rfl

theorem erase_of_get?_eq_none {m : Members α} {key : String} (h : get? m key = none) :
    m.erase key = m := by
  refine List.filter_eq_self.mpr fun kv hkv => decide_eq_true ?_
  rintro rfl
  exact get?_eq_none_iff.mp h (mem_keys_of_mem hkv)

theorem get?_setDefault (m : Members α) (key other : String) (v : α) :
    (m.setDefault key v).get? other =
      (m.get? other).or (if other = key then some v else none) := by
  unfold setDefault has
  cases found : m.get? key with
  | none =>
      rw [if_neg (by simp), get?_set]
      by_cases same : key = other
      · subst same
        rw [if_pos rfl, if_pos rfl, found, Option.none_or]
      · rw [if_neg same, if_neg (Ne.symm same), Option.or_none]
  | some w =>
      rw [if_pos (by simp)]
      by_cases same : other = key
      · subst same
        rw [found, Option.some_or]
      · rw [if_neg same, Option.or_none]

/-- A new key stands behind the others. -/
theorem set_of_notMem {m : Members α} {key : String} (h : key ∉ keys m) (v : α) :
    m.set key v = m ++ [(key, v)] := by
  induction m with
  | nil => rfl
  | cons kv m ih =>
      obtain ⟨other, new⟩ := not_or.mp (List.mem_cons.not.mp h)
      rw [set, if_neg (Ne.symm other), ih new, List.cons_append]

theorem mem_set {m : Members α} {key : String} {v : α} {kv : String × α} (h : kv ∈ m.set key v) :
    kv ∈ m ∨ kv = (key, v) := by
  induction m with
  | nil => exact .inr (List.mem_singleton.mp h)
  | cons first m ih =>
      rw [set] at h
      split_ifs at h with same
      · rcases List.mem_cons.mp h with rfl | h
        · exact .inr (by rw [same])
        · exact .inl (List.mem_cons_of_mem _ h)
      · rcases List.mem_cons.mp h with rfl | h
        · exact .inl List.mem_cons_self
        · exact (ih h).imp_left (List.mem_cons_of_mem _)

theorem nodup_keys_set {m : Members α} (nodup : (keys m).Nodup) (key : String) (v : α) :
    (keys (m.set key v)).Nodup := by
  by_cases h : key ∈ keys m
  · rwa [set_of_mem h]
  · rw [set_of_notMem h, keys_append]
    refine List.nodup_append.mpr ⟨nodup, List.nodup_singleton _, fun a ha b hb eq => ?_⟩
    rw [eq, List.mem_singleton.mp hb] at ha
    exact h ha

theorem overlay_cons (m : Members α) (kv : String × α) (n : Members α) :
    m.overlay (kv :: n) = (m.set kv.1 kv.2).overlay n := rfl

/-- Members of the second table win, and of those the last one. -/
theorem get?_overlay (m n : Members α) (key : String) :
    (m.overlay n).get? key = (get? n.reverse key).or (m.get? key) := by
  induction n generalizing m with
  | nil => rfl
  | cons kv n ih =>
      rw [overlay_cons, ih, get?_set, List.reverse_cons, get?_append, Option.or_assoc]
      congr 1
      rw [get?_cons]
      split_ifs <;> rfl

theorem get?_overlay_of_nodup (m : Members α) {n : Members α} (nodup : (keys n).Nodup)
    (key : String) : (m.overlay n).get? key = (n.get? key).or (m.get? key) := by
  rw [get?_overlay, get?_reverse nodup]

theorem mem_overlay {m n : Members α} {kv : String × α} (h : kv ∈ m.overlay n) :
    kv ∈ m ∨ kv ∈ n := by
  induction n generalizing m with
  | nil => exact .inl h
  | cons first n ih =>
      rcases ih h with h | h
      · exact (mem_set h).imp_right fun eq => List.mem_cons.mpr (.inl eq)
      · exact .inr (List.mem_cons_of_mem _ h)

theorem nodup_keys_overlay {m : Members α} (nodup : (keys m).Nodup) (n : Members α) :
    (keys (m.overlay n)).Nodup := by
  induction n generalizing m with
  | nil => exact nodup
  | cons kv n ih => exact ih (nodup_keys_set nodup kv.1 kv.2)

/-- Members with new keys stand behind the others. -/
theorem overlay_of_nodup {m n : Members α} (nodup : (keys (m ++ n)).Nodup) :
    m.overlay n = m ++ n := by
  induction n generalizing m with
  | nil => exact (List.append_nil m).symm
  | cons kv n ih =>
      have new : kv.1 ∉ keys m := by
        rw [keys_append, List.nodup_append] at nodup
        exact fun h => nodup.2.2 _ h _ List.mem_cons_self rfl
      have rest : m ++ kv :: n = m ++ [kv] ++ n := by simp
      rw [overlay_cons, set_of_notMem new, rest, ih (rest ▸ nodup)]

/-- Items with distinct names that are set one after another stand in their order. -/
theorem foldl_set_of_nodup (name : β → String) (f : β → α) {xs : List β}
    (nodup : (xs.map name).Nodup) :
    xs.foldl (fun m x => set m (name x) (f x)) [] = xs.map fun x => (name x, f x) := by
  have distinct : (keys (xs.map fun x => (name x, f x))).Nodup := by
    rwa [keys, List.map_map]
  calc xs.foldl (fun m x => set m (name x) (f x)) []
      = overlay [] (xs.map fun x => (name x, f x)) := by rw [overlay, List.foldl_map]
    _ = xs.map fun x => (name x, f x) := overlay_of_nodup distinct

/-! ## The order of keys -/

theorem sorted_perm (m : Members α) : m.sorted.Perm m := List.mergeSort_perm m _

theorem mem_sorted {m : Members α} {kv : String × α} : kv ∈ m.sorted ↔ kv ∈ m :=
  (sorted_perm m).mem_iff

theorem nodup_keys_sorted {m : Members α} : (keys m.sorted).Nodup ↔ (keys m).Nodup :=
  ((sorted_perm m).map _).nodup_iff

theorem pairwise_sorted (m : Members α) : m.sorted.Pairwise fun a b => decide (a.1 ≤ b.1) := by
  unfold sorted
  refine List.pairwise_mergeSort (fun a b c ab bc => ?_) (fun a b => ?_) m
  · exact decide_eq_true (String.le_trans (of_decide_eq_true ab) (of_decide_eq_true bc))
  · simpa only [Bool.or_eq_true, decide_eq_true_eq] using String.le_total a.1 b.1

theorem pairwise_lt_keys_sorted {m : Members α} (nodup : (keys m).Nodup) :
    (keys m.sorted).Pairwise (· < ·) := by
  have ascending : (keys m.sorted).Pairwise (· ≤ ·) :=
    List.pairwise_map.mpr ((pairwise_sorted m).imp of_decide_eq_true)
  refine (ascending.and (nodup_keys_sorted.mpr nodup)).imp ?_
  intro a b h
  exact Std.lt_of_le_of_ne h.1 h.2

@[simp] theorem sorted_sorted (m : Members α) : m.sorted.sorted = m.sorted :=
  List.mergeSort_of_pairwise (pairwise_sorted m)

/-- The order of members is lost in sorting them. -/
theorem sorted_eq_of_perm {m n : Members α} (nodup : (keys m).Nodup) (perm : m.Perm n) :
    m.sorted = n.sorted := by
  have ascending : ∀ {m : Members α}, (keys m).Nodup →
      m.sorted.Pairwise fun a b => a.1 < b.1 := fun nodup =>
    List.pairwise_map.mp (pairwise_lt_keys_sorted nodup)
  have nodup' : (keys n).Nodup := (perm.map _).nodup_iff.mp nodup
  have same : m.sorted.Perm n.sorted := (sorted_perm m).trans (perm.trans (sorted_perm n).symm)
  refine same.eq_of_pairwise (fun a b _ _ less greater => ?_) (ascending nodup) (ascending nodup')
  exact absurd (String.lt_trans less greater) (String.lt_irrefl a.1)

theorem get?_sorted {m : Members α} (nodup : (keys m).Nodup) (key : String) :
    m.sorted.get? key = m.get? key :=
  (get?_eq_of_perm (sorted_perm m).symm nodup key).symm

theorem sorted_map (f : α → β) (m : Members α) :
    sorted (m.map fun kv => (kv.1, f kv.2)) = m.sorted.map fun kv => (kv.1, f kv.2) := by
  unfold sorted
  exact (List.map_mergeSort (f := fun kv : String × α => (kv.1, f kv.2)) fun _ _ _ _ => rfl).symm

end RouletteStrategy.Members
