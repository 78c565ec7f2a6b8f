import RouletteStrategy.Proofs.Json.WellFormed
import RouletteStrategy.Proofs.Text.Legible

/-!
# Free objects as a text keeps them

What is kept of a free object is written as it is (`Object.written_stored`). Only the order of keys
changes under keys without replacements, and values with sorted keys and finite numbers do not
change at all.
-/

namespace RouletteStrategy.Json.Object

variable {o : Object}

theorem nodup_keys_written (o : Object) : (Members.keys o.written).Nodup :=
  Members.nodup_keys_overlay (m := []) List.nodup_nil _

theorem exists_of_mem_written {kv : String × Json} (h : kv ∈ o.written) :
    ∃ lw ∈ o, kv = (Text.Utf8.legible lw.1, lw.2.finite) := by
  rcases Members.mem_overlay h with h | h
  · exact absurd h List.not_mem_nil
  · obtain ⟨lw, hlw, eq⟩ := List.mem_map.mp h
    exact ⟨lw, hlw, eq.symm⟩

theorem wellFormed_written (h : o.WellFormed) : (obj o.written).WellFormed := by
  refine .obj (nodup_keys_written o) fun kv hkv => ?_
  obtain ⟨lw, hlw, rfl⟩ := exists_of_mem_written hkv
  exact (h lw hlw).finite

theorem obstacle?_eq_none_iff : o.obstacle? = none ↔ ∀ kv ∈ o, kv.2.obstacle? maxHeight = none :=
  List.findSome?_eq_none_iff

/-- The members that are read back from what a free object is written as. -/
def stored (o : Object) : Object := (obj o.written).sorted.members

theorem obj_stored (o : Object) : obj o.stored = (obj o.written).sorted :=
  obj_members_sorted o.written

theorem exists_of_mem_stored {kv : String × Json} (h : kv ∈ o.stored) :
    ∃ lw ∈ o, kv = (Text.Utf8.legible lw.1, lw.2.finite.sorted) := by
  rw [stored, sorted_obj, members] at h
  obtain ⟨kw, hkw, rfl⟩ := List.mem_map.mp h
  obtain ⟨lw, hlw, rfl⟩ := exists_of_mem_written (Members.mem_sorted.mp hkw)
  exact ⟨lw, hlw, rfl⟩

theorem nodup_keys_stored (o : Object) : (Members.keys o.stored).Nodup := by
  rw [stored, sorted_obj, members, Members.keys_map]
  exact Members.nodup_keys_sorted.mpr (nodup_keys_written o)

/-- Nothing is left to change in what has been kept. -/
theorem written_stored (o : Object) : o.stored.written = o.stored := by
  have same : o.stored.map (fun kv => (Text.Utf8.legible kv.1, kv.2.finite)) = o.stored := by
    refine (List.map_congr_left fun kv hkv => ?_).trans (List.map_id _)
    obtain ⟨lw, -, rfl⟩ := exists_of_mem_stored hkv
    rw [Text.Utf8.legible_legible, finite_of_isFinite (isFinite_sorted (isFinite_finite lw.2))]
    rfl
  rw [written, same]
  exact Members.overlay_of_nodup (nodup_keys_stored o)

theorem obstacle?_stored (h : o.obstacle? = none) : o.stored.obstacle? = none := by
  rw [obstacle?_eq_none_iff] at h ⊢
  intro kv hkv
  obtain ⟨lw, hlw, rfl⟩ := exists_of_mem_stored hkv
  exact obstacle?_sorted.mpr (obstacle?_finite (h lw hlw))

/-- Values with sorted keys and finite numbers. -/
structure Steady (o : Object) : Prop where
  distinct : (Members.keys o).Nodup
  finite : ∀ kv ∈ o, kv.2.isFinite
  sorted : ∀ kv ∈ o, kv.2.sorted = kv.2

/-- A plain key has the value that it had. -/
theorem Steady.get?_stored (steady : o.Steady) {key : String} (plain : Text.Utf8.Plain key) :
    Members.get? o.stored key = Members.get? o key := by
  have key_iff : ∀ k, Text.Utf8.legible k = key ↔ k = key := fun k =>
    Text.Utf8.legible_eq_iff plain
  have written : Members.get? o.written key = (Members.get? o key).map Json.finite := by
    rw [Object.written, Members.get?_overlay, ← List.map_reverse,
      Members.get?_map_keys Text.Utf8.legible Json.finite _ key_iff,
      Members.get?_reverse steady.distinct, Members.get?_nil, Option.or_none]
  rw [stored, get?_members_sorted (nodup_keys_written o), written, Option.map_map]
  cases found : Members.get? o key with
  | none => rfl
  | some v =>
      have hv := Members.mem_of_get? found
      exact congrArg some ((congrArg Json.sorted (finite_of_isFinite (steady.finite _ hv))).trans
        (steady.sorted _ hv))

end RouletteStrategy.Json.Object
