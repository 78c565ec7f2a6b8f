import RouletteStrategy.Proofs.Json.Stored

/-!
# How far values are inside one another

The height of a value is that of its parts and one more. Overlays and free objects as they are
written are no higher than what they are made from (`Json.height_overlay_le`,
`Json.Object.height_written_le`).
-/

namespace RouletteStrategy.Json

variable {v w : Json} {xs : List Json} {o p : Object} {n : Nat}

theorem height_arr_le_iff : (arr xs).height ≤ n + 1 ↔ ∀ x ∈ xs, x.height ≤ n := by
  rw [height, Nat.add_le_add_iff_right, heightOfItems_le_iff]

theorem height_obj_le_iff : (obj o).height ≤ n + 1 ↔ ∀ kv ∈ o, kv.2.height ≤ n := by
  rw [height, Nat.add_le_add_iff_right, heightOfMembers_le_iff]

theorem height_pos_obj (o : Object) : 0 < (obj o).height := Nat.succ_pos _

theorem Alike.height_eq (h : v.Alike w) : v.height = w.height := by
  rw [← height_sorted v, ← height_sorted w]
  exact congrArg height h

/-- What stands under a key is lower than the object. -/
theorem height_at_lt (o : Object) (key : String) : (o.at key).height < (obj o).height := by
  rw [Object.at]
  cases found : Members.get? o key with
  | none => exact height_pos_obj o
  | some v =>
      have parts : v.height ≤ heightOfMembers o :=
        heightOfMembers_le_iff.mp (Nat.le_refl _) _ (Members.mem_of_get? found)
      exact Nat.lt_succ_of_le parts

theorem height_lt_of_asObject? {key : String} (h : (o.at key).asObject? = some p) :
    (obj p).height < (obj o).height := by
  rw [← eq_obj_of_asObject? h]
  exact height_at_lt o key

theorem height_orElse_le (hv : v.height ≤ n) (hw : w.height ≤ n) : (v.orElse w).height ≤ n := by
  rw [orElse]
  split
  · exact hv
  · exact hw

theorem height_overlay_le (ho : (obj o).height ≤ n) (hp : (obj p).height ≤ n) :
    (obj (Members.overlay o p)).height ≤ n := by
  cases n with
  | zero => exact absurd (height_pos_obj o) (Nat.not_lt.mpr ho)
  | succ n =>
      rw [height_obj_le_iff] at ho hp ⊢
      exact fun kv h => (Members.mem_overlay h).elim (ho kv) (hp kv)

/-- What is written in a room is no higher than it. -/
theorem height_le_of_obstacle? {room : Nat} (h : v.obstacle? room = none) : v.height ≤ room := by
  induction v using ind generalizing room with
  | arr xs ih => cases room with
    | zero => exact absurd h (by simp [obstacle?])
    | succ room =>
        have parts := obstacleInItems?_eq_none_iff.mp h
        exact height_arr_le_iff.mpr fun x hx => ih x hx (parts x hx)
  | obj ms ih => cases room with
    | zero => exact absurd h (by simp [obstacle?])
    | succ room =>
        have parts := obstacleInMembers?_eq_none_iff.mp h
        exact height_obj_le_iff.mpr fun kv hkv => ih kv hkv (parts kv hkv).2
  | _ => exact Nat.zero_le room

theorem Object.height_written_le (h : o.obstacle? = none) :
    (obj o.written).height ≤ maxHeight + 1 := by
  refine height_obj_le_iff.mpr fun kv hkv => ?_
  obtain ⟨lw, hlw, rfl⟩ := exists_of_mem_written hkv
  exact height_le_of_obstacle? (obstacle?_finite (obstacle?_eq_none_iff.mp h lw hlw))

end RouletteStrategy.Json
