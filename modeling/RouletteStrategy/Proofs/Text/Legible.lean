import RouletteStrategy.Text.Utf8

/-!
# What can be read of a text from its bytes

Reading it a second time changes nothing, and what has no replacements in it was there before.
-/

namespace RouletteStrategy.Text

theorem isHalf_of_half? {c : Char} {n : Nat} (h : half? c = some n) : isHalf n := by
  unfold half? at h
  simp only at h
  split at h
  · next half => exact Option.some.inj h ▸ half
  · cases h

theorem isValidChar_or_isHalf {cs : List Char} {n : Nat} (h : n ∈ pointsOf cs) :
    n.isValidChar ∨ isHalf n := by
  induction cs using pointsOf.induct with
  | case1 => exact absurd h List.not_mem_nil
  | case2 c =>
      rw [List.mem_singleton.mp h]
      exact .inl c.valid
  | case3 d cs ih =>
      rw [pointsOf, if_pos rfl] at h
      rcases List.mem_cons.mp h with eq | h
      · -- the character after a mark stands in for a half, or for itself
        rw [eq]
        cases stand_in : half? d with
        | none => exact .inl d.valid
        | some m => exact .inr (isHalf_of_half? stand_in)
      · exact ih h
  | case4 c d cs ne ih =>
      rw [pointsOf, if_neg ne] at h
      rcases List.mem_cons.mp h with rfl | h
      · exact .inl c.valid
      · exact ih h

namespace Utf8

/-- Neither halves nor replacements. -/
def Plain (s : String) : Prop := ∀ n ∈ points s, ¬isHalf n ∧ n ≠ replacement.toNat

instance (s : String) : Decidable (Plain s) :=
  inferInstanceAs (Decidable (∀ n ∈ points s, ¬isHalf n ∧ n ≠ replacement.toNat))

/-- The code points of a text with three replacements for each half. -/
def legiblePoints (s : String) : List Nat :=
  (points s).flatMap fun n => if isHalf n then List.replicate 3 replacement.toNat else [n]

theorem not_isHalf_of_mem_legiblePoints {s : String} {n : Nat} (h : n ∈ legiblePoints s) :
    n.isValidChar ∧ ¬isHalf n := by
  obtain ⟨m, hm, h⟩ := List.mem_flatMap.mp h
  split at h
  · rw [List.eq_of_mem_replicate h]
    decide
  · next whole =>
    rw [List.mem_singleton.mp h]
    exact ⟨(isValidChar_or_isHalf hm).resolve_right whole, whole⟩

theorem points_ofPoints_legiblePoints (s : String) :
    points (ofPoints (legiblePoints s)) = legiblePoints s := by
  rw [points, ofPoints, String.toList_ofList]
  exact pointsOf_spelling fun n h => .inl (not_isHalf_of_mem_legiblePoints h).1

theorem legible_of_whole {s : String} (h : ∀ n ∈ points s, ¬isHalf n) : legible s = s :=
  if_neg (by simpa using h)

theorem legible_legible (s : String) : legible (legible s) = legible s := by
  refine legible_of_whole fun n h => ?_
  unfold legible at h
  split at h
  · have eq := points_ofPoints_legiblePoints s
    rw [legiblePoints] at eq
    rw [eq] at h
    exact (not_isHalf_of_mem_legiblePoints h).2
  · next whole =>
    intro half
    exact whole (List.any_eq_true.mpr ⟨n, h, half⟩)

/-- A plain text is what can be read of no other text. -/
theorem legible_eq_iff {s t : String} (plain : Plain t) : legible s = t ↔ s = t := by
  constructor
  · rintro rfl
    by_cases whole : (points s).any isHalf
    · -- one of the halves has become a replacement
      obtain ⟨n, hn, half⟩ := List.any_eq_true.mp whole
      have replaced : replacement.toNat ∈ points (legible s) := by
        have eq := points_ofPoints_legiblePoints s
        rw [legible, if_pos whole, ← legiblePoints, eq]
        exact List.mem_flatMap.mpr ⟨n, hn, by simp [half]⟩
      exact absurd rfl (plain _ replaced).2
    · exact (if_neg whole).symm
  · rintro rfl
    exact legible_of_whole fun n h => (plain n h).1

end Utf8
end RouletteStrategy.Text
