import RouletteStrategy.Proofs.Text.Legible

/-!
# Characters that spell code points

Not every list of characters spells something: a mark stands before another mark or before the
stand-in of a half. Where a list does, it is determined by the code points that it spells
(`Spelled.eq_of_pointsOf`), and so is a text without halves by its plain characters
(`eq_of_toPlain`).
-/

namespace RouletteStrategy.Text

/-- Characters that spell code points, each of them a character or a half. -/
inductive Spelled : List Char → Prop where
  | nil : Spelled []
  | cons {n : Nat} {cs : List Char} (point : n.isValidChar ∨ isHalf n) (rest : Spelled cs) :
    Spelled (spell n ++ cs)

variable {cs ds : List Char} {c : Char} {n : Nat}

theorem not_isHalf_of_isValidChar (h : n.isValidChar) : ¬isHalf n := by
  intro half
  obtain ⟨low, high⟩ := bounds_of_isHalf half
  rcases h with h | h <;> omega

/-- A character other than the mark spells itself. -/
theorem spell_toNat (h : c ≠ mark) : spell c.toNat = [c] := by
  have ne : c.toNat ≠ mark.toNat := fun eq => h (Char.toNat_inj.mp eq)
  have whole : ¬isHalf c.toNat := not_isHalf_of_isValidChar c.valid
  rw [spell, if_neg whole, if_neg ne, Char.ofNat_toNat]

/-- A code point is spelled with one character, or with a mark and a character beyond ASCII. -/
theorem spell_cases (h : n.isValidChar ∨ isHalf n) :
    (∃ c, c ≠ mark ∧ spell n = [c]) ∨ ∃ d, 0x80 ≤ d.toNat ∧ spell n = [mark, d] := by
  unfold spell
  split
  next half =>
    obtain ⟨low, high⟩ := bounds_of_isHalf half
    refine .inr ⟨_, ?_, rfl⟩
    have valid : (n + standInOffset).isValidChar :=
      .inr ⟨by unfold standInOffset; omega, by unfold standInOffset; omega⟩
    rw [toNat_ofNat valid]
    omega
  next whole =>
    split
    next => exact .inr ⟨mark, by decide, rfl⟩
    next ne =>
      refine .inl ⟨Char.ofNat n, fun eq => ne ?_, rfl⟩
      rw [← eq, toNat_ofNat (h.resolve_right whole)]

namespace Spelled

theorem append (h : Spelled cs) (h' : Spelled ds) : Spelled (cs ++ ds) := by
  induction h with
  | nil => exact h'
  | cons point _ ih =>
      rw [List.append_assoc]
      exact .cons point ih

theorem char (hc : c ≠ mark) (h : Spelled cs) : Spelled (c :: cs) := by
  have spelled := Spelled.cons (.inl c.valid) h
  rwa [show c.val.toNat = c.toNat from rfl, spell_toNat hc] at spelled

/-- What characters spell is spelled with these characters. -/
theorem spelling_pointsOf (h : Spelled cs) : spelling (pointsOf cs) = cs := by
  induction h with
  | nil => rfl
  | cons point _ ih =>
      rw [pointsOf_spell point, spelling, List.flatMap_cons]
      exact congrArg _ ih

theorem eq_of_pointsOf (h : Spelled cs) (h' : Spelled ds) (eq : pointsOf cs = pointsOf ds) :
    cs = ds := by
  rw [← h.spelling_pointsOf, ← h'.spelling_pointsOf, eq]

end Spelled

theorem spelled_of_notMem (h : mark ∉ cs) : Spelled cs := by
  induction cs with
  | nil => exact .nil
  | cons c cs ih =>
      have first : c ≠ mark := fun eq => h (List.mem_cons.mpr (.inl eq.symm))
      exact (ih fun later => h (List.mem_cons_of_mem c later)).char first

theorem spelled_spelling {ns : List Nat} (h : ∀ n ∈ ns, n.isValidChar ∨ isHalf n) :
    Spelled (spelling ns) := by
  induction ns with
  | nil => exact .nil
  | cons n ns ih =>
      obtain ⟨first, rest⟩ := List.forall_mem_cons.mp h
      exact .cons first (ih rest)

/-- Replacements for halves leave nothing but characters. -/
theorem Utf8.spelled_legible {s : String} (h : Spelled s.toList) :
    Spelled (Utf8.legible s).toList := by
  unfold legible
  split
  · rw [ofPoints, String.toList_ofList]
    exact spelled_spelling fun n hn => .inl (not_isHalf_of_mem_legiblePoints hn).1
  · exact h

/-! ## Texts without halves -/

theorem not_isHalf_of_halfRunFrom? {start : Nat} {ns : List Nat}
    (h : halfRunFrom? start ns = none) : ∀ n ∈ ns, ¬isHalf n := by
  induction ns generalizing start with
  | nil => exact fun _ hn => absurd hn List.not_mem_nil
  | cons n ns ih =>
      rw [halfRunFrom?] at h
      split at h
      next => cases h
      next whole => exact List.forall_mem_cons.mpr ⟨whole, ih h⟩

/-- Code points without halves are those of characters. -/
theorem map_toNat_ofNat {ns : List Nat} (h : ∀ n ∈ ns, n.isValidChar) :
    (ns.map Char.ofNat).map Char.toNat = ns := by
  rw [List.map_map]
  refine (List.map_congr_left fun n hn => ?_).trans (List.map_id ns)
  exact toNat_ofNat (h n hn)

theorem eq_of_toPlain {s t : String} (hs : Spelled s.toList) (ht : Spelled t.toList)
    (whole : halfRun? s = none) (whole' : halfRun? t = none) (eq : toPlain s = toPlain t) :
    s = t := by
  have valid : ∀ {u : String}, halfRun? u = none → ∀ n ∈ points u, n.isValidChar := by
    intro u none n hn
    exact (isValidChar_or_isHalf hn).resolve_right (not_isHalf_of_halfRunFrom? none n hn)
  have chars : (points s).map Char.ofNat = (points t).map Char.ofNat := String.ofList_inj.mp eq
  have same : points s = points t := by
    rw [← map_toNat_ofNat (valid whole), chars, map_toNat_ofNat (valid whole')]
  exact String.toList_inj.mp (hs.eq_of_pointsOf ht same)

end RouletteStrategy.Text
