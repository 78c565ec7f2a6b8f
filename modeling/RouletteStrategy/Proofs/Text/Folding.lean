import Mathlib.Data.List.DropRight
import RouletteStrategy.Text.Half
import RouletteStrategy.Text.Lower

/-!
# Text without regard to letter case and blanks at its ends

No lower case has another lower case, and only blanks have a blank one, so a text that has been
folded has no blanks at its ends (`strip_fold`) and is in lower case (`lower_fold`).
-/

namespace RouletteStrategy.Text

variable {p : Char → Bool} {cs ds before : List Char} {c d : Char}

/-! ## Blanks at the ends -/

/-- Neither the first nor the last character is in the class. -/
structure Trimmed (p : Char → Bool) (cs : List Char) : Prop where
  first : ∀ c ∈ cs.head?, ¬p c
  last : ∀ c ∈ cs.getLast?, ¬p c

theorem trimWhile_eq_rdropWhile (p : Char → Bool) (cs : List Char) :
    trimWhile p cs = (cs.dropWhile p).rdropWhile p := rfl

theorem trimmed_trimWhile (p : Char → Bool) (cs : List Char) : Trimmed p (trimWhile p cs) where
  first := by
    intro c hc
    rw [trimWhile_eq_rdropWhile] at hc
    obtain ⟨rest, eq⟩ := List.head?_eq_some_iff.mp hc
    -- what is dropped at the end leaves the first character in place
    obtain ⟨dropped, whole⟩ := List.rdropWhile_prefix p (cs.dropWhile p)
    have start : (cs.dropWhile p).head? = some c := by
      rw [← whole, eq, List.cons_append, List.head?_cons]
    have kept := cs.head?_dropWhile_not p
    rw [start] at kept
    exact Bool.eq_false_iff.mp kept
  last := by
    intro c hc
    rw [trimWhile_eq_rdropWhile] at hc
    have nonempty : (cs.dropWhile p).rdropWhile p ≠ [] :=
      List.ne_nil_of_mem (List.mem_of_getLast? hc)
    have kept := List.rdropWhile_last_not p _ nonempty
    rwa [List.getLast_of_mem_getLast? hc] at kept

theorem trimWhile_of_trimmed (h : Trimmed p cs) : trimWhile p cs = cs := by
  have start : cs.dropWhile p = cs := by
    cases cs with
    | nil => rfl
    | cons c cs => exact List.dropWhile_cons_of_neg (h.first c rfl)
  rw [trimWhile_eq_rdropWhile, start, List.rdropWhile_eq_self_iff]
  exact fun nonempty => h.last _ (List.getLast_mem_getLast? nonempty)

/-- Characters of the class in front are dropped with those behind them. -/
theorem trimWhile_append (h : ∀ c ∈ ds, p c) (cs : List Char) :
    trimWhile p (ds ++ cs) = trimWhile p cs := by
  rw [trimWhile, List.dropWhile_append_of_pos h, trimWhile]

theorem strip_ofList (cs : List Char) :
    strip (String.ofList cs) = String.ofList (trimWhile isBlank cs) := by
  rw [strip, String.toList_ofList]

/-! ## Lower case -/

/-- A run of characters with a lower case: the first and last code point, the step, and the distance
to the lower case. -/
abbrev LowerRun := Nat × Nat × Nat × Int

namespace LowerRun

/-- A code point is in the run. -/
def Has (r : LowerRun) (n : Nat) : Prop := r.1 ≤ n ∧ n ≤ r.2.1 ∧ (n - r.1) % r.2.2.1 = 0

/-- The lower case of a code point in the run. -/
def image (r : LowerRun) (n : Nat) : Nat := ((n : Int) + r.2.2.2).toNat

/-- The first and last lower case of the run, and their step; a single one has any step. -/
def images (r : LowerRun) : Nat × Nat × Nat :=
  (r.image r.1, r.image r.2.1, if r.1 = r.2.1 then 2 else r.2.2.1)

/-- A stretch of code points lies below the run, above it, or between its members. -/
def apart (s : Nat × Nat × Nat) (r : LowerRun) : Bool :=
  s.2.1.blt r.1 || r.2.1.blt s.1 || (r.2.2.1.beq 2 && s.2.2.beq 2 && ((s.1 + r.1) % 2).beq 1)

/-- The halves of surrogate pairs, the dotted capital I, and the blanks. -/
def otherRanges : List (Nat × Nat) := (0xd800, 0xdfff) :: (0x130, 0x130) :: blankRanges

/-- The lower cases of the run are characters outside the other ranges. -/
def isPlain (r : LowerRun) : Bool :=
  0 ≤ (r.1 : Int) + r.2.2.2 && r.image r.2.1 < 0x110000 &&
    otherRanges.all fun range => r.image r.2.1 < range.1 || range.2 < r.image r.1

variable {r q : LowerRun} {n : Nat}

instance : Decidable (r.Has n) := inferInstanceAs (Decidable (_ ∧ _))

theorem all_apart : (lowerRuns.map images).all fun s => lowerRuns.all (apart s) := by
  decide +kernel

theorem all_isPlain : lowerRuns.all isPlain := by decide +kernel

theorem nonneg_of_isPlain (plain : r.isPlain) : 0 ≤ (r.1 : Int) + r.2.2.2 := by
  simp only [isPlain, Bool.and_eq_true, decide_eq_true_eq] at plain
  exact plain.1.1

/-- No lower case has another lower case. -/
theorem not_has_image (hr : r ∈ lowerRuns) (hq : q ∈ lowerRuns) (h : r.Has n) :
    ¬q.Has (r.image n) := by
  have nonneg := nonneg_of_isPlain (List.all_eq_true.mp all_isPlain r hr)
  have apart := List.all_eq_true.mp (List.all_eq_true.mp all_apart _ (List.mem_map_of_mem hr)) q hq
  obtain ⟨low, high, place⟩ := h
  simp only [LowerRun.apart, images, Bool.or_eq_true, Bool.and_eq_true, Nat.blt_eq, Nat.beq_eq,
    image] at apart
  simp only [Has, image]
  rintro ⟨low', high', place'⟩
  rcases apart with (below | above) | ⟨⟨step', step⟩, odd⟩
  · omega
  · omega
  · -- a step of two goes past the members, and so does a single lower case
    rw [step'] at place'
    by_cases single : r.1 = r.2.1
    · omega
    · rw [if_neg single] at step
      rw [step] at place
      omega

/-- A lower case is a character outside the other ranges. -/
theorem plain_image (hr : r ∈ lowerRuns) (h : r.Has n) :
    r.image n < 0x110000 ∧ ∀ range ∈ otherRanges, r.image n < range.1 ∨ range.2 < r.image n := by
  have plain := List.all_eq_true.mp all_isPlain r hr
  have nonneg := nonneg_of_isPlain plain
  obtain ⟨low, high, -⟩ := h
  simp only [isPlain, Bool.and_eq_true, List.all_eq_true, Bool.or_eq_true,
    decide_eq_true_eq] at plain
  simp only [image] at plain ⊢
  refine ⟨by omega, fun range mem => ?_⟩
  have outside := plain.2 range mem
  omega

end LowerRun

/-- A character without another lower case. -/
structure Settled (c : Char) : Prop where
  undotted : c ≠ 'İ'
  outside : ∀ r ∈ lowerRuns, ¬LowerRun.Has r c.toNat

namespace Settled

instance : DecidablePred Settled := fun c =>
  decidable_of_iff (c ≠ 'İ' ∧ ∀ r ∈ lowerRuns, ¬LowerRun.Has r c.toNat)
    ⟨fun h => ⟨h.1, h.2⟩, fun h => ⟨h.1, h.2⟩⟩

theorem ne_sigma (h : Settled c) : c ≠ 'Σ' := by
  rintro rfl
  exact absurd h (by decide +kernel)

theorem lowerChar_eq (h : Settled c) : lowerChar c = [c] := by
  have none : lowerRuns.find? (fun r => r.1 ≤ c.toNat && c.toNat ≤ r.2.1 &&
      (c.toNat - r.1) % r.2.2.1 == 0) = none := by
    rw [List.find?_eq_none]
    intro r hr has
    simp only [Bool.and_eq_true, decide_eq_true_eq, beq_iff_eq, and_assoc] at has
    exact h.outside r hr has
  have lower : ¬(65 ≤ c.toNat ∧ c.toNat ≤ 90) := by
    rintro ⟨low, high⟩
    exact h.outside (0x41, 0x5a, 1, 32) (by decide) ⟨low, high, Nat.mod_one _⟩
  simp only [lowerChar, if_neg lower, if_neg h.undotted, none, ite_self]

end Settled

/-- Characters of ASCII other than capitals have no other lower case. -/
theorem settled_of_ascii (ascii : c.toNat < 128) (notCapital : ¬(65 ≤ c.toNat ∧ c.toNat ≤ 90)) :
    Settled c where
  undotted := by
    rintro rfl
    exact absurd ascii (by decide)
  outside := by
    intro r hr has
    have beyond : ∀ r ∈ lowerRuns, r = (0x41, 0x5a, 1, 32) ∨ 128 ≤ r.1 := by decide +kernel
    rcases beyond r hr with rfl | above
    · exact notCapital ⟨has.1, has.2.1⟩
    · exact absurd (has.1.trans_lt ascii) (Nat.not_lt.mpr above)

/-- What the lower case of a character is made of: the character itself, or another one in its
place. -/
theorem mem_lowerChar (h : d ∈ lowerChar c) :
    Settled c ∧ d = c ∨ (d = 'i' ∨ d = '\u0307') ∨
      ∃ r ∈ lowerRuns, LowerRun.Has r c.toNat ∧ d = Char.ofNat (LowerRun.image r c.toNat) := by
  simp only [lowerChar] at h
  split_ifs at h with ascii capital dotted
  · refine .inr (.inr ⟨(0x41, 0x5a, 1, 32), by decide, ⟨capital.1, capital.2, Nat.mod_one _⟩, ?_⟩)
    exact List.mem_singleton.mp h
  · exact .inl ⟨settled_of_ascii ascii capital, List.mem_singleton.mp h⟩
  · exact .inr (.inl (by simpa using h))
  · split at h
    next r found =>
      have has := List.find?_some found
      simp only [Bool.and_eq_true, decide_eq_true_eq, beq_iff_eq, and_assoc] at has
      exact .inr (.inr ⟨r, List.mem_of_find?_eq_some found, has, List.mem_singleton.mp h⟩)
    next none =>
      refine .inl ⟨⟨dotted, fun r hr has => ?_⟩, List.mem_singleton.mp h⟩
      have missed := List.find?_eq_none.mp none r hr
      simp only [Bool.and_eq_true, decide_eq_true_eq, beq_iff_eq, and_assoc] at missed
      exact missed has

theorem toNat_ofNat_image {r : LowerRun} {n : Nat} (hr : r ∈ lowerRuns) (h : r.Has n) :
    (Char.ofNat (r.image n)).toNat = r.image n := by
  obtain ⟨small, plain⟩ := LowerRun.plain_image hr h
  have whole := plain (0xd800, 0xdfff) List.mem_cons_self
  refine toNat_ofNat ?_
  rcases whole with below | above
  · exact .inl below
  · exact .inr ⟨above, small⟩

/-- No lower case has another lower case. -/
theorem settled_of_mem_lowerChar (h : d ∈ lowerChar c) : Settled d := by
  rcases mem_lowerChar h with ⟨settled, rfl⟩ | (rfl | rfl) | ⟨r, hr, has, rfl⟩
  · exact settled
  · decide +kernel
  · decide +kernel
  · constructor
    · intro eq
      have dotted := (LowerRun.plain_image hr has).2 (0x130, 0x130) (by decide)
      rw [← toNat_ofNat_image hr has, eq] at dotted
      exact absurd dotted (by decide)
    · intro q hq
      rw [toNat_ofNat_image hr has]
      exact LowerRun.not_has_image hr hq has

theorem lowerChar_ne_nil (c : Char) : lowerChar c ≠ [] := by
  simp only [lowerChar]
  split_ifs
  · exact List.cons_ne_nil _ _
  · exact List.cons_ne_nil _ _
  · exact List.cons_ne_nil _ _
  · split <;> exact List.cons_ne_nil _ _

/-- Only a blank has a blank lower case. -/
theorem isBlank_of_mem_lowerChar (h : d ∈ lowerChar c) (blank : isBlank d) : isBlank c := by
  rcases mem_lowerChar h with ⟨-, rfl⟩ | (rfl | rfl) | ⟨r, hr, has, rfl⟩
  · exact blank
  · exact absurd blank (by decide)
  · exact absurd blank (by decide)
  · obtain ⟨range, mem, inside⟩ := List.any_eq_true.mp blank
    simp only [Bool.and_eq_true, decide_eq_true_eq, toNat_ofNat_image hr has] at inside
    have outside := (LowerRun.plain_image hr has).2 range (by simp [LowerRun.otherRanges, mem])
    omega

/-- Lower case is made character by character, of something for each. -/
theorem exists_lowerAfter_cons (before : List Char) (c : Char) (cs : List Char) :
    ∃ low, lowerAfter before (c :: cs) = low ++ lowerAfter (c :: before) cs ∧ low ≠ [] ∧
      ∀ d ∈ low, Settled d ∧ (isBlank d → isBlank c) := by
  refine ⟨_, by rw [lowerAfter], ?_, ?_⟩
  · split
    · exact List.cons_ne_nil _ _
    · exact lowerChar_ne_nil c
  · intro d hd
    split at hd
    · -- both forms of the small sigma are settled, and neither is blank
      rw [List.mem_singleton.mp hd]
      split
      · exact ⟨by decide +kernel, fun blank => absurd blank (by decide)⟩
      · exact ⟨by decide +kernel, fun blank => absurd blank (by decide)⟩
    · exact ⟨settled_of_mem_lowerChar hd, isBlank_of_mem_lowerChar hd⟩

theorem settled_of_mem_lowerAfter (h : d ∈ lowerAfter before cs) : Settled d := by
  induction cs generalizing before with
  | nil => exact absurd h List.not_mem_nil
  | cons c cs ih =>
      obtain ⟨low, eq, -, settled⟩ := exists_lowerAfter_cons before c cs
      rw [eq, List.mem_append] at h
      exact h.elim (fun h => (settled d h).1) ih

theorem lowerAfter_of_settled (h : ∀ c ∈ cs, Settled c) : lowerAfter before cs = cs := by
  induction cs generalizing before with
  | nil => rfl
  | cons c cs ih =>
      obtain ⟨first, rest⟩ := List.forall_mem_cons.mp h
      rw [lowerAfter, if_neg first.ne_sigma, first.lowerChar_eq, ih rest, List.singleton_append]

/-- Lower case leaves no blanks at the ends where there were none. -/
theorem trimmed_lowerAfter (h : Trimmed isBlank cs) : Trimmed isBlank (lowerAfter before cs) where
  first := by
    cases cs with
    | nil => exact h.first
    | cons c cs =>
        obtain ⟨low, eq, nonempty, blank⟩ := exists_lowerAfter_cons before c cs
        obtain ⟨e, low, rfl⟩ := List.exists_cons_of_ne_nil nonempty
        rw [eq]
        rintro d ⟨⟩ isBlank
        exact h.first c rfl ((blank e List.mem_cons_self).2 isBlank)
  last := by
    obtain ⟨-, last⟩ := h
    induction cs generalizing before with
    | nil => exact last
    | cons c cs ih =>
        obtain ⟨low, eq, nonempty, blank⟩ := exists_lowerAfter_cons before c cs
        rw [eq]
        cases cs with
        | nil =>
            intro d hd isBlank
            rw [lowerAfter, List.append_nil] at hd
            exact last c rfl ((blank d (List.mem_of_getLast? hd)).2 isBlank)
        | cons c' cs =>
            obtain ⟨low', eq', nonempty', -⟩ := exists_lowerAfter_cons (c :: before) c' cs
            have rest : lowerAfter (c :: before) (c' :: cs) ≠ [] := by
              rw [eq']
              exact List.append_ne_nil_of_left_ne_nil nonempty' _
            rw [List.getLast?_append_of_ne_nil _ rest]
            exact ih last

/-! ## Folded text -/

variable {s : String}

theorem lower_lower (s : String) : lower (lower s) = lower s := by
  rw [lower, lower, String.toList_ofList, lowerAfter_of_settled]
  exact fun _ => settled_of_mem_lowerAfter

theorem strip_fold (s : String) : strip (fold s) = fold s := by
  rw [fold, lower, strip_ofList, trimWhile_of_trimmed]
  refine trimmed_lowerAfter ?_
  rw [strip, String.toList_ofList]
  exact trimmed_trimWhile _ _

theorem lower_fold (s : String) : lower (fold s) = fold s := lower_lower _

/-- Blanks in front are left out. -/
theorem fold_append (h : ∀ c ∈ ds, isBlank c) (cs : List Char) :
    fold (String.ofList (ds ++ cs)) = fold (String.ofList cs) := by
  rw [fold, fold, strip_ofList, strip_ofList, trimWhile_append h]

theorem fold_ne_empty (h : strip s ≠ "") : fold s ≠ "" := by
  rw [fold, lower, Ne, String.ofList_eq_empty_iff]
  cases chars : (strip s).toList with
  | nil => exact absurd (String.toList_eq_nil_iff.mp chars) h
  | cons c cs =>
      obtain ⟨low, eq, nonempty, -⟩ := exists_lowerAfter_cons [] c cs
      rw [eq]
      exact List.append_ne_nil_of_left_ne_nil nonempty _

end RouletteStrategy.Text
