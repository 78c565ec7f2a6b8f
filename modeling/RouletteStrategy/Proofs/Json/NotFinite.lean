import RouletteStrategy.Json.Reading
import RouletteStrategy.Proofs.Json.Values
import RouletteStrategy.Proofs.Spin.History
import RouletteStrategy.Proofs.Text.Folding
import RouletteStrategy.Wheel.Numbers

/-!
# Null in the place of numbers that are not finite

A value that is read as a number, or as a list of numbers or spins, is read alike with null in the
place of its numbers that are not finite (`Json.finiteNumber?_finite`, `Json.readToken?_finite`). A
truth value or a text that is one of them is not: there null gives way to a default, and the number
does not (`Json.flag_finite`, `Json.wordOr_finite`).
-/

namespace RouletteStrategy

namespace Json

/-- A number that is not finite. -/
def IsStray (v : Json) : Prop := ∃ x : Binary64, v = .float x ∧ x.isFinite = false

variable {v : Json} {x : Binary64}

theorem eq_null_of_isNull (h : v.isNull) : v = .null := by
  cases v with
  | null => rfl
  | _ => cases h

theorem isNull_finite_iff (v : Json) : v.finite.isNull ↔ v.isNull ∨ v.IsStray := by
  cases v with
  | float x =>
      rw [finite]
      split
      next finite => simp [isNull, IsStray, finite]
      next stray => simp [isNull, IsStray, stray]
  | _ => simp [finite, isNull, IsStray]

theorem isNull_finite (kept : ¬ v.IsStray) : v.finite.isNull = v.isNull := by
  rw [Bool.eq_iff_iff, isNull_finite_iff, or_iff_left kept]

theorem finite_of_isStray (stray : v.IsStray) : v.finite = .null := by
  obtain ⟨x, rfl, notFinite⟩ := stray
  rw [finite, if_neg (Bool.eq_false_iff.mp notFinite)]

theorem not_isStray_of_isFinite (h : v.isFinite) : ¬ v.IsStray := by
  rintro ⟨x, rfl, stray⟩
  exact Bool.eq_false_iff.mp stray h

/-! ## Numbers, lists and truth values -/

theorem finiteNumber?_finite (v : Json) : v.finite.finiteNumber? = v.finiteNumber? := by
  cases v with
  | float x =>
      rw [finite]
      split
      · rfl
      next stray => simp [finiteNumber?, Option.filter, stray]
  | _ => simp [finite, finiteNumber?]

theorem wholeNumber?_finite (v : Json) : v.finite.wholeNumber? = v.wholeNumber? := by
  cases v with
  | float x =>
      rw [finite]
      split
      · rfl
      next stray => simp [wholeNumber?, Binary64.isInteger, stray]
  | _ => simp [finite, wholeNumber?]

theorem items_finite (v : Json) : v.finite.items = v.items.map finite := by
  cases v with
  | arr xs => rw [finite_arr, items, items]
  | float x =>
      rw [finite]
      split <;> rfl
  | _ => simp [finite, items]

theorem finite_float (kept : ¬ (float x).IsStray) : (float x).finite = .float x := by
  have finite : x.isFinite := Bool.of_not_eq_false fun stray => kept ⟨x, rfl, stray⟩
  exact if_pos finite

theorem flag_finite (kept : ¬ v.IsStray) (default : Bool) :
    v.finite.flag default = v.flag default := by
  cases v with
  | float x => rw [finite_float kept]
  | arr xs => cases xs <;> rfl
  | obj ms => cases ms <;> rfl
  | _ => rfl

/-- A number that is not finite counts as true. -/
theorem flag_finite_true (v : Json) : v.finite.flag true = v.flag true := by
  by_cases stray : v.IsStray
  · rw [finite_of_isStray stray]
    obtain ⟨x, rfl, notFinite⟩ := stray
    cases x with
    | finite => cases notFinite
    | infinite | nan => rfl
  · exact flag_finite stray true

/-! ## Spins -/

/-- Neither a number that is not finite nor null is a spin. -/
theorem readToken?_finite (v : Json) : Token.read? v.finite = Token.read? v := by
  induction v using ind with
  | float x =>
      by_cases stray : (float x).IsStray
      · rw [finite_of_isStray stray]
        obtain ⟨_, ⟨⟩, notFinite⟩ := stray
        simp [Token.read?, Token.ofFloat?, Binary64.isInteger, notFinite]
      · rw [finite_float stray]
  | obj ms ih =>
      have members : (ms.map fun kv => (kv.1, kv.2.finite)).map
          (fun kv => (kv.1, Token.read? kv.2)) = ms.map fun kv => (kv.1, Token.read? kv.2) := by
        rw [List.map_map]
        exact List.map_congr_left fun kv hkv => congrArg (Prod.mk kv.1) (ih kv hkv)
      rw [finite_obj, Token.read?, Token.read?, Token.readMembers_eq, Token.readMembers_eq, members]
  | _ => rfl

theorem filterMap_finite {α : Type} {f : Json → Option α} (same : ∀ v, f v.finite = f v)
    (vs : List Json) : (vs.map finite).filterMap f = vs.filterMap f := by
  rw [List.filterMap_map]
  exact congrArg (List.filterMap · vs) (funext same)

theorem readNumber?_finite (v : Json) : Token.readNumber? v.finite = Token.readNumber? v := by
  rw [Token.readNumber?, readToken?_finite, Token.readNumber?]

theorem readNumbers_finite (vs : List Json) :
    Wheel.readNumbers (vs.map finite) = Wheel.readNumbers vs := by
  rw [Wheel.readNumbers, filterMap_finite wholeNumber?_finite, Wheel.readNumbers]

end Json

/-! ## Words -/

/-- A word that no text in use is equal to: that of a number that is not finite, or of a list or an
object. -/
def StrangeWord (w : String) : Prop :=
  w ∈ ["nan", "inf", "-inf"] ∨ w.toList.head? ∈ [some '[', some '\x7b']

instance : DecidablePred StrangeWord := fun w =>
  inferInstanceAs (Decidable (w ∈ _ ∨ w.toList.head? ∈ _))

/-- Lower case keeps an opening bracket. -/
theorem Text.head?_fold {c d : Char} (cs : List Char) (first : ¬ isBlank c) (last : ¬ isBlank d)
    (ascii : lowerChar c = [c]) (other : c ≠ 'Σ') :
    (fold (String.ofList (c :: (cs ++ [d])))).toList.head? = some c := by
  have trimmed : Trimmed isBlank (c :: (cs ++ [d])) := by
    refine ⟨by simpa using first, ?_⟩
    rw [← List.cons_append, List.getLast?_concat]
    simpa using last
  rw [fold, strip_ofList, trimWhile_of_trimmed trimmed, lower, String.toList_ofList,
    String.toList_ofList, lowerAfter, if_neg other, ascii]
  rfl

namespace Json

variable {v : Json} {p default : String}

theorem word_eq {s : String} (named : Text.fold s ≠ "") (default : String) :
    (if Text.strip s = "" then default else Text.lower (Text.strip s)) = Text.fold s := by
  refine if_neg fun blank => named ?_
  rw [Text.fold, blank]
  rfl

theorem strangeWord_of_isStray (stray : v.IsStray) (default : String) :
    StrangeWord (v.wordOr default) := by
  obtain ⟨x, rfl, notFinite⟩ := stray
  have word : Text.fold (float x).display ∈ ["nan", "inf", "-inf"] := by
    cases x with
    | finite => cases notFinite
    | infinite s => cases s <;> decide +kernel
    | nan => decide +kernel
  have named : Text.fold (float x).display ≠ "" := by
    intro empty
    rw [empty] at word
    exact absurd word (by decide)
  have whole : (float x).wordOr default = Text.fold (float x).display := word_eq named default
  exact .inl (whole ▸ word)

theorem head?_word {c : Char} {s : String} (first : (Text.fold s).toList.head? = some c)
    (default : String) :
    (if Text.strip s = "" then default else Text.lower (Text.strip s)).toList.head? = some c := by
  have named : Text.fold s ≠ "" := by
    intro empty
    rw [empty] at first
    cases first
  rw [word_eq named, first]

theorem strangeWord_arr (xs : List Json) (default : String) :
    StrangeWord ((arr xs).wordOr default) := by
  have first := Text.head?_fold (c := '[') (d := ']') (inspectItems xs) (by decide +kernel)
    (by decide +kernel) (by decide +kernel) (by decide)
  exact .inr (List.mem_cons.mpr (.inl (head?_word first default)))

theorem strangeWord_obj (ms : Object) (default : String) :
    StrangeWord ((obj ms).wordOr default) := by
  have first := Text.head?_fold (c := '\x7b') (d := '\x7d') (inspectMembers ms)
    (by decide +kernel) (by decide +kernel) (by decide +kernel) (by decide)
  exact .inr (List.mem_cons_of_mem _ (List.mem_singleton.mpr (head?_word first default)))

/-- A value with null for a part of it is the same word, unless it is no text. -/
theorem wordOr_finite (kept : ¬ v.IsStray) (default : String) :
    v.finite.wordOr default = v.wordOr default ∨
      StrangeWord (v.finite.wordOr default) ∧ StrangeWord (v.wordOr default) := by
  cases v with
  | float x => exact .inl (by rw [finite_float kept])
  | arr xs => exact .inr ⟨strangeWord_arr _ _, strangeWord_arr _ _⟩
  | obj ms => exact .inr ⟨strangeWord_obj _ _, strangeWord_obj _ _⟩
  | _ => exact .inl rfl

theorem wordOr_finite_iff_of_kept (kept : ¬ v.IsStray) (plain : ¬ StrangeWord p) :
    v.finite.wordOr default = p ↔ v.wordOr default = p := by
  rcases wordOr_finite kept default with same | ⟨strange, strange'⟩
  · rw [same]
  · refine iff_of_false ?_ ?_
    · rintro rfl
      exact plain strange
    · rintro rfl
      exact plain strange'

/-- Where the default is another word, a number that is not finite may be missing. -/
theorem wordOr_finite_iff (plain : ¬ StrangeWord p) (other : default ≠ p) :
    v.finite.wordOr default = p ↔ v.wordOr default = p := by
  by_cases stray : v.IsStray
  · rw [finite_of_isStray stray]
    refine iff_of_false other ?_
    rintro rfl
    exact plain (strangeWord_of_isStray stray default)
  · exact wordOr_finite_iff_of_kept stray plain

end Json
end RouletteStrategy
