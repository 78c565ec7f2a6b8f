import Mathlib.Data.List.TakeWhile
import RouletteStrategy.Proofs.Json.Values
import RouletteStrategy.Proofs.Text.Folding
import RouletteStrategy.Spin.Token

/-!
# Spins as they are read

Reading a history gives wheel numbers and folded words that denote no number and are no synonyms
(`History.canonical_of_read`). A text that denotes an integer denotes a number
(`Literal.isSome_float?`), so it is never kept as a word.
-/

namespace RouletteStrategy

namespace Literal

/-- Digits without a point and an exponent are a decimal. -/
theorem isSome_decimal? {ds : List Char} (nonempty : ds ≠ []) (digits : ds.all Char.isDigit) :
    (decimal? ds).isSome := by
  have digit : ∀ d ∈ ds, d.isDigit := List.all_eq_true.mp digits
  have whole : ds.takeWhile Char.isDigit = ds := List.takeWhile_eq_self_iff.mpr digit
  have rest : ds.dropWhile Char.isDigit = [] := List.dropWhile_eq_nil_iff.mpr digit
  simp [decimal?, whole, rest, nonempty, exponent?]

/-- A text that denotes an integer denotes a number. -/
theorem isSome_float? {s : String} {i : Int} (h : int? s = some i) : (float? s).isSome := by
  obtain ⟨cs, body, h⟩ := Option.bind_eq_some_iff.mp h
  split at h
  · cases h
  simp only [signedDigits?] at h
  split at h
  · cases h
  next signed =>
    simp only [Bool.or_eq_true, Bool.not_eq_true', not_or, Bool.not_eq_true,
      Bool.not_eq_false] at signed
    have decimal := isSome_decimal? (List.isEmpty_eq_false_iff.mp signed.1) signed.2
    simp only [float?, body, Option.bind_eq_bind, Option.bind_some]
    split_ifs
    · rfl
    · rfl
    · rw [Option.isSome_map, decimal]

end Literal

namespace Token

/-- A wheel number, or a word that denotes no number. -/
def Normal : Token → Prop
  | .number n => Wheel.OnWheel n
  | .word w => Literal.float? w = none

instance : DecidablePred Normal
  | .number n => inferInstanceAs (Decidable (Wheel.OnWheel n))
  | .word w => inferInstanceAs (Decidable (Literal.float? w = none))

/-- A wheel number, or a word in the form in which it is kept: not empty, without blanks at its
ends, in lower case, no text of a number and none of the synonyms. -/
inductive Canonical : Token → Prop where
  | number {n : Int} (onWheel : Wheel.OnWheel n) : Canonical (.number n)
  | word {w : String} (nonempty : w ≠ "") (stripped : Text.strip w = w) (lower : Text.lower w = w)
      (notNumber : Literal.float? w = none) (notRed : w ≠ "red") (notBlack : w ≠ "black") :
      Canonical (.word w)

variable {t : Token}

theorem Canonical.normal (h : t.Canonical) : t.Normal := by
  cases h with
  | number onWheel => exact onWheel
  | word _ _ _ notNumber => exact notNumber

theorem canonical_name (c : Category) : (word c.name).Canonical := by
  cases c <;> exact .word (by decide) (by decide +kernel) (by decide +kernel) (by decide +kernel)
    (by decide) (by decide)

theorem canonical_of_ofInt? {i : Int} (h : ofInt? i = some t) : t.Canonical := by
  unfold ofInt? at h
  split_ifs at h with onWheel
  cases h
  exact .number onWheel

theorem canonical_of_ofFloat? {x : Binary64} (h : ofFloat? x = some t) : t.Canonical := by
  unfold ofFloat? at h
  split_ifs at h
  exact canonical_of_ofInt? h

theorem canonical_of_ofText? {s : String} (h : ofText? s = some t) : t.Canonical := by
  simp only [ofText?] at h
  split_ifs at h with empty
  split at h
  next c _ =>
    cases h
    exact canonical_name c
  next other =>
    split at h
    next x _ => exact canonical_of_ofFloat? h
    next notNumber =>
      cases h
      refine .word empty (Text.strip_fold s) (Text.lower_fold s) notNumber ?_ ?_ <;>
      · intro eq
        rw [eq] at other
        cases other

theorem readMembers_eq (ms : Json.Object) :
    readMembers ms = ms.map fun kv => (kv.1, read? kv.2) := by
  induction ms with
  | nil => rfl
  | cons kv ms ih => rw [readMembers, ih, List.map_cons]

/-- A record gives the spin of one of its members. -/
theorem exists_of_ofRecord? {ms : Members (Option Token)} (h : ofRecord? ms = some t) :
    ∃ kv ∈ ms, kv.2 = some t := by
  have found := Option.join_eq_some_iff.mp h
  obtain ⟨field, -, lookup⟩ := List.exists_of_findSome?_eq_some found
  exact ⟨_, Members.mem_of_get? lookup, rfl⟩

theorem canonical_of_read? {v : Json} (h : read? v = some t) : t.Canonical := by
  induction v using Json.ind generalizing t with
  | int i =>
      rw [read?] at h
      exact canonical_of_ofInt? h
  | float x =>
      rw [read?] at h
      exact canonical_of_ofFloat? h
  | str s =>
      rw [read?] at h
      exact canonical_of_ofText? h
  | obj ms ih =>
      rw [read?, readMembers_eq] at h
      obtain ⟨kv, member, spin⟩ := exists_of_ofRecord? h
      obtain ⟨kw, original, rfl⟩ := List.mem_map.mp member
      exact ih kw original spin
  | null | bool | arr => simp [read?] at h

end Token

namespace History

/-- Every spin is a wheel number or a word that denotes no number. -/
def Normal (h : History) : Prop := ∀ t ∈ h, t.Normal

variable {h : History}

theorem onWheel_of_mem_numbers (normal : h.Normal) : ∀ n ∈ h.numbers, Wheel.OnWheel n := by
  intro n mem
  obtain ⟨t, spin, number⟩ := List.mem_filterMap.mp mem
  cases t with
  | number m =>
      cases number
      exact normal _ spin
  | word w => cases number

theorem canonical_of_read {v : Json} (spins : read v = .ok h) : ∀ t ∈ h, t.Canonical := by
  intro t mem
  cases v with
  | null =>
      obtain rfl : [] = h := Except.ok.inj spins
      exact absurd mem List.not_mem_nil
  | str s =>
      obtain rfl : (Token.ofText? s).toList = h := Except.ok.inj spins
      exact Token.canonical_of_ofText? (Option.mem_toList.mp mem)
  | obj ms =>
      obtain rfl : (Token.read? (.obj ms)).toList = h := Except.ok.inj spins
      exact Token.canonical_of_read? (Option.mem_toList.mp mem)
  | arr vs =>
      obtain rfl : vs.filterMap Token.read? = h := Except.ok.inj spins
      obtain ⟨v, -, spin⟩ := List.mem_filterMap.mp mem
      exact Token.canonical_of_read? spin
  | bool | int | float => cases spins

theorem canonical_of_parse {s : String} : ∀ t ∈ parse s, t.Canonical := by
  intro t mem
  obtain ⟨piece, -, spin⟩ := List.mem_filterMap.mp mem
  exact Token.canonical_of_ofText? spin

theorem normal_of_read {v : Json} (spins : read v = .ok h) : h.Normal := fun t mem =>
  (canonical_of_read spins t mem).normal

end History
end RouletteStrategy
