import Mathlib.Tactic.SplitIfs
import RouletteStrategy.Json.Display
import RouletteStrategy.Proofs.Json.Values
import RouletteStrategy.Proofs.Numeric.Digits

/-!
# Text without marks

Numbers, escapes and quoted texts are written without the mark that stands before halves, whatever
they are made of. So is every value but a text (`Json.mark_notMem_inspect`).
-/

namespace RouletteStrategy

open Text (mark)

namespace Decimal

theorem mark_notMem_digitChars (n : Nat) : mark ∉ digitChars n := fun h =>
  absurd (isDigit_of_mem_digitChars h) (by decide)

theorem mark_notMem_positional {ds : List Char} (h : mark ∉ ds) (point : Int) :
    mark ∉ positional ds point := by
  have taken := fun k (hk : mark ∈ ds.take k) => h (List.mem_of_mem_take hk)
  have dropped := fun k (hk : mark ∈ ds.drop k) => h (List.mem_of_mem_drop hk)
  have other : mark ∉ ['0', '.'] := by decide
  unfold positional
  split_ifs <;> simp_all [List.mem_replicate]

theorem mark_notMem_scientific {ds : List Char} (h : mark ∉ ds) (width : Nat) (e : Int) :
    mark ∉ scientific width ds e := by
  have other : mark ∉ ['0', '.', 'e', '-', '+'] := by decide
  have tail : mark ∉ 'e' :: (if e < 0 then '-' else '+') ::
      (List.replicate (width - (digitChars e.natAbs).length) '0' ++ digitChars e.natAbs) := by
    have digits := mark_notMem_digitChars e.natAbs
    split_ifs <;> simp_all [List.mem_replicate]
  cases ds with
  | nil => exact tail
  | cons d r =>
      have body : mark ∉ (if r.isEmpty then [d] else d :: '.' :: r) := by
        split_ifs <;> simp_all
      exact fun mem => (List.mem_append.mp mem).elim body tail

theorem mark_notMem_render (layout : Layout) (d : Decimal) : mark ∉ d.render layout := by
  have digits := mark_notMem_digitChars d.digits
  simp only [render]
  split_ifs
  · decide
  · exact mark_notMem_positional digits _
  · exact mark_notMem_scientific digits _ _

end Decimal

namespace Text

theorem mark_notMem_toDigits (n : Nat) : mark ∉ Nat.toDigits 16 n := by
  have digit : ∀ k < 16, mark ≠ k.digitChar := by decide
  induction n using Nat.strongRecOn with
  | _ n ih =>
      rw [Nat.toDigits_eq_if (by decide)]
      split_ifs with small
      · exact fun h => digit n small (List.mem_singleton.mp h)
      · rw [List.mem_append, List.mem_singleton, not_or]
        exact ⟨ih (n / 16) (by omega), digit _ (Nat.mod_lt _ (by decide))⟩

theorem mark_notMem_hex (width n : Nat) : mark ∉ hex width n := by
  have zero : mark ≠ '0' := by decide
  rw [hex, List.mem_append, List.mem_replicate, not_or]
  exact ⟨fun h => zero h.2, mark_notMem_toDigits n⟩

theorem mark_notMem_unitEscape (n : Nat) : mark ∉ unitEscape n := by
  have other : mark ≠ '\\' ∧ mark ≠ 'u' := by decide
  simp [unitEscape, mark_notMem_hex, other]

theorem ofNat_ne_mark {n : Nat} (h : n ≠ mark.toNat) : Char.ofNat n ≠ mark := by
  intro eq
  by_cases valid : n.isValidChar
  · exact h (by rw [← eq, toNat_ofNat valid])
  · rw [Char.ofNat, dif_neg valid] at eq
    exact absurd eq (by decide)

/-- The mark has no printed form, so between quotes it is escaped. -/
theorem mark_notMem_quotePoint (quote : Char) (n : Nat) : mark ∉ quotePoint quote n := by
  have other : mark ∉ ['\\', 'n', 'r', 't', 'x', 'U'] := by decide
  unfold quotePoint
  by_cases hidden : inRanges unprintableRanges n
  · rw [if_pos hidden]
    split_ifs <;> simp_all [mark_notMem_hex, mark_notMem_unitEscape]
  · have printed : mark ≠ Char.ofNat n := by
      refine (ofNat_ne_mark ?_).symm
      rintro rfl
      exact hidden (by decide +kernel)
    rw [if_neg hidden]
    dsimp only
    split_ifs <;> simp_all

theorem mark_notMem_quotedChars (cs : List Char) : mark ∉ quotedChars cs := by
  have quotes : mark ≠ '"' ∧ mark ≠ '\'' := by decide
  have points : ∀ quote, mark ∉ (pointsOf cs).flatMap (quotePoint quote) := by
    intro quote h
    obtain ⟨n, -, h⟩ := List.mem_flatMap.mp h
    exact mark_notMem_quotePoint quote n h
  simp only [quotedChars]
  split_ifs <;> simp [points, quotes]

end Text

namespace Json

theorem mark_notMem_integerText (i : Int) : mark ∉ integerText i := by
  have sign : mark ≠ '-' := by decide
  unfold integerText
  split_ifs <;> simp [Decimal.mark_notMem_digitChars, sign]

theorem mark_notMem_floatText {words : NumberWords} (infinity : mark ∉ words.infinity.toList)
    (nan : mark ∉ words.nan.toList) (x : Binary64) : mark ∉ floatText words x := by
  have sign : mark ≠ '-' := by decide
  cases x with
  | nan => exact nan
  | infinite s => cases s <;> simp [floatText, infinity, sign]
  | finite s m q h => cases s <;> simp [floatText, Decimal.mark_notMem_render, sign]

theorem mark_notMem_inspectItems {xs : List Json} (h : ∀ x ∈ xs, mark ∉ x.inspect) :
    mark ∉ inspectItems xs := by
  have other : mark ≠ ',' ∧ mark ≠ ' ' := by decide
  induction xs with
  | nil => exact List.not_mem_nil
  | cons x xs ih =>
      obtain ⟨first, rest⟩ := List.forall_mem_cons.mp h
      unfold inspectItems
      split_ifs <;> simp [first, ih rest, other]

theorem mark_notMem_inspectMembers {ms : Object} (h : ∀ kv ∈ ms, mark ∉ kv.2.inspect) :
    mark ∉ inspectMembers ms := by
  have other : mark ≠ ',' ∧ mark ≠ ' ' ∧ mark ≠ ':' := by decide
  induction ms with
  | nil => exact List.not_mem_nil
  | cons kv ms ih =>
      obtain ⟨first, rest⟩ := List.forall_mem_cons.mp h
      unfold inspectMembers
      split_ifs <;> simp [first, ih rest, other, Text.mark_notMem_quotedChars]

/-- Texts inside a list or object are quoted, so no part of it has a mark. -/
theorem mark_notMem_inspect (v : Json) : mark ∉ v.inspect := by
  have other : mark ∉ ['[', ']', '\x7b', '\x7d'] := by decide
  induction v using ind with
  | null => decide
  | bool b => cases b <;> decide
  | int i => exact mark_notMem_integerText i
  | float x => exact mark_notMem_floatText (by decide) (by decide) x
  | str s => exact Text.mark_notMem_quotedChars _
  | arr xs ih =>
      have items := mark_notMem_inspectItems ih
      simp_all [inspect]
  | obj ms ih =>
      have members := mark_notMem_inspectMembers ih
      simp_all [inspect]

end Json
end RouletteStrategy
