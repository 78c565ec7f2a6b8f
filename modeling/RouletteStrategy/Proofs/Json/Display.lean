import Mathlib.Tactic.SplitIfs
import RouletteStrategy.Json.Display
import RouletteStrategy.Proofs.Numeric.Digits

/-! # The text of a value that is set is not empty -/

namespace RouletteStrategy

theorem Decimal.render_ne_nil (layout : Layout) (d : Decimal) : d.render layout ≠ [] := by
  have digits : digitChars d.digits ≠ [] :=
    List.ne_nil_of_length_pos (length_digitChars_pos d.digits)
  simp only [render, positional]
  split_ifs
  all_goals simp [scientific, digits]

namespace Json

theorem floatText_ne_nil {words : NumberWords} (infinity : words.infinity ≠ "")
    (nan : words.nan ≠ "") (x : Binary64) : floatText words x ≠ [] := by
  cases x <;> simp [floatText, Decimal.render_ne_nil, infinity, nan]

theorem inspect_ne_nil {v : Json} (h : ∀ s, v ≠ .str s) : v.inspect ≠ [] := by
  cases v with
  | int i => simp [inspect, integerText, Decimal.digitChars]
  | float x => exact floatText_ne_nil (by decide) (by decide) x
  | str s => exact absurd rfl (h s)
  | bool b => cases b <;> simp [inspect]
  | _ => simp [inspect]

/-- What is set has some text. -/
theorem display_ne_empty {v : Json} (h : v.isSet) : v.display ≠ "" := by
  cases v with
  | str s => simpa [isSet, display] using h
  | _ =>
      rw [display]
      · simpa using inspect_ne_nil (by simp)
      · simp

end Json
end RouletteStrategy
