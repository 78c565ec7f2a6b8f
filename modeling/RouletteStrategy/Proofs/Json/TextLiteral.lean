import Mathlib.Tactic.SplitIfs
import RouletteStrategy.Json.Parser
import RouletteStrategy.Json.Printer

/-!
# Texts between quotes read back

One character at a time: what a character is written as is read as that character, whatever follows
(`text_escapeChar`).
-/

namespace RouletteStrategy.Json

namespace Parser

/-- Control characters are written with two hexadecimal digits after two zeros. -/
theorem hex_control : ∀ n < 0x20,
    Text.hex 4 n = ['0', '0', (n / 16).digitChar, (n % 16).digitChar] := by
  decide

theorem unit?_control : ∀ n < 0x20,
    unit? '0' '0' (n / 16).digitChar (n % 16).digitChar = some n := by
  decide

/-- An escape with one letter denotes its character. -/
theorem text_letterEscape {e c : Char} (he : escaped? e = some c) (hu : e ≠ 'u')
    (done cs : List Char) :
    text none done ('\\' :: e :: cs) = text none (c :: done) cs := by
  rw [text.eq_4 _ _ _ _ fun _ _ _ _ _ h => absurd h hu, he]
  rfl

theorem text_unitEscape {n : Nat} (hn : n < 0x20) (done cs : List Char) :
    text none done (Text.unitEscape n ++ cs) = text none (Char.ofNat n :: done) cs := by
  have high : Text.isHighHalf n = false := by simp [Text.isHighHalf]; omega
  have half : Text.isHalf n = false := by simp [Text.isHalf, Text.isHighHalf, Text.isLowHalf]; omega
  have mark : n ≠ Text.mark.toNat := by rw [show Text.mark.toNat = 0xd7ff from rfl]; omega
  rw [Text.unitEscape, hex_control n hn, List.cons_append, List.cons_append, List.cons_append,
    List.cons_append, List.cons_append, List.cons_append, List.nil_append, text.eq_3,
    unit?_control n hn]
  simp [high, put, settle, Text.spell, half, mark]

/-- What a character is written as is read as that character. -/
theorem text_escapeChar (c : Char) (done cs : List Char) :
    text none done (escapeChar c ++ cs) = text none (c :: done) cs := by
  unfold escapeChar
  split_ifs with quote backslash lineFeed carriageReturn tab backspace formFeed control
  · subst quote; exact text_letterEscape rfl (by decide) done cs
  · subst backslash; exact text_letterEscape rfl (by decide) done cs
  · subst lineFeed; exact text_letterEscape rfl (by decide) done cs
  · subst carriageReturn; exact text_letterEscape rfl (by decide) done cs
  · subst tab; exact text_letterEscape rfl (by decide) done cs
  · subst backspace; exact text_letterEscape rfl (by decide) done cs
  · subst formFeed; exact text_letterEscape rfl (by decide) done cs
  · rw [text_unitEscape control, Char.ofNat_toNat]
  · rw [List.singleton_append, text.eq_5 _ _ _ _ quote (fun _ _ _ _ _ h => absurd h backslash)
      (fun _ _ h => absurd h backslash), if_neg control, settle]

/-- A text reads back from what stands between its quotes. -/
theorem text_flatMap_escapeChar (s done cs : List Char) :
    text none done (s.flatMap escapeChar ++ '"' :: cs) = some (done.reverse ++ s, cs) := by
  induction s generalizing done with
  | nil => simp [text.eq_2, settle]
  | cons c s ih =>
      rw [List.flatMap_cons, List.append_assoc, text_escapeChar, ih]
      simp

end Parser
end RouletteStrategy.Json
