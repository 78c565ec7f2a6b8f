import RouletteStrategy.Text.CodeRange
import RouletteStrategy.Text.Half
import RouletteStrategy.Text.PrintableTable

/-! # Quoted text: delimiters, escapes and the choice of quote -/

namespace RouletteStrategy.Text

/-- A number in hexadecimal, padded with zeros to a width. -/
def hex (width n : Nat) : List Char :=
  let ds := Nat.toDigits 16 n
  List.replicate (width - ds.length) '0' ++ ds

/-- The escape of a code unit: four hexadecimal digits. -/
def unitEscape (n : Nat) : List Char := '\\' :: 'u' :: hex 4 n

/-- How a code point is written between two quotes. -/
def quotePoint (quote : Char) (n : Nat) : List Char :=
  if inRanges unprintableRanges n then
    if n = '\n'.toNat then ['\\', 'n']
    else if n = '\r'.toNat then ['\\', 'r']
    else if n = '\t'.toNat then ['\\', 't']
    else if n < 0x100 then '\\' :: 'x' :: hex 2 n
    else if n < 0x10000 then unitEscape n
    else '\\' :: 'U' :: hex 8 n
  else
    let c := Char.ofNat n
    if c = quote ∨ c = '\\' then ['\\', c] else [c]

/-- Single quotes, unless the text holds one and no double quote. -/
def quotedChars (cs : List Char) : List Char :=
  let quote := if cs.contains '\'' && !cs.contains '"' then '"' else '\''
  quote :: ((pointsOf cs).flatMap (quotePoint quote) ++ [quote])

def quoted (s : String) : String := String.ofList (quotedChars s.toList)

end RouletteStrategy.Text
