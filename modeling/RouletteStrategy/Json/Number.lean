import RouletteStrategy.Json.Basic
import RouletteStrategy.Numeric.Decimal

/-! # Text of numbers inside values -/

namespace RouletteStrategy.Json

/-- Sixteen digits before the point, three zeros after it, and exponents of two digits or more. -/
def numberLayout : Decimal.Layout := ⟨-3, 16, 2⟩

/-- The words for values that have no digits. -/
structure NumberWords where
  infinity : String
  nan : String

def integerText (i : Int) : List Char :=
  (if i < 0 then ['-'] else []) ++ Decimal.digitChars i.natAbs

def floatText (words : NumberWords) : Binary64 → List Char
  | .finite s m q h =>
    (if s then ['-'] else []) ++ (Binary64.finite s m q h).shortest.render numberLayout
  | .infinite s => (if s then ['-'] else []) ++ words.infinity.toList
  | .nan => words.nan.toList

end RouletteStrategy.Json
