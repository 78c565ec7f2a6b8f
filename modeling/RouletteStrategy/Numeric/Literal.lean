import RouletteStrategy.Numeric.Decimal
import RouletteStrategy.Text.Blank
import RouletteStrategy.Text.Digit

/-!
# Numbers written as text

Digits of every script count, blanks may stand around a number, and single underscores may stand
between digits.
-/

namespace RouletteStrategy.Literal

/-- A digit beyond ASCII as an ASCII digit, a blank beyond ASCII as a space. -/
def plainChar (c : Char) : Char :=
  if c.toNat < 128 then c
  else if Text.isBlank c then ' '
  else match Text.digitValue? c with
    | some d => Char.ofNat ('0'.toNat + d)
    | none => c

/-- The blanks of ASCII allowed around a number. -/
def isMargin (c : Char) : Bool := c == ' ' || ('\t' ≤ c && c ≤ '\r')

/-- Digits without the underscores between them; none if an underscore stands elsewhere. -/
def ungroup (afterDigit : Bool) : List Char → Option (List Char)
  | [] => some []
  | c :: cs =>
    if c = '_' then
      if afterDigit && cs.head?.any Char.isDigit then ungroup false cs else none
    else (ungroup c.isDigit cs).map (c :: ·)

/-- The characters of a number, with margins and underscores removed. -/
def body? (s : String) : Option (List Char) :=
  ungroup false (Text.trimWhile isMargin (s.toList.map plainChar))

/-- A sign in front, if any, and what follows it. -/
def sign : List Char → Bool × List Char
  | '-' :: cs => (true, cs)
  | '+' :: cs => (false, cs)
  | cs => (false, cs)

/-- An integer with an optional sign. -/
def signedDigits? (cs : List Char) : Option Int :=
  let (negative, ds) := sign cs
  if ds.isEmpty || !ds.all Char.isDigit then none
  else
    let n : Int := Text.natOfDigits ds
    some (if negative then -n else n)

/-- Integers have at most this many digits. -/
def maxDigits : Nat := 4300

def int? (s : String) : Option Int := do
  let cs ← body? s
  if maxDigits < (sign cs).2.length then none else signedDigits? cs

/-- The exponent after a mantissa: empty, or a letter and a signed integer. -/
def exponent? : List Char → Option Int
  | [] => some 0
  | c :: cs => if c = 'e' ∨ c = 'E' then signedDigits? cs else none

/-- Digits with at most one point among them, and an optional exponent. -/
def decimal? (cs : List Char) : Option Decimal :=
  let whole := cs.takeWhile Char.isDigit
  let rest := cs.dropWhile Char.isDigit
  let (frac, rest) := match rest with
    | '.' :: r => (r.takeWhile Char.isDigit, r.dropWhile Char.isDigit)
    | r => ([], r)
  if whole.isEmpty && frac.isEmpty then none
  else (exponent? rest).map fun e => ⟨Text.natOfDigits (whole ++ frac), e - frac.length⟩

def float? (s : String) : Option Binary64 := do
  let cs ← body? s
  let (negative, cs) := sign cs
  let word := String.ofList (cs.map Char.toLower)
  if word = "inf" ∨ word = "infinity" then some (.infinite negative)
  else if word = "nan" then some .nan
  else (decimal? cs).map (·.toBinary64 negative)

end RouletteStrategy.Literal
