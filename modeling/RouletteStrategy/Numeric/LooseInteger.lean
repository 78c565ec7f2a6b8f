import RouletteStrategy.Text.Blank
import RouletteStrategy.Text.Digit
import RouletteStrategy.Text.Split

/-!
# Integers written loosely

White space may stand around an integer, zeros in front, underscores between digits, and a fraction
of zeros after it.
-/

namespace RouletteStrategy.LooseInteger

/-- White space that may stand around an integer. -/
def isMargin (c : Char) : Bool := Text.isBlank c && !(0x1c ≤ c.toNat && c.toNat ≤ 0x1f)

/-- The greatest number of digits of an integer. -/
def maxLength : Nat := 4300

/-- Characters that may stand between a zero in front and the digits that count. -/
def isFiller (c : Char) : Bool := c == '0' || c == '_'

/-- A number without zeros in front; one stays before a point and at the end of the text. -/
def withoutZeros? (cs : List Char) : Option (List Char) :=
  match cs with
  | '0' :: cs =>
    let rest := cs.dropWhile isFiller
    match rest.head? with
    | none | some '.' =>
      if (cs.takeWhile isFiller).getLast? = some '_' then none else some ('0' :: rest)
    | some c => if c = '-' ∨ c.isDigit then some rest else none
  | cs => if cs.head?.any Char.isDigit then some cs else none

/-- A number without a fraction of zeros, if it ends in one. -/
def withoutFraction (cs : List Char) : List Char :=
  match cs.reverse.dropWhile (· == '0') with
  | '.' :: r => if cs.getLast? = some '0' then r.reverse else cs
  | _ => cs

/-- A number without the single underscores inside it. -/
def withoutGroups? (cs : List Char) : Option (List Char) :=
  let groups := Text.splitWhen (· == '_') cs
  if groups.any (·.isEmpty) then none else some groups.flatten

/-- Plain digits after an optional minus sign, with no zero in front. -/
def plainInteger? (cs : List Char) : Option Int :=
  let (negative, ds) := match cs with
    | '-' :: ds => (true, ds)
    | ds => (false, ds)
  let isPlain := ds == ['0'] || (ds.all Char.isDigit && ds.head?.any (· != '0'))
  if isPlain && decide (ds.length ≤ maxLength) then
    let n : Int := Text.natOfDigits ds
    some (if negative then -n else n)
  else none

/-- An integer in a text: a sign, zeros in front, underscores and a fraction of zeros may be there.
A minus sign may also stand after the zeros. -/
def read? (s : String) : Option Int := do
  let (sign, cs) := match Text.trimWhile isMargin s.toList with
    | '+' :: cs => ([], cs)
    | '-' :: cs => (['-'], cs)
    | cs => ([], cs)
  let cs ← withoutZeros? cs
  plainInteger? (sign ++ (← withoutGroups? (withoutFraction cs)))

end RouletteStrategy.LooseInteger
