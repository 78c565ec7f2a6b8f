import RouletteStrategy.Error
import RouletteStrategy.Numeric.Literal
import RouletteStrategy.Text.Lower

/-!
# Numbers, flags and texts read from values

Values out of bounds are moved to the nearest bound, and values of another kind give way to a
default. Only an integer beyond every float is refused.
-/

namespace RouletteStrategy.Json

/-- The finite number that a value denotes. Texts count, truth values do not. -/
def finiteNumber? : Json → Except Error (Option Binary64)
  | .int i =>
    match Binary64.ofInt? i with
    | some x => .ok (some x)
    | none => .error .numberTooLarge
  | .float x => .ok (some x |>.filter Binary64.isFinite)
  | .str s => .ok ((Literal.float? s).filter Binary64.isFinite)
  | _ => .ok none

/-- A value within bounds; a value that is not strictly between them is one of them. The lower
bound wins over the upper one. -/
def clampWith {α : Type} (below : α → α → Bool) (low high x : α) : α :=
  let y := if below x high then x else high
  if below low y then y else low

/-- The nearest integer to a number, within bounds. -/
def clampInt (v : Json) (low high default : Int) : Except Error Int := do
  match ← v.finiteNumber? with
  | some x => return max low (min high x.round)
  | none => return default

/-- A number within bounds. -/
def clampFloat (v : Json) (low high default : Binary64) : Except Error Binary64 := do
  match ← v.finiteNumber? with
  | some x => return clampWith Binary64.lt low high x
  | none => return default

/-- The numbers of all kinds in units of floats, with their place among the infinities. -/
def magnitude? : Json → Option (Int × Int)
  | .bool b => some (0, if b then Binary64.unitsPerOne else 0)
  | .int i => some (0, i * Binary64.unitsPerOne)
  | .float x => if x = .nan then none else some (x.rank, x.units)
  | _ => none

/-- Order of integers, floats and truth values by their exact value. -/
def isBelow (v w : Json) : Bool :=
  match v.magnitude?, w.magnitude? with
  | some (r, m), some (s, n) => decide (r < s) || (r == s && decide (m < n))
  | _, _ => false

def isNumber : Json → Bool
  | .bool _ | .int _ | .float _ => true
  | _ => false

/-- A number that a value denotes, in the form it is given, within bounds of any kind. -/
def clampAs (form : Binary64 → Json) (v low high default : Json) : Except Error Json := do
  match ← v.finiteNumber? with
  | some x =>
    if low.isNumber && high.isNumber then return clampWith isBelow low high (form x)
    else throw .wrongType
  | none => return default

/-- The texts that mean yes. -/
def yesWords : List String := ["true", "1", "sim", "yes"]

/-- A truth value; null gives way to the default. -/
def flag (v : Json) (default : Bool) : Bool :=
  match v with
  | .null => default
  | .str s => yesWords.contains (Text.fold s)
  | v => v.isSet

/-- The text of a value without regard to case; null and blank texts give way to the default. -/
def wordOr (v : Json) (default : String) : String :=
  match v with
  | .null => default
  | v =>
    let t := Text.strip v.display
    if t = "" then default else Text.lower t

/-- The items of a list; no items for any other value. -/
def items : Json → List Json
  | .arr vs => vs
  | _ => []

end RouletteStrategy.Json
