import RouletteStrategy.Error
import RouletteStrategy.Wheel.Basic

/-! # Wheel numbers given as JSON values -/

namespace RouletteStrategy

/-- The integer that a number denotes; floats without a fraction count. -/
def Json.wholeNumber? : Json → Option Int
  | .int i => some i
  | .float x => if x.isInteger then some x.truncate else none
  | _ => none

namespace Wheel

/-- The wheel number that a value is found under. Truth values count as zero and one; lists and
objects cannot be looked up. -/
def find? (v : Json) : Except Error (Option Int) :=
  match v with
  | .arr _ | .obj _ => .error .wrongType
  | .bool b => .ok (some (if b then 1 else 0))
  | v => .ok (v.wholeNumber?.filter fun n => decide (OnWheel n))

/-- The fewest steps between the numbers of two values, if both are on the wheel. -/
def distanceOf (a b : Json) : Except Error (Option Nat) := do
  match ← find? a with
  | none => return none
  | some m => return (← find? b).bind (distance? m)

/-- The whole steps that a number allows for: all around the wheel for an infinite one, and not even
none for a negative one or for what is not a number. -/
def steps? : Json → Option Int
  | .int i => some i
  | .bool b => some (if b then 1 else 0)
  | .float (.infinite false) => some size
  | .float (.infinite true) | .float .nan => some (-1)
  | .float x => some x.floor
  | _ => none

/-- The number of a value and its neighbours up to a radius, if it is on the wheel. -/
def neighboursOf (n radius : Json) : Except Error (List Int) := do
  match ← find? n with
  | none => return []
  | some m =>
    match steps? radius with
    | some r => return neighbours m r
    | none => throw .wrongType

/-- The family of a terminal, which must be an integer. -/
def familyOf : Json → Except Error (List Int)
  | .int t => .ok (family t)
  | .bool b => .ok (family (if b then 1 else 0))
  | _ => .error .wrongType

end Wheel

/-- The distinct wheel numbers among the values, ascending. -/
def Wheel.readNumbers (vs : List Json) : List Int := normalize (vs.filterMap Json.wholeNumber?)

end RouletteStrategy
