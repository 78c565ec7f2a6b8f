import RouletteStrategy.Error

/-! # Values with a part replaced or removed -/

namespace RouletteStrategy.Json

/-- A step into a value: the key of an object or the index of a list. -/
inductive EditStep where
  | key (k : String)
  | index (i : Int)

/-- The place that an index means in a list of a length. Negative indexes count from the end. -/
def position? (length : Nat) (i : Int) : Option Nat :=
  let i := if i < 0 then i + length else i
  if 0 ≤ i ∧ i < length then some i.toNat else none

/-- The place that an index means in a list. -/
def position (xs : List Json) (i : Int) : Except Error Nat :=
  match position? xs.length i with
  | some n => .ok n
  | none => .error .noSuchIndex

/-- The part of a value at a step. -/
def child : Json → EditStep → Except Error Json
  | .obj ms, .key k =>
    match Members.get? ms k with
    | some v => .ok v
    | none => .error .noSuchKey
  | .obj _, .index _ => .error .noSuchKey
  | .arr xs, .index i => do return xs.getD (← position xs i) .null
  | _, _ => .error .wrongType

/-- The value with a part in place of the one at a step. A key may be new. -/
def setChild (v : Json) (step : EditStep) (part : Json) : Except Error Json :=
  match v, step with
  | .obj ms, .key k => .ok (.obj (Members.set ms k part))
  | .arr xs, .index i => do return .arr (xs.set (← position xs i) part)
  | _, _ => .error .wrongType

/-- The value without the part at a step. -/
def eraseChild (v : Json) (step : EditStep) : Except Error Json := do
  discard (v.child step)
  match v, step with
  | .obj ms, .key k => return .obj (Members.erase ms k)
  | .arr xs, .index i => return .arr (xs.eraseIdx (← position xs i))
  | _, _ => .error .wrongType

/-- The value with the part at the end of a path replaced, or removed. -/
def edit (v : Json) (path : List EditStep) (part : Option Json) : Except Error Json :=
  match path, part with
  | [], part => .ok (part.getD v)
  | [step], some part => v.setChild step part
  | [step], none => v.eraseChild step
  | step :: rest, part => do v.setChild step (← (← v.child step).edit rest part)

end RouletteStrategy.Json
