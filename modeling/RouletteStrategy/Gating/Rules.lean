import RouletteStrategy.Gating.Mode
import RouletteStrategy.Json.Reading

/-! # Rules that limit the final numbers -/

namespace RouletteStrategy

structure GatingRules where
  /-- How many numbers the automatic mode keeps. -/
  maxAuto : Nat
  /-- How many numbers the hybrid mode keeps. -/
  maxHybrid : Nat
  /-- How many numbers set by hand the hybrid mode needs. -/
  minManual : Nat
  excludeZero : Bool
deriving DecidableEq, Repr

namespace GatingRules

def default : GatingRules := ⟨18, 24, 1, false⟩

/-- The least and greatest count in a rule. -/
def minCount : Nat := 1

def maxCount : Nat := 36

def readCount (v : Json) (default : Nat) : Except Error Nat := do
  return (← v.clampInt minCount maxCount default).toNat

/-- Rules that are not given have their defaults. -/
def ofObject (o : Json.Object) : Except Error GatingRules := do
  return {
    maxAuto := ← readCount (o.at "maxNumbersAuto") default.maxAuto
    maxHybrid := ← readCount (o.at "maxNumbersHybrid") default.maxHybrid
    minManual := ← readCount (o.at "minManualHybrid") default.minManual
    excludeZero := (o.at "excludeZero").flag default.excludeZero }

def toObject (r : GatingRules) : Json.Object :=
  [("maxNumbersAuto", .ofNat r.maxAuto), ("maxNumbersHybrid", .ofNat r.maxHybrid),
   ("minManualHybrid", .ofNat r.minManual), ("excludeZero", .bool r.excludeZero)]

/-- The rules with those of an object in their place; null keeps a rule. -/
def merge (r : GatingRules) (o : Json.Object) : Except Error GatingRules :=
  let given := o.filter fun kv => !kv.2.isNull
  if given.isEmpty then .ok r else ofObject (r.toObject.overlay given)

/-- The object in a value; a value that is not set counts as an empty one. -/
def objectIn (v : Json) : Except Error Json.Object :=
  match v with
  | .obj o => .ok o
  | v => if v.isSet then .error .notAnObject else .ok []

def read (v : Json) : Except Error GatingRules := do ofObject (← objectIn v)

end GatingRules
end RouletteStrategy
