import RouletteStrategy.Gating.Rules
import RouletteStrategy.Wheel.Basic

/-! # The final numbers: gating of derived and manual numbers -/

namespace RouletteStrategy.Gating

/-- The first items of a list; a negative limit leaves out as many at the end. -/
def takeLimit {α : Type} (limit : Int) (xs : List α) : List α :=
  if 0 ≤ limit then xs.take limit.toNat else xs.take (xs.length - limit.natAbs)

def ascending (ns : List Int) : List Int := ns.mergeSort fun a b => decide (a ≤ b)

/-- The distance to a reference; a number off the wheel is farther than any on it. -/
def distanceFrom (reference n : Int) : Nat := (Wheel.distance? n reference).getD Wheel.size

/-- Order by distance to a reference, then by number. -/
def closer (reference a b : Int) : Bool :=
  let p := distanceFrom reference a
  let q := distanceFrom reference b
  p < q || (p == q && decide (a ≤ b))

/-- The numbers closest to a reference, or the least ones without a reference, ascending. -/
def truncate (ns : List Int) (limit : Int) (reference : Option Int) : List Int :=
  let sorted := ascending ns
  if (sorted.length : Int) ≤ limit then sorted
  else match reference with
    | none => takeLimit limit sorted
    | some r => ascending (takeLimit limit (sorted.mergeSort (closer r)))

inductive Reason where
  | signalInactive | minManualNotMet | excludeZero | limit
deriving DecidableEq, Repr

def Reason.name : Reason → String
  | .signalInactive => "signal-inactive"
  | .minManualNotMet => "hybrid-min-manual-not-met"
  | .excludeZero => "exclude-zero"
  | .limit => "max-numbers-limit"

/-- What was applied: the reasons for leaving numbers out, the counts before and after, and the
rules and mode in force. -/
structure Applied where
  reasons : List Reason
  preCount : Nat
  postCount : Nat
  rules : GatingRules
  mode : SelectionMode
deriving DecidableEq, Repr

namespace Applied

def gated (a : Applied) : Bool := !a.reasons.isEmpty

def reasonNames (a : Applied) : Json := .ofStrings (a.reasons.map Reason.name)

def toJson (a : Applied) : Json :=
  .obj [("gated", .bool a.gated), ("reasons", a.reasonNames), ("preCount", .ofNat a.preCount),
    ("postCount", .ofNat a.postCount), ("rules", .obj a.rules.toObject),
    ("mode", .str a.mode.name)]

end Applied

/-- The final numbers. A selection is halted when too few numbers were set by hand. -/
structure Selection where
  numbers : List Int
  applied : Applied
  halted : Bool
deriving DecidableEq, Repr

/-- The numbers that a mode chooses from. -/
def candidates (mode : SelectionMode) (derived manual : List Int) : List Int :=
  match mode with
  | .manual => Wheel.normalize manual
  | .hybrid => Wheel.normalize (derived ++ manual)
  | .automatic | .other _ => Wheel.normalize derived

/-- How many numbers a mode keeps. -/
def cap? (mode : SelectionMode) (rules : GatingRules) : Option Nat :=
  match mode with
  | .automatic => some rules.maxAuto
  | .hybrid => some rules.maxHybrid
  | .manual | .other _ => none

/-- An inactive signal selects nothing, and neither does the hybrid mode with too few numbers set
by hand. Otherwise zero is left out if the rules say so, and then the limit is applied. -/
def select (derived manual : List Int) (mode : SelectionMode) (rules : GatingRules)
    (active : Bool) (last : Option Int) : Selection :=
  let found := candidates mode derived manual
  if !active then ⟨[], ⟨[.signalInactive], 0, 0, rules, mode⟩, false⟩
  else if mode = .hybrid ∧ (Wheel.normalize manual).length < rules.minManual then
    ⟨[], ⟨[.minManualNotMet], found.length, 0, rules, mode⟩, true⟩
  else
    let dropsZero := rules.excludeZero && found.contains 0
    let kept := if rules.excludeZero then found.filter (· ≠ 0) else found
    let overCap := (cap? mode rules).any (· < kept.length)
    let final := match cap? mode rules with
      | some cap => truncate kept cap last
      | none => kept
    let reasons := (if dropsZero then [.excludeZero] else []) ++ (if overCap then [.limit] else [])
    ⟨final, ⟨reasons, found.length, final.length, rules, mode⟩, false⟩

end RouletteStrategy.Gating
