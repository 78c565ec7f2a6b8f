import RouletteStrategy.Spin.Event

/-! # Kinds of conditions, and what evaluating one gives -/

namespace RouletteStrategy.Condition

inductive Kind where
  | repetition | absence | trend | neighbors | mirror | specificNumber | repeatNumber
  | alternation | dominantSector | dozenHot | columnHot | sequence | recentInSet
  | adjacentInList | terminalPattern | break | timeWindow | unknown
deriving DecidableEq, Repr

namespace Kind

/-- The kinds that can match. -/
def supported : List Kind :=
  [.repetition, .absence, .trend, .neighbors, .mirror, .specificNumber, .repeatNumber,
   .alternation, .dominantSector, .dozenHot, .columnHot, .sequence, .recentInSet,
   .adjacentInList, .terminalPattern, .break, .timeWindow]

def name : Kind → String
  | .repetition => "repetition"
  | .absence => "absence"
  | .trend => "trend"
  | .neighbors => "neighbors"
  | .mirror => "mirror"
  | .specificNumber => "specific-number"
  | .repeatNumber => "repeat-number"
  | .alternation => "alternation"
  | .dominantSector => "setorDominante"
  | .dozenHot => "dozen_hot"
  | .columnHot => "column_hot"
  | .sequence => "sequence_custom"
  | .recentInSet => "recent-in-set"
  | .adjacentInList => "adjacent-in-list"
  | .terminalPattern => "terminal-pattern"
  | .break => "break"
  | .timeWindow => "time-window"
  | .unknown => "unknown"

/-- Other names of kinds. -/
def aliases : Members Kind :=
  [("sector", .dominantSector), ("frequency", .trend), ("pattern", .sequence),
   ("sequence", .sequence)]

/-- The kind of a subtype, without regard to case. -/
def ofSubtype (subtype : String) : Kind :=
  let t := Text.fold subtype
  match aliases.get? t with
  | some k => k
  | none => (supported.find? fun k => Text.lower k.name == t).getD .unknown

/-- The names of the supported kinds, in order. -/
def names : List String := (supported.map name).mergeSort fun a b => decide (a ≤ b)

end Kind

/-- Whether a condition matched, the wheel numbers it contributes, why, and the settings and
findings to report. -/
structure Outcome where
  passed : Bool
  numbers : List Int
  reason : String
  params : Json.Object

namespace Outcome

def noMatch (params : Json.Object) : Outcome := ⟨false, [], "", params⟩

/-- A match contributes the distinct wheel numbers among those given, ascending. -/
def found (numbers : List Int) (reason : String) (params : Json.Object) : Outcome :=
  ⟨true, Wheel.normalize numbers, reason, params⟩

end Outcome
end RouletteStrategy.Condition
