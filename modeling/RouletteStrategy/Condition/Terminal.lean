import RouletteStrategy.Condition.Basic
import RouletteStrategy.Condition.Config

/-! # Patterns of last digits -/

namespace RouletteStrategy.Condition

/-- How the digit at an index relates to the digits before it. -/
inductive Pattern where
  | same | alternate | gap2 | gap3
deriving DecidableEq, Repr

namespace Pattern

/-- The patterns in the order in which they are listed at an index. -/
def all : List Pattern := [.same, .alternate, .gap2, .gap3]

def name : Pattern → String
  | .same => "repeat"
  | .alternate => "alternate"
  | .gap2 => "gap2"
  | .gap3 => "gap3"

def strength : Pattern → Nat
  | .same => 2
  | .alternate => 3
  | .gap2 => 2
  | .gap3 => 1

/-- Whether the digits at two places back from an index are there and equal. -/
def equalBack (ts : List Int) (i a b : Nat) : Bool :=
  a ≤ i && b ≤ i && ts[i - a]? == ts[i - b]?

def holdsAt (ts : List Int) (i : Nat) : Pattern → Bool
  | .same => equalBack ts i 0 1
  | .alternate => equalBack ts i 0 2 && equalBack ts i 1 3 && !equalBack ts i 0 1
  | .gap2 => equalBack ts i 0 2 && !equalBack ts i 0 1
  | .gap3 => equalBack ts i 0 3

end Pattern

/-- A pattern found at an index, with the digit there. -/
structure Finding where
  pattern : Pattern
  index : Nat
  terminal : Int
deriving DecidableEq, Repr

namespace Finding

def strength (f : Finding) : Nat := f.pattern.strength

/-- Every pattern in a list of digits, by index. -/
def detect (ts : List Int) : List Finding :=
  ts.zipIdx.flatMap fun (t, i) =>
    (Pattern.all.filter (Pattern.holdsAt ts i)).map fun p => ⟨p, i, t⟩

/-- Order by strength, then by index. -/
def lt (f g : Finding) : Bool :=
  f.strength < g.strength || (f.strength == g.strength && f.index < g.index)

/-- The greatest finding, the first of those in a tie. -/
def best? : List Finding → Option Finding
  | [] => none
  | f :: fs => some (fs.foldl (fun best g => if best.lt g then g else best) f)

end Finding

/-- The last digits of the recent numbers form a pattern. -/
structure TerminalPattern where
  window : Nat
  /-- The only pattern that counts, if one is given. -/
  pattern : Option Pattern
  minStrength : Nat
  includeNeighbors : Bool
  radius : Nat
  includeZero : Bool

namespace TerminalPattern

def read (config : Config) : Except Error TerminalPattern := do
  let window ← config.count ["janela", "window"] 12 2 Config.maxCount
  let name ← config.word ["padrao", "pattern"] "any"
  let minStrength ← config.count ["minStrength"] 1 1 3
  let includeNeighbors ← config.flag ["includeNeighbors"] false
  let radius ← config.count ["neighborRadius"] 1 0 18
  let includeZero ← config.flag ["includeZero"] true
  return ⟨window, Pattern.all.find? (·.name == name), minStrength, includeNeighbors, radius,
    includeZero⟩

def allows (c : TerminalPattern) (f : Finding) : Bool :=
  c.pattern.all (· == f.pattern) && c.minStrength ≤ f.strength

/-- The strongest finding, and of those the latest. -/
def find? (c : TerminalPattern) (h : History) : Option Finding :=
  let ns := h.numbers
  let ts := (ns.drop (ns.length - c.window)).map Wheel.terminal
  Finding.best? ((Finding.detect ts).filter c.allows)

/-- The numbers that end in a digit, with their neighbours on the wheel if wanted. -/
def numbersFor (c : TerminalPattern) (terminal : Int) : List Int :=
  let ns := Wheel.family terminal
  let ns := if c.includeNeighbors then ns ++ ns.flatMap (Wheel.neighbours · c.radius) else ns
  if c.includeZero then ns else ns.filter (· ≠ 0)

def evaluate (c : TerminalPattern) (h : History) : Outcome :=
  let params := [("janela", .ofNat c.window),
    ("padrao", .str ((c.pattern.map (·.name)).getD "any")),
    ("minStrength", .ofNat c.minStrength)]
  match c.find? h with
  | none => .noMatch params
  | some f =>
    .found (c.numbersFor f.terminal)
      ("terminal-pattern:" ++ f.pattern.name ++ ":" ++ toString f.terminal)
      (params ++ [("encontrado", .str f.pattern.name), ("strength", .ofNat f.strength),
        ("terminal", .int f.terminal)])

end TerminalPattern
end RouletteStrategy.Condition
