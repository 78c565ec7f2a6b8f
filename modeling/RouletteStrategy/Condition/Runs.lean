import RouletteStrategy.Condition.Basic
import RouletteStrategy.Condition.Config

/-! # Conditions on the end of the history: repetition, alternation and break -/

namespace RouletteStrategy.Condition

/-- The category of a token on an axis: parities on the axis of that name, colours on any
other. -/
def axisCategory? (axis : String) : Token → Option Category :=
  if axis = "paridade" then Token.parity? else Token.colour?

/-- How many items at the end of a list have a property. -/
def runLength {α : Type} (p : α → Bool) (xs : List α) : Nat := (xs.reverse.takeWhile p).length

/-- The latest spins all match an event, or all have one category of an axis. -/
inductive Repetition where
  | ofEvent (event : String) (count : Nat)
  | ofAxis (axis : String) (count : Nat)

namespace Repetition

def read (config : Config) : Except Error Repetition := do
  let event ← config.word ["evento"] ""
  let axis ← config.word ["eixo"] "cor"
  if event = "" then
    return .ofAxis axis (← config.count ["minRun", "ocorrencias"] 2 1 Config.maxCount)
  else
    return .ofEvent event (← config.count ["ocorrencias", "minRun"] 2 1 Config.maxCount)

/-- Spins without a category are passed over; zero ends a run and makes none. -/
def evaluate : Repetition → History → Outcome
  | .ofEvent event n, h =>
    let params := [("evento", .str event), ("ocorrencias", .ofNat n)]
    let e := Event.ofName event
    if n ≤ h.length ∧ (h.latest n).all e.isMatch then
      .found e.numbers ("repetition:" ++ event) params
    else .noMatch params
  | .ofAxis axis n, h =>
    let params := [("eixo", .str axis), ("minRun", .ofNat n)]
    let cs := h.filterMap (axisCategory? axis)
    match cs.getLast? with
    | none | some .zero => .noMatch params
    | some c =>
      let run := runLength (· == c) cs
      let params := params ++ [("run", .ofNat run)]
      if run < n then .noMatch params else .found c.members ("repetition:" ++ c.name) params

end Repetition

/-- The latest spins alternate strictly between the two categories of an axis. -/
structure Alternation where
  axis : String
  length : Nat

namespace Alternation

def read (config : Config) : Except Error Alternation := do
  let axis ← config.word ["eixo"] "cor"
  return ⟨axis, ← config.count ["comprimento", "length"] 4 2 Config.maxCount⟩

/-- No two categories in a row are equal. -/
def alternates : List Category → Bool
  | a :: b :: rest => a ≠ b && alternates (b :: rest)
  | _ => true

/-- Every spin of the window needs a category other than zero. -/
def evaluate (a : Alternation) (h : History) : Outcome :=
  let params := [("eixo", .str a.axis), ("comprimento", .ofNat a.length)]
  let window := h.latest a.length
  let cs := window.filterMap (axisCategory? a.axis)
  match cs.getLast? with
  | some c =>
    if a.length ≤ h.length ∧ cs.length = window.length ∧ .zero ∉ cs ∧ alternates cs then
      .found c.opposite ("alternation:" ++ a.axis) params
    else .noMatch params
  | none => .noMatch params

end Alternation

/-- An event at the end of the history, often enough in a row. It contributes no numbers. -/
structure Break where
  event : String
  least : Nat

namespace Break

def read (config : Config) : Except Error Break := do
  let event ← config.word ["evento"] Category.red.name
  return ⟨event, ← config.count ["minimo", "ocorrencias"] 3 1 Config.maxCount⟩

def evaluate (b : Break) (h : History) : Outcome :=
  let run := runLength (Event.ofName b.event).isMatch h
  let params := [("evento", .str b.event), ("minimo", .ofNat b.least), ("run", .ofNat run)]
  if run < b.least then .noMatch params else .found [] ("break:" ++ b.event) params

end Break
end RouletteStrategy.Condition
