import RouletteStrategy.Condition.Basic
import RouletteStrategy.Condition.Config

/-! # Hot dozens and columns -/

namespace RouletteStrategy.Condition

/-- A partition of the numbers into groups numbered from one on. -/
inductive Grouping where
  | dozens | columns
deriving DecidableEq, Repr

namespace Grouping

def groups : Grouping → List (List Int)
  | .dozens => Wheel.dozens
  | .columns => Wheel.columns

/-- The group of a number, 0 for the zero. -/
def groupOf : Grouping → Int → Int
  | .dozens => Wheel.dozen
  | .columns => Wheel.column

def kind : Grouping → Kind
  | .dozens => .dozenHot
  | .columns => .columnHot

/-- The key under which the hot groups are reported. -/
def label : Grouping → String
  | .dozens => "duzias"
  | .columns => "colunas"

end Grouping

/-- Some groups have enough hits among the latest spins. -/
structure Hot where
  grouping : Grouping
  window : Nat
  least : Nat

namespace Hot

def read (grouping : Grouping) (config : Config) : Except Error Hot := do
  let window ← config.count ["janela", "window"] 12 1 Config.maxCount
  return ⟨grouping, window, ← config.count ["frequenciaMinima"] 5 1 Config.maxCount⟩

/-- The hot groups with their numbers. -/
def hotGroups (c : Hot) (ns : List Int) : List (Nat × List Int) :=
  ((c.grouping.groups.zipIdx 1).map fun (group, i) => (i, group)).filter fun (i, _) =>
    c.least ≤ ns.countP fun n => c.grouping.groupOf n == (i : Int)

def evaluate (c : Hot) (h : History) : Outcome :=
  let params := [("janela", .ofNat c.window), ("frequenciaMinima", .ofNat c.least)]
  if h.length < c.window then .noMatch params
  else
    let hot := c.hotGroups (History.numbers (h.latest c.window))
    let params := params ++ [(c.grouping.label, .arr (hot.map fun g => .ofNat g.1))]
    if hot.isEmpty then .noMatch params
    else
      .found (hot.flatMap (·.2))
        (c.grouping.kind.name ++ ":" ++ ",".intercalate (hot.map fun g => toString g.1)) params

end Hot
end RouletteStrategy.Condition
