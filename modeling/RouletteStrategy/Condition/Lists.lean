import RouletteStrategy.Condition.Basic
import RouletteStrategy.Condition.Config
import RouletteStrategy.Wheel.Numbers

/-! # Conditions on given lists: sequences, sets and adjacency -/

namespace RouletteStrategy.Condition

/-- A sequence of tokens occurs, with a number of differences allowed. -/
structure Sequence where
  elements : List Token
  mode : String
  tolerance : Nat

namespace Sequence

def read (config : Config) : Except Error Sequence := do
  let elements := (← config.list ["sequencia", "sequence"]).filterMap Token.read?
  let mode ← config.word ["modo", "mode"] "exato"
  return ⟨elements, mode, ← config.count ["tolerancia"] 0 0 elements.length⟩

/-- A number of the sequence matches itself, a word matches as an event. -/
def isMatch : Token → Token → Bool
  | .number n, t => t == .number n
  | .word w, t => (Event.ofName w).isMatch t

/-- In how many places a stretch of the history differs from the sequence. -/
def differences (s : Sequence) (stretch : List Token) : Nat :=
  (stretch.zip s.elements).countP fun p => !isMatch p.2 p.1

def accepts (s : Sequence) (stretch : List Token) : Bool := s.differences stretch ≤ s.tolerance

/-- How many spins beyond its own length the partial mode looks back. -/
def lookBack : Nat := 10

/-- The place of the last token of the latest stretch that is accepted. The partial mode looks
for it in the latest spins, any other mode at the end of the history only. -/
def matchEnd? (s : Sequence) (h : History) : Option Nat :=
  let n := s.elements.length
  if h.length < n then none
  else if s.mode = "parcial" then
    let window := h.latest (n + lookBack)
    let starts := (List.range (window.length - n + 1)).reverse
    (starts.find? fun i => s.accepts ((window.drop i).take n)).map fun i =>
      h.length - window.length + i + n - 1
  else if s.accepts (h.latest n) then some (h.length - 1)
  else none

/-- The numbers that a token stands for. -/
def tokenNumbers : Token → List Int
  | .number n => [n]
  | .word w => (Event.ofName w).numbers

/-- The first element of the sequence comes next. -/
def evaluate (s : Sequence) (h : History) : Outcome :=
  let params := [("sequencia", .arr (s.elements.map Token.toJson)), ("modo", .str s.mode),
    ("tolerancia", .ofNat s.tolerance)]
  match s.elements with
  | [] => .noMatch params
  | next :: _ =>
    match s.matchEnd? h with
    | none => .noMatch params
    | some i =>
      .found (tokenNumbers next) "sequence_custom"
        (params ++ [("posicao", .ofNat i), ("proximo", next.toJson)])

end Sequence

/-- Some recent number belongs to a set. -/
structure RecentInSet where
  window : Nat
  set : List Int
  output : List Int

namespace RecentInSet

def read (config : Config) : Except Error RecentInSet := do
  let window ← config.count ["janela", "window"] 5 1 Config.maxCount
  let set ← config.list ["set", "numeros"]
  return ⟨window, Wheel.readNumbers set, Wheel.readNumbers (← config.list ["outputNumbers"])⟩

def evaluate (r : RecentInSet) (h : History) : Outcome :=
  let params := [("janela", .ofNat r.window), ("set", .ofInts r.set)]
  let hits := (History.numbers (h.latest r.window)).filter (r.set.contains ·)
  if hits.isEmpty then .noMatch params
  else
    .found (if r.output.isEmpty then hits else r.output) "recent-in-set"
      (params ++ [("encontrados", .ofInts (Wheel.normalize hits))])

end RecentInSet

/-- Two numbers in a row stand next to each other in a list. -/
structure AdjacentInList where
  window : Nat
  circular : Bool
  list : List Int
  output : List Int

namespace AdjacentInList

/-- The items of a list without those that occurred before. -/
def distinct (ns : List Int) : List Int :=
  ns.foldl (fun seen n => if seen.contains n then seen else seen ++ [n]) []

def read (config : Config) : Except Error AdjacentInList := do
  let window ← config.count ["janela", "window"] 6 2 Config.maxCount
  let circular ← config.flag ["circular"] false
  let output := Wheel.readNumbers (← config.list ["outputNumbers"])
  let list ← config.list ["list", "lista"]
  return ⟨window, circular, distinct (list.filterMap Token.readNumber?), output⟩

/-- In a circular list of three or more the ends are neighbours too. -/
def adjacent (a : AdjacentInList) (x y : Int) : Bool :=
  match a.list.findIdx? (· == x), a.list.findIdx? (· == y) with
  | some i, some j =>
    let gap := max i j - min i j
    gap == 1 || (a.circular && 2 < a.list.length && gap == a.list.length - 1)
  | _, _ => false

/-- The latest pair counts. -/
def evaluate (a : AdjacentInList) (h : History) : Outcome :=
  let params := [("janela", .ofNat a.window), ("circular", .bool a.circular)]
  let recent := History.numbers (h.latest a.window)
  match (recent.zip recent.tail).reverse.find? fun p => a.adjacent p.1 p.2 with
  | none => .noMatch params
  | some (x, y) =>
    .found (if a.output.isEmpty then [x, y] else a.output) "adjacent-in-list"
      (params ++ [("par", .ofInts [x, y])])

end AdjacentInList
end RouletteStrategy.Condition
