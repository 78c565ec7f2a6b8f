import RouletteStrategy.Wheel.Basic

/-! # Groups of numbers: colours, parities, sectors, dozens and columns -/

namespace RouletteStrategy

/-- The colours and parities, and the zero, which has neither. -/
inductive Category where
  | zero | red | black | even | odd
deriving DecidableEq, Repr

namespace Category

def name : Category → String
  | .zero => "zero"
  | .red => "vermelho"
  | .black => "preto"
  | .even => "par"
  | .odd => "impar"

end Category

inductive Sector where
  | voisins | tiers | orphelins
deriving DecidableEq, Repr

namespace Sector

def name : Sector → String
  | .voisins => "Voisins de Zero"
  | .tiers => "Tiers du Cylindre"
  | .orphelins => "Orphelins"

/-- The arc of the wheel that a sector covers, in wheel order. -/
def members : Sector → List Int
  | .voisins => [22, 18, 29, 7, 28, 12, 35, 3, 26, 0, 32, 15, 19, 4, 21, 2, 25]
  | .tiers => [27, 13, 36, 11, 30, 8, 23, 10, 5, 24, 16, 33]
  | .orphelins => [1, 20, 14, 31, 9, 17, 34, 6]

/-- The sectors, the one that wins a tie first. -/
def all : List Sector := [.voisins, .tiers, .orphelins]

end Sector

namespace Wheel

def reds : List Int := [1, 3, 5, 7, 9, 12, 14, 16, 18, 19, 21, 23, 25, 27, 30, 32, 34, 36]

def blacks : List Int := [2, 4, 6, 8, 10, 11, 13, 15, 17, 20, 22, 24, 26, 28, 29, 31, 33, 35]

/-- The numbers from 1 to 36. -/
def nonzero : List Int := pockets.filter (· ≠ 0)

def evens : List Int := nonzero.filter (· % 2 = 0)

def odds : List Int := nonzero.filter (· % 2 = 1)

/-- Every number but zero that is not red counts as black. -/
def colour (n : Int) : Category :=
  if n = 0 then .zero else if n ∈ reds then .red else .black

def parity (n : Int) : Category :=
  if n = 0 then .zero else if n % 2 = 0 then .even else .odd

def sector? (n : Int) : Option Sector := Sector.all.find? fun s => s.members.contains n

/-- The dozen of a number, 0 for the zero. -/
def dozen (n : Int) : Int := if n = 0 then 0 else (n - 1) / 12 + 1

/-- The column of a number, 0 for the zero. -/
def column (n : Int) : Int := if n = 0 then 0 else (n - 1) % 3 + 1

def dozens : List (List Int) :=
  [[1, 2, 3, 4, 5, 6, 7, 8, 9, 10, 11, 12], [13, 14, 15, 16, 17, 18, 19, 20, 21, 22, 23, 24],
   [25, 26, 27, 28, 29, 30, 31, 32, 33, 34, 35, 36]]

def columns : List (List Int) :=
  [[1, 4, 7, 10, 13, 16, 19, 22, 25, 28, 31, 34], [2, 5, 8, 11, 14, 17, 20, 23, 26, 29, 32, 35],
   [3, 6, 9, 12, 15, 18, 21, 24, 27, 30, 33, 36]]

end Wheel

namespace Category

/-- The wheel numbers of a category. -/
def members : Category → List Int
  | .zero => [0]
  | .red => Wheel.reds
  | .black => Wheel.blacks
  | .even => Wheel.evens
  | .odd => Wheel.odds

/-- The numbers on the other side: the other colour, the other parity, and all but zero. -/
def opposite : Category → List Int
  | .zero => Wheel.nonzero
  | .red => Wheel.blacks
  | .black => Wheel.reds
  | .even => Wheel.odds
  | .odd => Wheel.evens

/-- Whether a number has the category. -/
def holds : Category → Int → Bool
  | .zero, n => n == 0
  | .red, n => Wheel.reds.contains n
  | .black, n => Wheel.blacks.contains n
  | .even, n => n != 0 && n % 2 == 0
  | .odd, n => n % 2 == 1

end Category
end RouletteStrategy
