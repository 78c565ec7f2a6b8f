import RouletteStrategy.Spin.Token

/-! # Events that a spin may match -/

namespace RouletteStrategy

inductive Event where
  | category (c : Category)
  /-- A number given by its text. -/
  | number (code : String)
  | word (w : String)
deriving DecidableEq, Repr

namespace Event

/-- The names of categories, without regard to case. -/
def categoryNames : Members Category :=
  [("vermelho", .red), ("red", .red), ("preto", .black), ("black", .black), ("zero", .zero),
   ("par", .even), ("impar", .odd), ("ímpar", .odd)]

def numberMark : String := "numero:"

def ofName (name : String) : Event :=
  let e := Text.fold name
  match categoryNames.get? e with
  | some c => .category c
  | none =>
    if numberMark.toList.isPrefixOf e.toList then
      .number (String.ofList (e.toList.drop numberMark.length))
    else .word e

def read (v : Json) : Event := ofName v.displayIfSet

/-- The event that a number and its word match. -/
def nameOfNumber (n : Int) : String := if n = 0 then "zero" else numberMark ++ toString n

/-- Colour words match their colour; parities match numbers only. -/
def isMatch : Event → Token → Bool
  | .category c, .number n => c.holds n
  | .category c, .word w => (Token.colour? (.word w)) == some c
  | .number code, .number n => Literal.int? code == some n
  | .number _, .word _ => false
  | .word w, t => t.text == w

/-- The wheel numbers that an event stands for. -/
def numbers : Event → List Int
  | .category c => c.members
  | .number code | .word code => Wheel.normalize (Literal.int? code).toList

/-- The wheel numbers that a category leaves out. -/
def complement : Event → List Int
  | .category c => c.opposite
  | _ => []

/-- The wheel numbers of an event given as a value; an integer stands for itself. -/
def numbersOf : Json → List Int
  | .int i => Wheel.normalize [i]
  | v => (read v).numbers

end Event
end RouletteStrategy
