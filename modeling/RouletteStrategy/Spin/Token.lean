import RouletteStrategy.Error
import RouletteStrategy.Numeric.Literal
import RouletteStrategy.Text.Lower
import RouletteStrategy.Text.Split
import RouletteStrategy.Wheel.Groups

/-! # Spins as tokens: a wheel number or a word -/

namespace RouletteStrategy

inductive Token where
  | number (n : Int)
  | word (w : String)
deriving DecidableEq, Repr

namespace Token

def number? : Token → Option Int
  | .number n => some n
  | .word _ => none

def text : Token → String
  | .number n => toString n
  | .word w => w

def toJson : Token → Json
  | .number n => .int n
  | .word w => .str w

/-- The fields of a record that may hold the spin, in order of precedence. -/
def recordFields : List String := ["value", "number", "numero", "valor", "result", "resultado"]

/-- Colour words and their synonyms. -/
def synonyms : Members Category :=
  [("vermelho", .red), ("red", .red), ("preto", .black), ("black", .black), ("zero", .zero)]

def ofInt? (i : Int) : Option Token := if Wheel.OnWheel i then some (.number i) else none

/-- Numbers with a fraction or off the wheel are no spin. -/
def ofFloat? (x : Binary64) : Option Token := if x.isInteger then ofInt? x.truncate else none

/-- A text without regard to case and blanks at its ends: a colour word, a number, or a word of
its own. -/
def ofText? (s : String) : Option Token :=
  let t := Text.fold s
  if t = "" then none
  else match synonyms.get? t with
    | some c => some (.word c.name)
    | none => match Literal.float? t with
      | some x => ofFloat? x
      | none => some (.word t)

/-- The spin of a record, given that of each member. -/
def ofRecord? (ms : Members (Option Token)) : Option Token :=
  (recordFields.findSome? ms.get?).join

mutual

/-- The token of a raw spin: a number, a text, or a record with the spin in a field. -/
def read? : Json → Option Token
  | .int i => ofInt? i
  | .float x => ofFloat? x
  | .str s => ofText? s
  | .obj ms => ofRecord? (readMembers ms)
  | _ => none

def readMembers : List (String × Json) → Members (Option Token)
  | [] => []
  | (k, v) :: ms => (k, read? v) :: readMembers ms

end

/-- A wheel number in a configuration; texts and records that hold one count. -/
def readNumber? (v : Json) : Option Int := (read? v).bind number?

/-- The colour of a token; words other than colours have none. -/
def colour? : Token → Option Category
  | .number n => some (Wheel.colour n)
  | .word w => [Category.red, .black, .zero].find? (·.name == w)

/-- The parity of a token; among the words only zero has one. -/
def parity? : Token → Option Category
  | .number n => some (Wheel.parity n)
  | .word w => [Category.zero].find? (·.name == w)

end Token

/-- Tokens from the oldest spin to the latest. -/
abbrev History := List Token

namespace History

/-- A single spin counts as a list of one; what is not recognised is left out. -/
def read : Json → Except Error History
  | .null => .ok []
  | .str s => .ok ((Token.ofText? s).toList)
  | .obj ms => .ok ((Token.read? (.obj ms)).toList)
  | .arr vs => .ok (vs.filterMap Token.read?)
  | _ => .error .wrongType

/-- The history written in a text, spins separated by commas. -/
def parse (s : String) : History := (Text.splitAt ',' s).filterMap Token.ofText?

/-- The history in a text field; anything that is not set counts as empty. -/
def readText : Json → Except Error History
  | .str s => .ok (parse s)
  | v => if v.isSet then .error .notAnObject else .ok []

def numbers (h : History) : List Int := h.filterMap Token.number?

def lastNumber? (h : History) : Option Int := h.numbers.getLast?

/-- The last `n` tokens. -/
def latest (n : Nat) (h : History) : History := h.drop (h.length - n)

/-- The last tokens up to a limit. A limit that is not positive says how many of the first ones are
left out. -/
def upTo (limit : Int) (h : History) : History :=
  if 0 < limit then h.latest limit.toNat else h.drop (-limit).toNat

end History
end RouletteStrategy
