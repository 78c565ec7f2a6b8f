import RouletteStrategy.Json.Basic
import RouletteStrategy.Numeric.Literal
import RouletteStrategy.Text.Half

/-!
# Reading JSON text

`NaN` and the infinities are read as well. Of equal keys the last one counts.
-/

namespace RouletteStrategy.Json.Parser

def isGap (c : Char) : Bool := c == ' ' || c == '\t' || c == '\n' || c == '\r'

def skip (cs : List Char) : List Char := cs.dropWhile isGap

/-- What follows a word that the text starts with. -/
def word? : List Char → List Char → Option (List Char)
  | [], cs => some cs
  | w :: ws, c :: cs => if w = c then word? ws cs else none
  | _ :: _, [] => none

def hexDigit? (c : Char) : Option Nat :=
  if '0' ≤ c ∧ c ≤ '9' then some (c.toNat - 48)
  else if 'a' ≤ c ∧ c ≤ 'f' then some (c.toNat - 87)
  else if 'A' ≤ c ∧ c ≤ 'F' then some (c.toNat - 55)
  else none

/-- The code unit written with four hexadecimal digits. -/
def unit? (a b c d : Char) : Option Nat := do
  let a ← hexDigit? a
  let b ← hexDigit? b
  let c ← hexDigit? c
  let d ← hexDigit? d
  some (((a * 16 + b) * 16 + c) * 16 + d)

/-- The character of a one-letter escape. -/
def escaped? (c : Char) : Option Char :=
  match c with
  | '"' => some '"'
  | '\\' => some '\\'
  | '/' => some '/'
  | 'b' => some '\x08'
  | 'f' => some '\x0c'
  | 'n' => some '\n'
  | 'r' => some '\r'
  | 't' => some '\t'
  | _ => none

/-- The characters read so far, last one first, with a code point after them. -/
def put (n : Nat) (done : List Char) : List Char := (Text.spell n).reverse ++ done

/-- The characters read so far, once no second half follows. -/
def settle (half : Option Nat) (done : List Char) : List Char :=
  match half with
  | none => done
  | some n => put n done

/-- The rest of a text after its opening quote. `half` is the first half of a pair just read. -/
def text (half : Option Nat) (done : List Char) : List Char → Option (List Char × List Char)
  | [] => none
  | '"' :: cs => some ((settle half done).reverse, cs)
  | '\\' :: 'u' :: a :: b :: c :: d :: cs =>
    match unit? a b c d with
    | none => none
    | some n =>
      if Text.isHighHalf n then text (some n) (settle half done) cs
      else
        match half, Text.isLowHalf n with
        | some h, true => text none (put (Text.pairPoint h n) done) cs
        | _, _ => text none (put n (settle half done)) cs
  | '\\' :: c :: cs =>
    match escaped? c with
    | none => none
    | some c => text none (c :: settle half done) cs
  | c :: cs => if c.toNat < 0x20 then none else text none (c :: settle half done) cs

/-- A point with the digits after it, if both are there. -/
def fraction : List Char → List Char × List Char
  | '.' :: cs =>
    let ds := cs.takeWhile Char.isDigit
    if ds.isEmpty then ([], '.' :: cs) else (ds, cs.dropWhile Char.isDigit)
  | cs => ([], cs)

/-- An exponent with its digits, if both are there. -/
def exponent (cs : List Char) : Option Int × List Char :=
  match cs with
  | [] => (none, [])
  | c :: r =>
    if c = 'e' ∨ c = 'E' then
      let (negative, r) := Literal.sign r
      let ds := r.takeWhile Char.isDigit
      if ds.isEmpty then (none, cs)
      else
        let n : Int := Text.natOfDigits ds
        (some (if negative then -n else n), r.dropWhile Char.isDigit)
    else (none, cs)

/-- The digits before a point; a zero in front stands alone. -/
def wholeDigits : List Char → List Char
  | '0' :: _ => ['0']
  | cs => cs.takeWhile Char.isDigit

/-- A number without its sign. -/
def magnitude (negative : Bool) (cs : List Char) : Option (Json × List Char) :=
  let whole := wholeDigits cs
  let rest := cs.drop whole.length
  if whole.isEmpty then none
  else
    let (frac, rest) := fraction rest
    let (exp, rest) := exponent rest
    if frac.isEmpty && exp.isNone then
      if Literal.maxDigits < whole.length then none
      else
        let n : Int := Text.natOfDigits whole
        some (.int (if negative then -n else n), rest)
    else
      let d : Decimal := ⟨Text.natOfDigits (whole ++ frac), exp.getD 0 - frac.length⟩
      some (.float (d.toBinary64 negative), rest)

def number : List Char → Option (Json × List Char)
  | '-' :: cs => magnitude true cs
  | cs => magnitude false cs

/-- The words that stand for values. -/
def words : List (List Char × Json) :=
  [("null".toList, .null), ("true".toList, .bool true), ("false".toList, .bool false),
   ("NaN".toList, .float .nan), ("Infinity".toList, .float (.infinite false)),
   ("-Infinity".toList, .float (.infinite true))]

/-- A word or a number. -/
def scalar (cs : List Char) : Option (Json × List Char) :=
  match words.findSome? fun w => (word? w.1 cs).map (w.2, ·) with
  | some r => some r
  | none => number cs

/-- Why a text denotes no value. -/
inductive Fault where
  | malformed
  /-- Too many lists and objects are open at one place. -/
  | tooDeep
deriving DecidableEq, Repr

/-- How many lists and objects may be open at one place. -/
def maxOpen : Nat := 990

/-- A part that was read, with the text after it. -/
abbrev Step (α : Type) := Except Fault (α × List Char)

def Step.ofOption {α : Type} : Option (α × List Char) → Step α
  | some r => .ok r
  | none => .error .malformed

mutual

/-- A value at the start of the text, and the text after it. There is room for some more lists and
objects inside one another. -/
def value : Nat → Nat → List Char → Step Json
  | 0, _, _ => .error .malformed
  | fuel + 1, room, cs =>
    match cs with
    | '"' :: r => Step.ofOption ((text none [] r).map fun (s, r) => (.str (String.ofList s), r))
    | '[' :: r =>
      match room with
      | 0 => .error .tooDeep
      | room + 1 =>
        match skip r with
        | ']' :: r => .ok (.arr [], r)
        | r => (items fuel room r).map fun (xs, r) => (.arr xs, r)
    | '\x7b' :: r =>
      match room with
      | 0 => .error .tooDeep
      | room + 1 =>
        match skip r with
        | '\x7d' :: r => .ok (.obj [], r)
        | r => (members fuel room [] r).map fun (ms, r) => (.obj ms, r)
    | cs => Step.ofOption (scalar cs)

/-- The items of a list up to its closing bracket. -/
def items : Nat → Nat → List Char → Step (List Json)
  | 0, _, _ => .error .malformed
  | fuel + 1, room, cs =>
    match value fuel room cs with
    | .error fault => .error fault
    | .ok (x, r) =>
      match skip r with
      | ',' :: r => (items fuel room (skip r)).map fun (xs, r) => (x :: xs, r)
      | ']' :: r => .ok ([x], r)
      | _ => .error .malformed

/-- The members of an object up to its closing brace, after those read before. -/
def members : Nat → Nat → Object → List Char → Step Object
  | 0, _, _, _ => .error .malformed
  | fuel + 1, room, done, cs =>
    match cs with
    | '"' :: r =>
      match text none [] r with
      | none => .error .malformed
      | some (k, r) =>
        match skip r with
        | ':' :: r =>
          match value fuel room (skip r) with
          | .error fault => .error fault
          | .ok (v, r) =>
            let done := done.set (String.ofList k) v
            match skip r with
            | ',' :: r => members fuel room done (skip r)
            | '\x7d' :: r => .ok (done, r)
            | _ => .error .malformed
        | _ => .error .malformed
    | _ => .error .malformed

end

/-- The value that a whole text denotes. Two steps for each character are enough. -/
def parse (s : String) : Except Fault Json := do
  let cs := s.toList
  let (v, r) ← value (2 * cs.length + 2) maxOpen (skip cs)
  if (skip r).isEmpty then return v else throw .malformed

end RouletteStrategy.Json.Parser
