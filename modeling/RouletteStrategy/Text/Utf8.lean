import RouletteStrategy.Text.Half

/-!
# Characters of UTF-8 bytes

Bytes that start no character, or that break off in the middle of one, are read as one replacement
character.
-/

namespace RouletteStrategy.Text.Utf8

def replacement : Char := '\ufffd'

/-- A character that is still open: the bits read so far, the bounds of the next byte, and how many
bytes follow after that one. -/
structure Pending where
  bits : Nat
  low : Nat
  high : Nat
  more : Nat

/-- The bounds of a byte inside a character. The first one after some bytes is bounded further. -/
def innerLow : Nat := 0x80

def innerHigh : Nat := 0xbf

/-- What a byte opens that starts a character of several bytes. No character has a longer form than
it needs, none is half of a pair, and none lies beyond the last code point. -/
def opened? (b : Nat) : Option Pending :=
  if b < 0xc2 then none
  else if b < 0xe0 then some ⟨b - 0xc0, innerLow, innerHigh, 0⟩
  else if b = 0xe0 then some ⟨0, 0xa0, innerHigh, 1⟩
  else if b = 0xed then some ⟨0xd, innerLow, 0x9f, 1⟩
  else if b < 0xf0 then some ⟨b - 0xe0, innerLow, innerHigh, 1⟩
  else if b = 0xf0 then some ⟨0, 0x90, innerHigh, 2⟩
  else if b < 0xf4 then some ⟨b - 0xf0, innerLow, innerHigh, 2⟩
  else if b = 0xf4 then some ⟨4, innerLow, 0x8f, 2⟩
  else none

/-- A byte outside a character: what it denotes, and what it opens. -/
def start (b : Nat) : List Char × Option Pending :=
  if b < 0x80 then ([Char.ofNat b], none)
  else match opened? b with
    | some p => ([], some p)
    | none => ([replacement], none)

/-- A byte inside a character. One that is out of bounds breaks the character off and starts
anew. -/
def advance (p : Pending) (b : Nat) : List Char × Option Pending :=
  if p.low ≤ b ∧ b ≤ p.high then
    let bits := p.bits * 0x40 + (b - innerLow)
    match p.more with
    | 0 => ([Char.ofNat bits], none)
    | more + 1 => ([], some ⟨bits, innerLow, innerHigh, more⟩)
  else
    let (cs, p) := start b
    (replacement :: cs, p)

/-- The characters of bytes after an open character, if there is one. -/
def decodeFrom (pending : Option Pending) : List UInt8 → List Char
  | [] => if pending.isSome then [replacement] else []
  | b :: bs =>
    let (cs, next) := match pending with
      | some p => advance p b.toNat
      | none => start b.toNat
    cs ++ decodeFrom next bs

def decode (bytes : List UInt8) : List Char := decodeFrom none bytes

/-- What can be read of a text from its bytes: the text itself, unless there are halves in it. A
half has three bytes, and none of them starts a character. -/
def legible (s : String) : String :=
  if (points s).any isHalf then
    ofPoints ((points s).flatMap fun n =>
      if isHalf n then List.replicate 3 replacement.toNat else [n])
  else s

end RouletteStrategy.Text.Utf8
