import RouletteStrategy.Json.Number
import RouletteStrategy.Text.Quoted

/-! # JSON text of values -/

namespace RouletteStrategy.Json

/-- Line breaks and the separator after a key. -/
structure Style where
  /-- What stands before an item at a depth. -/
  newline : Nat → List Char
  colon : List Char

namespace Style

def compact : Style := ⟨fun _ => [], [':']⟩

/-- One item a line, two spaces for each depth. -/
def indented : Style := ⟨fun depth => '\n' :: List.replicate (2 * depth) ' ', [':', ' ']⟩

end Style

def numberWords : NumberWords := ⟨"Infinity", "NaN"⟩

def escapeChar (c : Char) : List Char :=
  if c = '"' then ['\\', '"']
  else if c = '\\' then ['\\', '\\']
  else if c = '\n' then ['\\', 'n']
  else if c = '\r' then ['\\', 'r']
  else if c = '\t' then ['\\', 't']
  else if c = '\x08' then ['\\', 'b']
  else if c = '\x0c' then ['\\', 'f']
  else if c.toNat < 0x20 then Text.unitEscape c.toNat
  else [c]

def writeText (s : String) : List Char := '"' :: (s.toList.flatMap escapeChar ++ ['"'])

mutual

/-- The text of a value whose first line stands at a depth. -/
def write (style : Style) (depth : Nat) : Json → List Char
  | .null => "null".toList
  | .bool true => "true".toList
  | .bool false => "false".toList
  | .int i => integerText i
  | .float x => floatText numberWords x
  | .str s => writeText s
  | .arr xs =>
    if xs.isEmpty then ['[', ']']
    else '[' :: (style.newline (depth + 1) ++ writeItems style (depth + 1) xs ++
      style.newline depth ++ [']'])
  | .obj ms =>
    if ms.isEmpty then ['\x7b', '\x7d']
    else '\x7b' :: (style.newline (depth + 1) ++ writeMembers style (depth + 1) ms ++
      style.newline depth ++ ['\x7d'])

def writeItems (style : Style) (depth : Nat) : List Json → List Char
  | [] => []
  | x :: xs =>
    write style depth x ++
      (if xs.isEmpty then [] else ',' :: (style.newline depth ++ writeItems style depth xs))

def writeMembers (style : Style) (depth : Nat) : List (String × Json) → List Char
  | [] => []
  | (k, v) :: ms =>
    writeText k ++ style.colon ++ write style depth v ++
      (if ms.isEmpty then [] else ',' :: (style.newline depth ++ writeMembers style depth ms))

end

def render (style : Style) (v : Json) : String := String.ofList (write style 0 v)

/-- A code point in ASCII: one beyond it as the escapes of its units. -/
def asciiEscape (n : Nat) : List Char :=
  if n < 0x7f then [Char.ofNat n]
  else if n < 0x10000 then Text.unitEscape n
  else
    let m := n - 0x10000
    Text.unitEscape (0xd800 + m / 0x400) ++ Text.unitEscape (0xdc00 + m % 0x400)

/-- The text of a value as one line of ASCII. -/
def line (v : Json) : String :=
  String.ofList ((Text.pointsOf (write .compact 0 v)).flatMap asciiEscape)

/-- The one-line text with sorted keys that stands for a value up to the order of keys. -/
def canonical (v : Json) : String := render .compact v.sorted

/-- The text for readers, with sorted keys. -/
def pretty (v : Json) : String := render .indented v.sorted

end RouletteStrategy.Json
