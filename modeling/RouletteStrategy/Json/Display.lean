import RouletteStrategy.Json.Number
import RouletteStrategy.Text.Quoted

/-! # Values as text for messages, names and comparisons -/

namespace RouletteStrategy.Json

def displayWords : NumberWords := ⟨"inf", "nan"⟩

mutual

/-- The text of a value inside a list or object: texts are quoted there. -/
def inspect : Json → List Char
  | .null => "None".toList
  | .bool true => "True".toList
  | .bool false => "False".toList
  | .int i => integerText i
  | .float x => floatText displayWords x
  | .str s => Text.quotedChars s.toList
  | .arr xs => '[' :: (inspectItems xs ++ [']'])
  | .obj ms => '\x7b' :: (inspectMembers ms ++ ['\x7d'])

def inspectItems : List Json → List Char
  | [] => []
  | x :: xs => inspect x ++ (if xs.isEmpty then [] else ',' :: ' ' :: inspectItems xs)

def inspectMembers : List (String × Json) → List Char
  | [] => []
  | (k, v) :: ms =>
    Text.quotedChars k.toList ++ ':' :: ' ' :: (inspect v ++
      (if ms.isEmpty then [] else ',' :: ' ' :: inspectMembers ms))

end

/-- The text of a value: texts as they are, other values as inside a list. -/
def display : Json → String
  | .str s => s
  | v => String.ofList v.inspect

/-- The text of a value that is set, and the empty text for any other. -/
def displayIfSet (v : Json) : String := if v.isSet then v.display else ""

end RouletteStrategy.Json
