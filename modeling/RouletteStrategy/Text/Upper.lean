/-!
# Upper case as far as it is ASCII

Words in ASCII capitals may be given in any letters with that upper case.
-/

namespace RouletteStrategy.Text

/-- The upper case of a character if all of it is ASCII, or else the character. -/
def asciiUpperChar (c : Char) : List Char :=
  match c with
  | 'ß' => ['S', 'S']
  | 'ı' => ['I']
  | 'ſ' => ['S']
  | 'ﬀ' => ['F', 'F']
  | 'ﬁ' => ['F', 'I']
  | 'ﬂ' => ['F', 'L']
  | 'ﬃ' => ['F', 'F', 'I']
  | 'ﬄ' => ['F', 'F', 'L']
  | 'ﬅ' | 'ﬆ' => ['S', 'T']
  | c => [c.toUpper]

/-- A text with the letters in upper case whose upper case is ASCII. -/
def asciiUpper (s : String) : String := String.ofList (s.toList.flatMap asciiUpperChar)

end RouletteStrategy.Text
