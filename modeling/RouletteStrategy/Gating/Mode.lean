import RouletteStrategy.Json.Display
import RouletteStrategy.Text.Lower

/-! # Modes of selecting the final numbers -/

namespace RouletteStrategy

/-- Numbers set by hand, numbers derived by conditions, or both. Any other mode keeps the derived
numbers without a limit. -/
inductive SelectionMode where
  | manual | automatic | hybrid
  | other (name : String)
deriving DecidableEq, Repr

namespace SelectionMode

def name : SelectionMode → String
  | .manual => "manual"
  | .automatic => "automatic"
  | .hybrid => "hybrid"
  | .other name => name

def known : List SelectionMode := [.manual, .automatic, .hybrid]

def ofName (name : String) : SelectionMode := (known.find? (·.name == name)).getD (.other name)

/-- The mode that a value names without regard to case. -/
def read? (v : Json) : Option SelectionMode := known.find? (·.name == Text.fold v.displayIfSet)

/-- The mode that a value names; any other value gives way to the default. -/
def read (v : Json) (default : SelectionMode) : SelectionMode := (read? v).getD default

end SelectionMode
end RouletteStrategy
