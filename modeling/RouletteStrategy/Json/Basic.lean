import RouletteStrategy.Members
import RouletteStrategy.Numeric.Binary64

/-! # JSON values, with integers and floats kept apart -/

namespace RouletteStrategy

inductive Json where
  | null
  | bool (b : Bool)
  | int (i : Int)
  | float (x : Binary64)
  | str (s : String)
  | arr (items : List Json)
  | obj (members : List (String × Json))
deriving Inhabited, Repr

namespace Json

abbrev Object := Members Json

def isNull : Json → Bool
  | .null => true
  | _ => false

/-- Anything but null, false, zero and the empty text, list and object. -/
def isSet : Json → Bool
  | .null => false
  | .bool b => b
  | .int i => i != 0
  | .float x => !x.isZero
  | .str s => s != ""
  | .arr xs => !xs.isEmpty
  | .obj ms => !ms.isEmpty

/-- A value that is set, or else the other one. -/
def orElse (v default : Json) : Json := if v.isSet then v else default

def asObject? : Json → Option Object
  | .obj ms => some ms
  | _ => none

def asString? : Json → Option String
  | .str s => some s
  | _ => none

/-- The members of an object; no members for any other value. -/
def members : Json → Object
  | .obj ms => ms
  | _ => []

def ofNat (n : Nat) : Json := .int n

def ofOption {α : Type} (f : α → Json) : Option α → Json
  | none => .null
  | some a => f a

def ofInts (ns : List Int) : Json := .arr (ns.map .int)

def ofBools (bs : List Bool) : Json := .arr (bs.map .bool)

def ofStrings (ss : List String) : Json := .arr (ss.map .str)

/-- The value under a key, null where the key is missing. -/
def Object.at (o : Object) (key : String) : Json := (o.get? key).getD .null

mutual

/-- The value with null for every NaN and infinity. -/
def finite : Json → Json
  | .float x => if x.isFinite then .float x else .null
  | .arr xs => .arr (finiteItems xs)
  | .obj ms => .obj (finiteMembers ms)
  | v => v

def finiteItems : List Json → List Json
  | [] => []
  | x :: xs => finite x :: finiteItems xs

def finiteMembers : List (String × Json) → List (String × Json)
  | [] => []
  | (k, v) :: ms => (k, finite v) :: finiteMembers ms

end

mutual

/-- Whether every number in the value is finite. -/
def isFinite : Json → Bool
  | .float x => x.isFinite
  | .arr xs => isFiniteItems xs
  | .obj ms => isFiniteMembers ms
  | _ => true

def isFiniteItems : List Json → Bool
  | [] => true
  | x :: xs => isFinite x && isFiniteItems xs

def isFiniteMembers : List (String × Json) → Bool
  | [] => true
  | (_, v) :: ms => isFinite v && isFiniteMembers ms

end

mutual

/-- How many lists and objects are open at most at one place of the value. -/
def height : Json → Nat
  | .arr xs => heightOfItems xs + 1
  | .obj ms => heightOfMembers ms + 1
  | _ => 0

def heightOfItems : List Json → Nat
  | [] => 0
  | x :: xs => max (height x) (heightOfItems xs)

def heightOfMembers : List (String × Json) → Nat
  | [] => 0
  | (_, v) :: ms => max (height v) (heightOfMembers ms)

end

mutual

/-- The value with the members of every object in order of their keys. -/
def sorted : Json → Json
  | .arr xs => .arr (sortedItems xs)
  | .obj ms => .obj (Members.sorted (sortedMembers ms))
  | v => v

def sortedItems : List Json → List Json
  | [] => []
  | x :: xs => sorted x :: sortedItems xs

def sortedMembers : List (String × Json) → List (String × Json)
  | [] => []
  | (k, v) :: ms => (k, sorted v) :: sortedMembers ms

end

end Json
end RouletteStrategy
