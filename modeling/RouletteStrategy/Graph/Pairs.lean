import RouletteStrategy.Error

/-!
# Objects given as lists of pairs

A list of two-item lists, two-character texts or objects of two members stands for an object.
-/

namespace RouletteStrategy.Pairs

/-- Where values come from. The values of one text that are no numbers are one value; of values that
were given apart, each is one of its own. -/
inductive Origin where
  | text
  | values
deriving DecidableEq, Repr

/-- Keys of objects may be any values that are neither lists nor objects. -/
abbrev Entries := List (Json × Json)

/-- An entry that does not have two items, with its index and length. -/
structure BadEntry where
  index : Nat
  length : Nat

/-- The value of a numeric key in the units of floats. -/
def keyUnits? : Json → Option Int
  | .bool b => some (if b then Binary64.unitsPerOne else 0)
  | .int i => some (i * Binary64.unitsPerOne)
  | .float x => if x.isFinite then some x.units else none
  | _ => none

/-- Equal keys: numbers and truth values by their numeric value. -/
def sameKey (origin : Origin) (a b : Json) : Bool :=
  match keyUnits? a, keyUnits? b with
  | some m, some n => m == n
  | none, none =>
    match a, b with
    | .null, .null => true
    | .str s, .str t => s == t
    | .float (.infinite s), .float (.infinite t) => s == t
    | .float .nan, .float .nan => origin == .text
    | _, _ => false
  | _, _ => false

/-- Replaces the value of an equal key in place, or adds the key at the end. -/
def set (origin : Origin) (es : Entries) (key value : Json) : Entries :=
  match es with
  | [] => [(key, value)]
  | (k, v) :: rest =>
    if sameKey origin k key then (k, value) :: rest else (k, v) :: set origin rest key value

/-- The texts of one character of a text. -/
def singles (s : String) : List Json := (Text.points s).map fun n => .str (Text.ofPoints [n])

/-- The items of an entry. -/
def entryItems : Json → Except Error (List Json)
  | .str s => .ok (singles s)
  | .arr vs => .ok vs
  | .obj ms => .ok (ms.map fun kv => .str kv.1)
  | _ => .error .wrongType

def isKey : Json → Bool
  | .arr _ | .obj _ => false
  | _ => true

/-- The entries of a list of pairs after those read before. -/
def ofItems (origin : Origin) (index : Nat) (done : Entries) :
    List Json → Except Error (Except BadEntry Entries)
  | [] => .ok (.ok done)
  | v :: vs => do
    match ← entryItems v with
    | [key, value] =>
      if isKey key then ofItems origin (index + 1) (set origin done key value) vs
      else .error .wrongType
    | items => return .error ⟨index, items.length⟩

/-- The entries of a value; a value that is not set has none. -/
def read (origin : Origin) (v : Json) : Except Error (Except BadEntry Entries) :=
  if !v.isSet then .ok (.ok [])
  else match v with
    | .obj ms => .ok (.ok (ms.map fun kv => (.str kv.1, kv.2)))
    | .arr vs => ofItems origin 0 [] vs
    | .str s => ofItems origin 0 [] (singles s)
    | _ => .error .wrongType

/-- The members with text keys, in order. -/
def textMembers (es : Entries) : Json.Object :=
  es.filterMap fun e => e.1.asString?.map (·, e.2)

/-- How a key that is no text is named in a path. -/
def keyStep : Json → String
  | .bool b => if b then "1" else "0"
  | k => k.display

/-- The keys that are no texts, in order. -/
def otherKeys (es : Entries) : List String :=
  es.filterMap fun e => if e.1.asString?.isSome then none else some (keyStep e.1)

end RouletteStrategy.Pairs
