import RouletteStrategy.Json.Reading
import RouletteStrategy.Text.Split

/-!
# Configurations of conditions

A setting may have several names; the first one that holds something other than null counts.
-/

namespace RouletteStrategy

/-- An object of settings. Lists and texts hold no settings, and asking them for a name that
they contain is an error, as is asking anything else. -/
abbrev Config := Json

namespace Config

def lookup? (config : Config) (key : String) : Except Error (Option Json) :=
  match config with
  | .obj ms => .ok ((Members.get? ms key).filter (!·.isNull))
  | .arr vs =>
    if vs.any fun v => v.asString? == some key then .error .wrongType else .ok none
  | .str s => if Text.occursIn key.toList s.toList then .error .wrongType else .ok none
  | v => if v.isSet then .error .wrongType else .ok none

/-- The value of the first name in use, or null. -/
def find (config : Config) : List String → Except Error Json
  | [] => .ok .null
  | key :: keys => do
    match ← lookup? config key with
    | some v => return v
    | none => find config keys

/-- The greatest count that a setting may have. -/
def maxCount : Nat := 10000

def count (config : Config) (keys : List String) (default low high : Nat) : Except Error Nat := do
  let v ← find config keys
  return (← v.clampInt low high default).toNat

/-- A share from zero to one. -/
def share (config : Config) (keys : List String) (default : Binary64) : Except Error Binary64 := do
  let v ← find config keys
  v.clampFloat Binary64.zero (Binary64.ofInt 1) default

def flag (config : Config) (keys : List String) (default : Bool) : Except Error Bool := do
  return (← find config keys).flag default

def word (config : Config) (keys : List String) (default : String) : Except Error String := do
  return (← find config keys).wordOr default

def list (config : Config) (keys : List String) : Except Error (List Json) := do
  return (← find config keys).items

end Config
end RouletteStrategy
