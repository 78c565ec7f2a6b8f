import RouletteStrategy.Error
import RouletteStrategy.Text.Utf8

/-!
# Free objects as they are written

Objects with members of any kind are written with null for numbers that are not finite. Their own
keys may hold halves of surrogate pairs, of which replacements are left; keys further inside may
not. Values stand inside one another up to a fixed depth.
-/

namespace RouletteStrategy.Json

/-- Values under the keys of a free object are at most this high. -/
def maxHeight : Nat := 255

mutual

/-- The first obstacle to writing a value that may be as high as there is room. -/
def obstacle? (room : Nat) (v : Json) : Option Error :=
  match room, v with
  | 0, _ => some .tooDeep
  | room + 1, .arr xs => obstacleInItems? room xs
  | room + 1, .obj ms => obstacleInMembers? room ms
  | _ + 1, _ => none

def obstacleInItems? (room : Nat) : List Json → Option Error
  | [] => none
  | x :: xs => (obstacle? room x).or (obstacleInItems? room xs)

def obstacleInMembers? (room : Nat) : List (String × Json) → Option Error
  | [] => none
  | (k, v) :: ms =>
    match Text.halfRun? k with
    | some run => some (.notEncodable run)
    | none => (obstacle? room v).or (obstacleInMembers? room ms)

end

namespace Object

/-- The first obstacle to writing a free object. Its own keys are none. -/
def obstacle? (o : Object) : Option Error := o.findSome? fun kv => kv.2.obstacle? maxHeight

/-- The members of a free object as they are written. Where keys become equal, the last one
counts. -/
def written (o : Object) : Object :=
  Members.overlay [] (o.map fun kv => (Text.Utf8.legible kv.1, kv.2.finite))

end Object
end RouletteStrategy.Json
