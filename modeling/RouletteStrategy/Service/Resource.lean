import RouletteStrategy.Service.Address

/-!
# Resources of the service

What a path stands for, and where a client is sent on for slashes at its end.
-/

namespace RouletteStrategy.Service

/-- What the paths of the service stand for. -/
inductive Resource where
  | root
  | ping
  | health
  | templates
  | template (slug : String)
  | strategies
  | strategy (slug : String)
  | signal (slug : String)
deriving DecidableEq, Repr

namespace Resource

/-- The resource of a path that ends in a slug. -/
def ofSlugPath? (path : String) : Option Resource :=
  match Text.splitAt '/' path with
  | ["", "api", "templates", slug] => if slug = "" then none else some (.template slug)
  | ["", "api", "estrategias", slug] => if slug = "" then none else some (.strategy slug)
  | _ => none

/-- The resource of a path that ends in a word. -/
def ofWordPath? (path : String) : Option Resource :=
  match Text.splitAt '/' path with
  | ["", ""] => some .root
  | ["", "ping"] => some .ping
  | ["", "health"] => some .health
  | ["", "api", "templates"] => some .templates
  | ["", "api", "estrategias"] => some .strategies
  | ["", "api", "estrategias", slug, "sinal"] => if slug = "" then none else some (.signal slug)
  | _ => none

end Resource

/-- A text without the line break at its end. -/
def withoutBreak (s : String) : String :=
  match s.toList.reverse with
  | '\n' :: cs => String.ofList cs.reverse
  | _ => s

/-- The resource of a path. A line break after the last word is passed over, in a slug it counts. -/
def Resource.ofPath? (path : String) : Option Resource :=
  (ofSlugPath? path).or (ofWordPath? (withoutBreak path))

/-- The path without slashes at its end. -/
def withoutSlashes (path : String) : String :=
  String.ofList (path.toList.reverse.dropWhile (· == '/')).reverse

/-- A client lets itself be sent on this many times. -/
def maxRedirections : Nat := 20

/-- The resource of a path that arrived. Where a path means nothing but would without the slashes at
its end, the client is sent on to the path without them. There a `?` or `#` is part of the path: it
was escaped when the path was asked for, and it is escaped again. -/
def Resource.follow (longest room : Nat) (path : String) : Except Error (Option Resource) :=
  match ofPath? path with
  | some resource => .ok (some resource)
  | none =>
    let target := withoutSlashes path
    if target ≠ path ∧ (ofPath? target).isSome then
      if longest < escapedSize isInLocation (Text.points target) then
        .error .tooLongRedirection
      else match room with
        | 0 => .error .tooManyRedirections
        | room + 1 => follow longest room (arriving target)
    else .ok none

/-- The resource of an address, or nothing. -/
def Resource.find (address : String) : Except Error (Option Resource) :=
  let a := Address.ofString address
  follow (Address.maxLength - a.surroundingSize) maxRedirections (arriving a.requested)

end RouletteStrategy.Service
