/-! # What can be wrong with the name of a host -/

namespace RouletteStrategy.HostName

/-- What is wrong with a name. -/
inductive Fault where
  /-- Its length, its composition, its hyphens, its first mark or its encoding. -/
  | malformed
  /-- Code points of different directions, or of none that is known. -/
  | direction
  /-- A code point that no name has. -/
  | codePoint
  /-- A code point that may not stand where it does. -/
  | context
deriving DecidableEq, Repr

end RouletteStrategy.HostName
