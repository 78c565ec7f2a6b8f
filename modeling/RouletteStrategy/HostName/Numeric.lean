import RouletteStrategy.Text.Split

/-!
# Numeric host names

Four numbers with dots, and eight groups of hexadecimal digits with colons.
-/

namespace RouletteStrategy.HostName

/-- A number up to 255 without zeros in front. -/
def isByteText (s : String) : Bool :=
  s.length ≤ 3 && s.toNat?.any (· ≤ 255) && (s == "0" || s.toList.head? != some '0')

def isDigits (s : String) : Bool := s != "" && s.toList.all Char.isDigit

/-- Whether a text has the form of four numbers with dots. -/
def isDotted (s : String) : Bool :=
  let parts := Text.splitAt '.' s
  parts.length == 4 && parts.all isDigits

/-- Whether a text is four bytes with dots. -/
def isFourBytes (s : String) : Bool :=
  isDotted s && (Text.splitAt '.' s).all isByteText

def isHexDigit (c : Char) : Bool := c.isDigit || 'a' ≤ c && c ≤ 'f' || 'A' ≤ c && c ≤ 'F'

/-- A group of up to four hexadecimal digits. -/
def isGroup (s : String) : Bool := s != "" && s.length ≤ 4 && s.toList.all isHexDigit

/-- The groups with four bytes at the end in place of the two groups that they stand for. -/
def withoutBytes? (groups : List String) : Option (List String) :=
  let last := groups.getLast?.getD ""
  if last.toList.contains '.' then
    if isFourBytes last then some (groups.dropLast ++ ["0", "0"]) else none
  else some groups

/-- The groups on one side of a gap. Where the text begins or ends with the gap, there is none. -/
def besideGap (groups : List String) : List String := if groups == [""] then [] else groups

/-- The places of gaps, which are neither the first nor the last group. -/
def gaps (groups : List String) : List Nat :=
  (List.range (groups.length - 1)).filter fun i => 0 < i && groups[i]? == some ""

/-- Whether groups are eight, or fewer with one gap that stands for the others. -/
def areGroups (groups : List String) : Bool :=
  match gaps groups with
  | [] => groups.length == 8 && groups.all isGroup
  | [gap] =>
    let before := besideGap (groups.take gap)
    let after := besideGap (groups.drop (gap + 1))
    before.length + after.length ≤ 7 && before.all isGroup && after.all isGroup
  | _ => false

/-- Whether a text is groups with colons, and possibly a zone after a percent sign. -/
def isEightGroups (s : String) : Bool :=
  match Text.splitAt '%' s with
  | [name] => isGrouped name
  | [name, zone] => zone != "" && isGrouped name
  | _ => false
where
  isGrouped (name : String) : Bool :=
    let groups := Text.splitAt ':' name
    3 ≤ groups.length && (withoutBytes? groups).any fun groups =>
      groups.length ≤ 9 && areGroups groups

end RouletteStrategy.HostName
