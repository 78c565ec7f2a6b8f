import RouletteStrategy.HostName.CharTable
import RouletteStrategy.HostName.DirectionTable
import RouletteStrategy.HostName.Fault
import RouletteStrategy.Text.Composed

/-!
# Labels of host names

The rules for a label of code points of any script: composed, no hyphen at its ends, no mark in
front, only letters, digits and marks, some code points only beside certain others, and one
direction of writing.
-/

namespace RouletteStrategy.HostName

def hyphen : Nat := '-'.toNat

/-- Whether hyphens stand in the third and fourth place, or one stands at an end. -/
def hasBadHyphen (ns : List Nat) : Bool :=
  (ns.drop 2).take 2 == [hyphen, hyphen] || ns.head? == some hyphen || ns.getLast? == some hyphen

/-- Whether the code point that stands before joins with what follows. -/
def isVirama (n : Option Nat) : Bool := n.any (Text.combiningClass · == 9)

/-- The next code point that joining does not pass over. -/
def joining? (ns : List Nat) : Option Nat :=
  (ns.dropWhile (Text.inRanges transparentRanges)).head?

/-- Whether code points are joined at a place, given those before it, read backwards, and those
after it. -/
def isJoined (before after : List Nat) : Bool :=
  (joining? before).any (fun n =>
    Text.inRanges leftJoiningRanges n || Text.inRanges dualJoiningRanges n) &&
  (joining? after).any fun n =>
    Text.inRanges rightJoiningRanges n || Text.inRanges dualJoiningRanges n

def nonJoiner : Nat := 0x200c

def joiner : Nat := 0x200d

def middleDot : Nat := 0xb7

def numeralSign : Nat := 0x375

def katakanaDot : Nat := 0x30fb

def isHebrewPunctuation (n : Nat) : Bool := n == 0x5f3 || n == 0x5f4

def isArabicDigit (n : Nat) : Bool := 0x660 ≤ n && n ≤ 0x669

def isExtendedArabicDigit (n : Nat) : Bool := 0x6f0 ≤ n && n ≤ 0x6f9

def isJapanese (n : Nat) : Bool :=
  Text.inRanges hiraganaRanges n || Text.inRanges katakanaRanges n || Text.inRanges hanRanges n

/-- What is wrong with a code point between those before it, read backwards, and those after it. -/
def codePointFault? (before : List Nat) (n : Nat) (after : List Nat) : Option Fault :=
  let others := before ++ after
  let fits (ok : Bool) : Option Fault := if ok then none else some .context
  if Text.inRuns nameRuns n then none
  else if n = nonJoiner then fits (isVirama before.head? || isJoined before after)
  else if n = joiner then fits (isVirama before.head?)
  else if n = middleDot then
    fits (before.head? == some 'l'.toNat && after.head? == some 'l'.toNat)
  else if n = numeralSign then fits (after.head?.any (Text.inRanges greekRanges))
  else if isHebrewPunctuation n then fits (before.head?.any (Text.inRanges hebrewRanges))
  else if n = katakanaDot then fits (others.any isJapanese)
  else if isArabicDigit n then fits (!others.any isExtendedArabicDigit)
  else if isExtendedArabicDigit n then fits (!others.any isArabicDigit)
  else some .codePoint

/-- The first fault of a code point after those before, which are read backwards. -/
def codePointFaults? (before : List Nat) : List Nat → Option Fault
  | [] => none
  | n :: after => (codePointFault? before n after).or (codePointFaults? (n :: before) after)

/-- How a code point is written. -/
inductive Direction where
  | left | right | arabicNumber | europeanNumber | attached | undirected | unknown
deriving DecidableEq, Repr

def Direction.of (n : Nat) : Direction :=
  if Text.inRanges unknownRanges n then .unknown
  else if Text.inRanges rightToLeftRanges n then .right
  else if Text.inRanges arabicNumberRanges n then .arabicNumber
  else if Text.inRanges europeanNumberRanges n then .europeanNumber
  else if Text.inRanges attachedRanges n then .attached
  else if Text.inRanges undirectedRanges n then .undirected
  else .left

/-- Whether a label has one direction, and all of its code points have one that is known. More is
asked only of labels with code points that run from right to left: such a label begins with a
letter, holds none of the other direction and numbers of one kind, and ends, marks aside, with a
letter or a number. -/
def hasOneDirection (ns : List Nat) : Bool :=
  let ds := ns.map Direction.of
  let last := (ds.reverse.dropWhile (· == .attached)).head?
  if ds.contains .unknown then false
  else if !ds.contains .right && !ds.contains .arabicNumber then true
  else match ds.head? with
    | some .right =>
      !ds.contains .left && !(ds.contains .arabicNumber && ds.contains .europeanNumber) &&
        last != some .undirected
    | _ => false

/-- What is wrong with a label. -/
def labelFault? (ns : List Nat) : Option Fault :=
  if ns.isEmpty || !Text.isComposed ns || hasBadHyphen ns ||
      ns.head?.any (Text.inRanges markRanges) then
    some .malformed
  else (codePointFaults? [] ns).or (if hasOneDirection ns then none else some .direction)

end RouletteStrategy.HostName
