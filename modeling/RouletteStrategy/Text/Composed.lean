import RouletteStrategy.Text.CodeRange
import RouletteStrategy.Text.ComposedTable

/-!
# Composed text

Code points that combine with the one before them are put in the order of their classes, and
characters that stand for two code points are put in place of the two. A text that is left as it is
by this is composed.
-/

namespace RouletteStrategy.Text

/-- The class of a code point that combines with one before it, or zero. -/
def combiningClass (n : Nat) : Nat :=
  match combiningRuns.find? fun r => r.1 ≤ n && n ≤ r.2.1 with
  | some r => r.2.2
  | none => 0

/-- The code points that a composite stands for, at most so deep. -/
def parts (depth n : Nat) : List Nat :=
  match depth, composites.find? (·.1 == n) with
  | depth + 1, some c => parts depth c.2.1 ++ [c.2.2]
  | _, _ => [n]

/-- Composites are nested at most so deep. -/
def compositeDepth : Nat := 3

/-- Puts a code point in front, behind those of lower classes that it may stand behind. -/
def insertByClass (n : Nat) : List Nat → List Nat
  | [] => [n]
  | m :: ms =>
    if combiningClass m ≠ 0 ∧ combiningClass m < combiningClass n then m :: insertByClass n ms
    else n :: m :: ms

/-- The code points in order of their classes between those that do not combine. -/
def inClassOrder (ns : List Nat) : List Nat := ns.foldr insertByClass []

def hangulBase : Nat := 0xac00

/-- The syllable of a leading consonant and a vowel, or of a syllable without a trailing consonant
and one. -/
def syllable? (a b : Nat) : Option Nat :=
  if 0x1100 ≤ a ∧ a < 0x1113 ∧ 0x1161 ≤ b ∧ b < 0x1176 then
    some (hangulBase + ((a - 0x1100) * 21 + (b - 0x1161)) * 28)
  else if hangulBase ≤ a ∧ a < 0xd7a4 ∧ (a - hangulBase) % 28 = 0 ∧ 0x11a7 < b ∧ b < 0x11c3 then
    some (a + (b - 0x11a7))
  else none

/-- The character that stands for two code points. -/
def composite? (a b : Nat) : Option Nat :=
  ((composites.find? fun c => c.2.1 == a && c.2.2 == b).map (·.1)).or (syllable? a b)

/-- Composes the code points after one that does not combine. `between` holds those after it that
were not composed with it, backwards. -/
def composeAfter (base : Nat) (between : List Nat) : List Nat → List Nat
  | [] => base :: between.reverse
  | n :: ns =>
    let isBlocked := match between with
      | [] => false
      | m :: _ => combiningClass m = 0 ∨ combiningClass n ≤ combiningClass m
    match if isBlocked then none else composite? base n with
    | some c => composeAfter c between ns
    | none =>
      if combiningClass n = 0 then base :: between.reverse ++ composeAfter n [] ns
      else composeAfter base (n :: between) ns

/-- The code points of a text with composites in place of their parts. -/
def compose : List Nat → List Nat
  | [] => []
  | n :: ns =>
    if combiningClass n = 0 then composeAfter n [] ns else n :: compose ns

/-- Whether the code points are those of a composed text. -/
def isComposed (ns : List Nat) : Bool :=
  ns.all (fun n => !inRanges neverComposed n) &&
    compose (inClassOrder (ns.flatMap (parts compositeDepth))) == ns

end RouletteStrategy.Text
