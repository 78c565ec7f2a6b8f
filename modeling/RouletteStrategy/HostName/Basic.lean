import RouletteStrategy.HostName.Label
import RouletteStrategy.HostName.Punycode
import RouletteStrategy.Text.Half

/-!
# Names of hosts

A name is labels with dots between them. Labels of any script are encoded in letters, digits and
hyphens, behind a mark in front.
-/

namespace RouletteStrategy.HostName

/-- What an encoded label begins with. -/
def encodedStart : List Char := ['x', 'n', '-', '-']

def isEncoded (label : List Char) : Bool := encodedStart.isPrefixOf label

/-- What is wrong with a label in the characters below 128. -/
def plainFault? (label : List Char) : Option Fault :=
  if isEncoded label then
    let content := label.drop encodedStart.length
    if content.isEmpty || content.getLast? == some '-' then some .malformed
    else match Punycode.decode? content with
      | some ns => labelFault? ns
      | none => some .malformed
  else labelFault? (label.map Char.toNat)

/-- The dots between labels. -/
def dots : List Nat := [0x2e, 0x3002, 0xff0e, 0xff61]

/-- The labels of a name. -/
def splitLabels : List Nat → List (List Nat)
  | [] => [[]]
  | n :: ns =>
    if dots.contains n then [] :: splitLabels ns
    else match splitLabels ns with
      | [] => [[n]]
      | label :: labels => (n :: label) :: labels

/-- The labels of a name. A dot may stand at its end. -/
def labels (ns : List Nat) : List (List Nat) :=
  let all := splitLabels ns
  if 1 < all.length && all.getLast? == some [] then all.dropLast else all

/-- A label and a name that are sent may have this many characters. -/
def maxLabel : Nat := 63

def maxName : Nat := 253

/-- A label as it is sent, or what is wrong with it. -/
def encodeLabel (label : List Nat) : Except Fault (List Char) :=
  let isPlain := label.all (· < Punycode.initialPoint)
  let fault? := if isPlain then plainFault? (label.map Char.ofNat) else labelFault? label
  let encoded :=
    if isPlain then label.map Char.ofNat else encodedStart ++ Punycode.encode label
  match fault? with
  | some fault => .error fault
  | none => if encoded.length ≤ maxLabel then .ok encoded else .error .malformed

/-- What is wrong with a name of any script that is to be sent. A dot at its end does not count. -/
def encodingFault? (ns : List Nat) : Option Fault :=
  match (labels ns).mapM encodeLabel with
  | .error fault => some fault
  | .ok encoded => if maxName < (['.'].intercalate encoded).length then some .malformed else none

/-- What is wrong with a name that begins with an encoded label, when it is read back. It may have
any length. -/
def readingFault? (name : List Char) : Option Fault :=
  (labels (name.map Char.toNat)).findSome? fun label => plainFault? (label.map Char.ofNat)

end RouletteStrategy.HostName
