/-!
# Punycode

Text in letters, digits and hyphens for any code points: those below 128 as they are, and behind the
last hyphen the others as differences in the order of their values.
-/

namespace RouletteStrategy.HostName.Punycode

/-- The value of a digit, of which there are 36. -/
def digitValue? (c : Char) : Option Nat :=
  if 'a' ≤ c ∧ c ≤ 'z' then some (c.toNat - 'a'.toNat)
  else if 'A' ≤ c ∧ c ≤ 'Z' then some (c.toNat - 'A'.toNat)
  else if '0' ≤ c ∧ c ≤ '9' then some (26 + (c.toNat - '0'.toNat))
  else none

def digit (d : Nat) : Char :=
  Char.ofNat (if d < 26 then 'a'.toNat + d else '0'.toNat + (d - 26))

/-- A digit below its threshold is the last of a number. -/
def threshold (place bias : Nat) : Nat := max 1 (min 26 (36 * (place + 1) - bias))

theorem threshold_pos (place bias : Nat) : 0 < threshold place bias := by
  unfold threshold
  omega

theorem threshold_le (place bias : Nat) : threshold place bias ≤ 26 := by
  unfold threshold
  omega

/-- How far a difference is divided down, and the bias for that. -/
def scaled (bias delta : Nat) : Nat :=
  if 455 < delta then scaled (bias + 36) (delta / 35) else bias + 36 * delta / (delta + 38)
termination_by delta

/-- The bias after a difference, when there are so many code points. -/
def adapt (delta count : Nat) (isFirst : Bool) : Nat :=
  let delta := delta / (if isFirst then 700 else 2)
  scaled 0 (delta + delta / count)

/-- A number in digits of growing weight, and what follows it. -/
def readNumber (bias place weight value : Nat) : List Char → Option (Nat × List Char)
  | [] => none
  | c :: cs =>
    match digitValue? c with
    | none => none
    | some d =>
      let t := threshold place bias
      let value := value + d * weight
      if d < t then some (value, cs) else readNumber bias (place + 1) (weight * (36 - t)) value cs

/-- The code points after the differences are resolved, of which there are no more than there is
fuel. `place` is where the last one went to, and `point` its value. -/
def insertAll : Nat → Nat → Nat → Nat → Bool → List Nat → List Char → Option (List Nat)
  | _, _, _, _, _, done, [] => some done
  | 0, _, _, _, _, _, _ :: _ => none
  | fuel + 1, place, point, bias, isFirst, done, c :: cs =>
    match readNumber bias 0 1 0 (c :: cs) with
    | none => none
    | some (delta, rest) =>
      let count := done.length + 1
      let point := point + (place + delta) / count
      let place := (place + delta) % count
      if 0x10ffff < point then none
      else
        insertAll fuel (place + 1) point (adapt delta count isFirst) false
          (done.take place ++ point :: done.drop place) rest

def initialPoint : Nat := 128

def initialBias : Nat := 72

/-- The code points of an encoded text. -/
def decode? (cs : List Char) : Option (List Nat) :=
  let tail := (cs.reverse.takeWhile (· != '-')).reverse
  let base := (cs.reverse.dropWhile (· != '-')).reverse.dropLast
  insertAll tail.length 0 initialPoint initialBias true (base.map Char.toNat) tail

/-- The digits of a number. -/
def writeNumber (bias place value : Nat) : List Char :=
  let t := threshold place bias
  if value < t then [digit value]
  else digit (t + (value - t) % (36 - t)) ::
    writeNumber bias (place + 1) ((value - t) / (36 - t))
termination_by value
decreasing_by
  have positive := threshold_pos place bias
  have bounded := threshold_le place bias
  have smaller := Nat.div_le_self (value - threshold place bias) (36 - threshold place bias)
  omega

/-- What has been written, the difference since, the bias, and how many code points are placed. -/
structure Progress where
  written : List Char
  delta : Nat
  bias : Nat
  placed : Nat

/-- Passes over a code point while those of a value are placed. -/
def Progress.pass (base value : Nat) (p : Progress) (n : Nat) : Progress :=
  if n < value then { p with delta := p.delta + 1 }
  else if n = value then
    ⟨p.written ++ writeNumber p.bias 0 p.delta, 0,
      adapt p.delta (p.placed + 1) (p.placed == base), p.placed + 1⟩
  else p

/-- Places the code points of each value. -/
def placeAll (ns : List Nat) (base : Nat) : Nat → Progress → List Nat → Progress
  | _, p, [] => p
  | next, p, value :: values =>
    let p := { p with delta := p.delta + (value - next) * (p.placed + 1) }
    let p := ns.foldl (Progress.pass base value) p
    placeAll ns base (value + 1) { p with delta := p.delta + 1 } values

/-- The values of code points from 128 on, in order and without repetition. -/
def values (ns : List Nat) : List Nat :=
  ((ns.filter (initialPoint ≤ ·)).mergeSort (· ≤ ·)).eraseReps

/-- Code points in letters, digits and hyphens. -/
def encode (ns : List Nat) : List Char :=
  let base := ns.filter (· < initialPoint)
  let p := placeAll ns base.length initialPoint ⟨[], 0, initialBias, base.length⟩ (values ns)
  (if base.isEmpty then [] else base.map Char.ofNat ++ ['-']) ++ p.written

end RouletteStrategy.HostName.Punycode
