/-!
# Binary64 numbers

A finite number is an exact signed multiple of a power of two, so order, rounding and division
are integer arithmetic. Every finite number is a whole number of `unit`s of `2 ^ -1074`.
-/

namespace RouletteStrategy

/-- The quotient `n / d` to the nearest integer, a half going to the even neighbour. -/
def roundHalfEven (n d : Nat) : Nat :=
  let q := n / d
  let r := n % d
  if 2 * r < d then q
  else if d < 2 * r then q + 1
  else if q % 2 = 0 then q
  else q + 1

/-- A number with decimal zeros appended. -/
def appendZeros (n zeros : Nat) : Nat := n * Nat.pow 10 zeros

/-- The mantissas and exponents of the format: 53 bits, the leading one set unless the exponent
is the least. -/
abbrev Binary64.Canonical (mantissa : Nat) (exponent : Int) : Prop :=
  mantissa < 1 <<< 53 ∧ -1074 ≤ exponent ∧ exponent ≤ 971 ∧
    (1 <<< 52 ≤ mantissa ∨ exponent = -1074)

inductive Binary64 where
  | finite (negative : Bool) (mantissa : Nat) (exponent : Int)
      (canonical : Binary64.Canonical mantissa exponent)
  | infinite (negative : Bool)
  | nan
deriving DecidableEq, Repr

namespace Binary64

def zero : Binary64 := .finite false 0 (-1074) (by decide)

instance : Inhabited Binary64 := ⟨zero⟩

/-- A pair outside the format stands for a magnitude beyond the largest finite one. -/
def ofParts (negative : Bool) (mantissa : Nat) (exponent : Int) : Binary64 :=
  if h : Canonical mantissa exponent then .finite negative mantissa exponent h
  else .infinite negative

/-- The exponent of the leading bit of a positive quotient. -/
def leadingExponent (n d : Nat) : Int :=
  let e : Int := (n.log2 : Int) - d.log2
  if d <<< e.toNat ≤ n <<< (-e).toNat then e else e - 1

/-- The number nearest to `n / d`, ties to the even mantissa. -/
def ofRatio (negative : Bool) (n d : Nat) : Binary64 :=
  if n = 0 then .finite negative 0 (-1074) (by decide)
  else
    let q := max (-1074) (leadingExponent n d - 52)
    let m := roundHalfEven (n <<< (-q).toNat) (d <<< q.toNat)
    if m = 1 <<< 53 then ofParts negative (1 <<< 52) (q + 1) else ofParts negative m q

def ofInt (i : Int) : Binary64 := ofRatio (decide (i < 0)) i.natAbs 1

/-- The number nearest to an integer, unless that is beyond the largest finite one. -/
def ofInt? (i : Int) : Option Binary64 :=
  match ofInt i with
  | .finite s m q h => some (.finite s m q h)
  | _ => none

def isFinite : Binary64 → Bool
  | .finite .. => true
  | _ => false

/-- The value in units of `2 ^ -1074`; zero for what is not finite. -/
def units : Binary64 → Int
  | .finite s m q _ =>
    let n : Int := (m <<< (q + 1074).toNat : Nat)
    if s then -n else n
  | _ => 0

/-- The units in one. -/
def unitsPerOne : Nat := 1 <<< 1074

/-- The place among the infinities: below, at or above the finite numbers. -/
def rank : Binary64 → Int
  | .infinite s => if s then -1 else 1
  | _ => 0

/-- Order of numbers; both zeros are equal, and a NaN is neither below nor above any number. -/
def lt (x y : Binary64) : Bool :=
  x != .nan && y != .nan &&
    (decide (x.rank < y.rank) || (x.rank == y.rank && decide (x.units < y.units)))

def isInteger (x : Binary64) : Bool := x.isFinite && x.units % unitsPerOne == 0

/-- Truncation of the magnitude. -/
def truncate (x : Binary64) : Int := x.units.tdiv unitsPerOne

def floor (x : Binary64) : Int := x.units.fdiv unitsPerOne

/-- The nearest integer, a half going to the even neighbour. -/
def round (x : Binary64) : Int :=
  let n : Int := roundHalfEven x.units.natAbs unitsPerOne
  if x.units < 0 then -n else n

/-- The nearest number with the given count of decimal places, judged on the exact value. -/
def roundPlaces (places : Nat) : Binary64 → Binary64
  | .finite s m q h =>
    let n := (Binary64.finite s m q h).units.natAbs
    ofRatio s (roundHalfEven (appendZeros n places) unitsPerOne) (appendZeros 1 places)
  | x => x

def isZero : Binary64 → Bool
  | .finite _ m _ _ => m == 0
  | _ => false

end Binary64
end RouletteStrategy
