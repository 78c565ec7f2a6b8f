import RouletteStrategy.Numeric.Binary64

/-!
# Decimal text of binary64 numbers

`Binary64.shortest` is the decimal of fewest digits that reads back as the same number, and of
those the nearest one.
-/

namespace RouletteStrategy

/-- The number `digits * 10 ^ exponent`. -/
structure Decimal where
  digits : Nat
  exponent : Int
deriving DecidableEq, Repr

namespace Decimal

/-- The decimal digits of a number, most significant first. -/
def digitChars (n : Nat) : List Char := Nat.toDigits 10 n

/-- The number nearest to a decimal. Magnitudes from `10 ^ 400` on and below `10 ^ -400` lie
outside the format. -/
def toBinary64 (negative : Bool) (d : Decimal) : Binary64 :=
  let size := d.exponent + (digitChars d.digits).length
  if d.digits = 0 ∨ size < -400 then Binary64.ofRatio negative 0 1
  else if 400 < size then .infinite negative
  else Binary64.ofRatio negative (appendZeros d.digits d.exponent.toNat)
    (appendZeros 1 (-d.exponent).toNat)

/-- The same value without trailing zero digits. The fuel is the digit count. -/
def trim (d : Decimal) : Decimal :=
  go (digitChars d.digits).length d
where
  go : Nat → Decimal → Decimal
    | 0, d => d
    | fuel + 1, d =>
      if d.digits ≠ 0 ∧ d.digits % 10 = 0 then go fuel ⟨d.digits / 10, d.exponent + 1⟩ else d

/-- Where a decimal is written without an exponent, and how many digits an exponent has. -/
structure Layout where
  /-- The least position of the decimal point written positionally. -/
  pointFrom : Int
  /-- The greatest position of the decimal point written positionally. -/
  pointTo : Int
  exponentWidth : Nat

/-- The digits with their decimal point, with `.0` on a whole number. -/
def positional (ds : List Char) (point : Int) : List Char :=
  if point ≤ 0 then '0' :: '.' :: (List.replicate (-point).toNat '0' ++ ds)
  else if (ds.length : Int) ≤ point then
    ds ++ List.replicate (point - ds.length).toNat '0' ++ ['.', '0']
  else ds.take point.toNat ++ '.' :: ds.drop point.toNat

/-- The digits with one before the decimal point, and an exponent with its sign. -/
def scientific (width : Nat) (ds : List Char) (e : Int) : List Char :=
  let body := match ds with
    | d :: r => if r.isEmpty then [d] else d :: '.' :: r
    | [] => []
  let es := digitChars e.natAbs
  let sign := if e < 0 then '-' else '+'
  body ++ 'e' :: sign :: (List.replicate (width - es.length) '0' ++ es)

def render (layout : Layout) (d : Decimal) : List Char :=
  let ds := digitChars d.digits
  let point := d.exponent + ds.length
  if d.digits = 0 then ['0', '.', '0']
  else if layout.pointFrom ≤ point ∧ point ≤ layout.pointTo then positional ds point
  else scientific layout.exponentWidth ds (point - 1)

end Decimal

namespace Binary64

/-- The exponent of the leading decimal digit of a positive quotient. -/
def leadingPlace (n d : Nat) : Int :=
  let e : Int := ((Decimal.digitChars n).length : Int) - (Decimal.digitChars d).length
  if appendZeros d e.toNat ≤ appendZeros n (-e).toNat then e else e - 1

/-- The decimal of the grid `10 ^ place` nearest to `n / d` among the two neighbours that read
back as `x`; an exact tie goes to the even digit. -/
def onGrid? (x : Binary64) (negative : Bool) (n d : Nat) (place : Int) : Option Decimal :=
  let num := appendZeros n (-place).toNat
  let den := appendZeros d place.toNat
  let low : Decimal := ⟨num / den, place⟩
  let high : Decimal := ⟨num / den + 1, place⟩
  match low.toBinary64 negative == x, high.toBinary64 negative == x with
  | true, true => some ⟨roundHalfEven num den, place⟩
  | true, false => some low
  | false, true => some high
  | false, false => none

/-- The decimal of fewest digits that reads back as a finite number, by grids from one digit to
seventeen, and the exact value where none of them reads back. -/
def shortest : Binary64 → Decimal
  | .finite s m q h =>
    let n := m <<< q.toNat
    let d := 1 <<< (-q).toNat
    let lead := leadingPlace n d
    let found := (List.range 17).findSome? fun k : Nat =>
      onGrid? (.finite s m q h) s n d (lead - k)
    if m = 0 then ⟨0, 0⟩
    else (found.getD ⟨n * Nat.pow 5 (-q).toNat, min q 0⟩).trim
  | _ => ⟨0, 0⟩

end Binary64
end RouletteStrategy
