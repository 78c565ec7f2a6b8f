/-!
# Text with halves of surrogate pairs

Text written in units of sixteen bits may hold one half of a pair alone, which is no character. In a
`String` such a half is spelled as a mark and a stand-in, and the mark itself is spelled twice, so a
spelling has one reading (`pointsOf_spelling`). The mark is the last character below the halves:
texts with halves stand in the order of their code points.
-/

namespace RouletteStrategy.Text

def isHighHalf (n : Nat) : Bool := 0xd800 ≤ n && n < 0xdc00

def isLowHalf (n : Nat) : Bool := 0xdc00 ≤ n && n < 0xe000

def isHalf (n : Nat) : Bool := isHighHalf n || isLowHalf n

/-- The code point that the two halves of a pair denote. -/
def pairPoint (high low : Nat) : Nat := 0x10000 + (high - 0xd800) * 0x400 + (low - 0xdc00)

/-- The character before a stand-in. -/
def mark : Char := '\ud7ff'

/-- The distance from a half to its stand-in, which is neither blank nor a digit and has no case. -/
def standInOffset : Nat := 0x50000

/-- The half that a character after a mark stands in for. -/
def half? (c : Char) : Option Nat :=
  let n := c.toNat - standInOffset
  if isHalf n then some n else none

/-- The characters that spell a code point. -/
def spell (n : Nat) : List Char :=
  if isHalf n then [mark, Char.ofNat (n + standInOffset)]
  else if n = mark.toNat then [mark, mark]
  else [Char.ofNat n]

def spelling (ns : List Nat) : List Char := ns.flatMap spell

/-- The code points that characters spell. A mark belongs to the character after it. -/
def pointsOf : List Char → List Nat
  | [] => []
  | [c] => [c.toNat]
  | c :: d :: cs =>
    if c = mark then (half? d).getD d.toNat :: pointsOf cs else c.toNat :: pointsOf (d :: cs)

/-- The code points of a text. -/
def points (s : String) : List Nat := pointsOf s.toList

/-- The text of code points. -/
def ofPoints (ns : List Nat) : String := String.ofList (spelling ns)

/-- A text in which the mark is a character like any other, in spelled form. -/
def ofPlain (s : String) : String := ofPoints (s.toList.map Char.toNat)

/-- The characters of a text without halves. -/
def toPlain (s : String) : String := String.ofList ((points s).map Char.ofNat)

/-- The number of code points. -/
def size (s : String) : Nat := (points s).length

/-- A run of halves in a text, by the place of the first one. -/
structure HalfRun where
  start : Nat
  first : Nat
  length : Nat
deriving DecidableEq, Repr

/-- The first run of halves among code points that start at a place. -/
def halfRunFrom? (start : Nat) : List Nat → Option HalfRun
  | [] => none
  | n :: ns =>
    if isHalf n then some ⟨start, n, 1 + (ns.takeWhile isHalf).length⟩
    else halfRunFrom? (start + 1) ns

/-- The first run of halves in a text. -/
def halfRun? (s : String) : Option HalfRun := halfRunFrom? 0 (points s)

theorem toNat_ofNat {n : Nat} (h : n.isValidChar) : (Char.ofNat n).toNat = n := by
  unfold Char.ofNat
  rw [dif_pos h]
  rfl

theorem bounds_of_isHalf {n : Nat} (h : isHalf n) : 0xd800 ≤ n ∧ n < 0xe000 := by
  simp [isHalf, isHighHalf, isLowHalf] at h
  omega

theorem half?_standIn {n : Nat} (h : isHalf n) :
    half? (Char.ofNat (n + standInOffset)) = some n := by
  obtain ⟨low, high⟩ := bounds_of_isHalf h
  have valid : (n + standInOffset).isValidChar :=
    .inr ⟨by unfold standInOffset; omega, by unfold standInOffset; omega⟩
  have distance : (Char.ofNat (n + standInOffset)).toNat - standInOffset = n := by
    rw [toNat_ofNat valid, Nat.add_sub_cancel]
  unfold half?
  rw [distance]
  exact if_pos h

theorem pointsOf_cons {c : Char} (h : c ≠ mark) (cs : List Char) :
    pointsOf (c :: cs) = c.toNat :: pointsOf cs := by
  cases cs <;> simp [pointsOf, h]

/-- What a code point is spelled with reads as that code point, whatever follows. -/
theorem pointsOf_spell {n : Nat} (h : n.isValidChar ∨ isHalf n) (cs : List Char) :
    pointsOf (spell n ++ cs) = n :: pointsOf cs := by
  unfold spell
  split
  · next half => simp [pointsOf, half?_standIn half]
  · split
    · next eq => subst eq; simp [pointsOf, show half? mark = none by decide]
    · next half ne =>
      have valid := toNat_ofNat (h.resolve_right half)
      rw [List.singleton_append, pointsOf_cons, valid]
      intro eq
      exact ne (by rw [← valid, eq])

theorem pointsOf_spelling {ns : List Nat} (h : ∀ n ∈ ns, n.isValidChar ∨ isHalf n) :
    pointsOf (spelling ns) = ns := by
  induction ns with
  | nil => rfl
  | cons n ns ih =>
    rw [spelling, List.flatMap_cons, pointsOf_spell (h n (by simp))]
    exact congrArg _ (ih fun m hm => h m (by simp [hm]))

end RouletteStrategy.Text
