/-!
# The European wheel

Thirty-seven pockets in a fixed cyclic order. `normalize` is the ascending list of the wheel
numbers in a list.
-/

namespace RouletteStrategy.Wheel

/-- The numbers in the order in which they stand around the wheel. -/
def order : List Int :=
  [0, 32, 15, 19, 4, 21, 2, 25, 17, 34, 6, 27, 13, 36, 11, 30, 8, 23, 10, 5,
   24, 16, 33, 1, 20, 14, 31, 9, 22, 18, 29, 7, 28, 12, 35, 3, 26]

def size : Nat := 37

/-- The numbers from 0 to 36, ascending. -/
def pockets : List Int := (List.range size).map fun n : Nat => (n : Int)

def OnWheel (n : Int) : Prop := 0 ≤ n ∧ n ≤ 36

instance (n : Int) : Decidable (OnWheel n) := inferInstanceAs (Decidable (_ ∧ _))

theorem mem_pockets {n : Int} : n ∈ pockets ↔ OnWheel n := by
  constructor
  · intro h
    obtain ⟨k, hk, rfl⟩ := List.mem_map.1 h
    have := List.mem_range.1 hk
    simp only [size] at this
    exact ⟨by omega, by omega⟩
  · rintro ⟨h₀, h₁⟩
    exact List.mem_map.2 ⟨n.toNat, List.mem_range.2 (by simp only [size]; omega), by omega⟩

/-- The place of a number in the wheel order. -/
def position? (n : Int) : Option Nat := order.findIdx? (· == n)

/-- The fewest steps along the wheel between two numbers, if both are on it. -/
def distance? (a b : Int) : Option Nat := do
  let p ← position? a
  let q ← position? b
  let steps := max p q - min p q
  some (min steps (size - steps))

/-- How far the mirror of a number is ahead of it. -/
def mirrorStep : Nat := 18

/-- The number half a turn ahead. -/
def mirror? (n : Int) : Option Int := do
  let p ← position? n
  order[(p + mirrorStep) % size]?

/-- Whether two numbers on the wheel are at most `radius` steps apart. -/
def within (radius a b : Int) : Bool := (distance? a b).any fun d => (d : Int) ≤ radius

/-- A number on the wheel and its neighbours up to `radius` steps away, ascending. -/
def neighbours (n radius : Int) : List Int := pockets.filter (within radius · n)

/-- The distinct wheel numbers of a list, ascending. -/
def normalize (ns : List Int) : List Int := pockets.filter (ns.contains ·)

@[simp] theorem mem_normalize {n : Int} {ns : List Int} :
    n ∈ normalize ns ↔ n ∈ ns ∧ OnWheel n := by
  simp [normalize, mem_pockets, and_comm]

/-- The last decimal digit. -/
def terminal (n : Int) : Int := n % 10

/-- The numbers up to 36 in steps of ten from a terminal on. -/
def family (t : Int) : List Int :=
  (List.range ((46 - t) / 10).toNat).map fun k : Nat => t + 10 * (k : Int)

end RouletteStrategy.Wheel
