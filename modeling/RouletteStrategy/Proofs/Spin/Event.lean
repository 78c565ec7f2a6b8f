import RouletteStrategy.Proofs.Wheel.Numbers
import RouletteStrategy.Spin.Event

/-!
# The numbers that make an event happen

An event has two readings: the spins that match it (`Event.isMatch`), which decide whether a
condition passes, and the wheel numbers that it stands for (`Event.numbers`), which are bet on. On
wheel numbers they agree for every category and every numbered event. A word is compared with a spin
as text, while its numbers come from reading it as an integer, so the two agree at a number exactly
if the word does not denote it or is its decimal numeral (`isMatch_number_iff`).
-/

namespace RouletteStrategy

variable {n : Int}

namespace Category

theorem holds_iff_mem_members (c : Category) (onWheel : Wheel.OnWheel n) :
    c.holds n ↔ n ∈ c.members := by
  have pocket : n ∈ Wheel.pockets := Wheel.mem_pockets.mpr onWheel
  cases c with
  | zero => simp only [holds, members, beq_iff_eq, List.mem_singleton]
  | red | black => simp only [holds, members, List.contains_iff_mem]
  | even => simp [holds, members, Wheel.evens, Wheel.nonzero, pocket, and_comm]
  | odd =>
      -- Zero is no odd number, so leaving it out of the members changes nothing.
      have nonzero : n % 2 = 1 → n ≠ 0 := by omega
      simp only [holds, members, Wheel.odds, Wheel.nonzero, beq_iff_eq, List.mem_filter,
        decide_eq_true_eq]
      exact ⟨fun odd => ⟨⟨pocket, nonzero odd⟩, odd⟩, fun h => h.2⟩

end Category

namespace Literal

/-- The decimal numeral of a wheel number is read back. -/
theorem int?_toString (onWheel : Wheel.OnWheel n) : int? (toString n) = some n := by
  have readBack : ∀ m ∈ Wheel.pockets, int? (toString m) = some m := by decide +kernel
  exact readBack n (Wheel.mem_pockets.mpr onWheel)

end Literal

namespace Event

theorem mem_normalize_int? {code : String} (onWheel : Wheel.OnWheel n) :
    n ∈ Wheel.normalize (Literal.int? code).toList ↔ Literal.int? code = some n := by
  rw [Wheel.mem_normalize, Option.mem_toList]
  exact and_iff_left onWheel

theorem isMatch_category_iff (c : Category) (onWheel : Wheel.OnWheel n) :
    (category c).isMatch (.number n) ↔ n ∈ (category c).numbers :=
  c.holds_iff_mem_members onWheel

theorem isMatch_numbered_iff (code : String) (onWheel : Wheel.OnWheel n) :
    (number code).isMatch (.number n) ↔ n ∈ (number code).numbers := by
  rw [isMatch, beq_iff_eq, numbers, mem_normalize_int? onWheel]

/-- A word that is compared as text matches only the numeral, and the numeral denotes its number. -/
theorem isMatch_word_iff (w : String) (onWheel : Wheel.OnWheel n) :
    (word w).isMatch (.number n) ↔ n ∈ (word w).numbers ∧ w = toString n := by
  rw [isMatch, Token.text, beq_iff_eq, numbers, mem_normalize_int? onWheel]
  constructor
  · rintro rfl
    exact ⟨Literal.int?_toString onWheel, rfl⟩
  · rintro ⟨-, eq⟩
    exact eq.symm

/-- A wheel number matches an event exactly if it is one of the numbers of the event and, where the
event is a word, the word is the decimal numeral of the number. -/
theorem isMatch_number_iff (name : String) (onWheel : Wheel.OnWheel n) :
    (ofName name).isMatch (.number n) ↔
      n ∈ (ofName name).numbers ∧ ∀ w, ofName name = .word w → w = toString n := by
  cases ofName name with
  | category c =>
      simp only [reduceCtorEq, false_imp_iff, implies_true, and_true]
      exact isMatch_category_iff c onWheel
  | number code =>
      simp only [reduceCtorEq, false_imp_iff, implies_true, and_true]
      exact isMatch_numbered_iff code onWheel
  | word w =>
      rw [isMatch_word_iff w onWheel]
      apply and_congr_right
      intro mem
      constructor
      · rintro eq v ⟨⟩
        exact eq
      · intro numeral
        exact numeral w rfl

/-- Seventeen with blanks around it is a word equal to the numeral. -/
theorem isMatch_number_iff_seventeen :
    Wheel.OnWheel 17 ∧ ((ofName " 17 ").isMatch (.number 17) ↔
      17 ∈ (ofName " 17 ").numbers ∧ ∀ w, ofName " 17 " = .word w → w = toString (17 : Int)) :=
  have onWheel : Wheel.OnWheel 17 := by decide
  ⟨onWheel, isMatch_number_iff " 17 " onWheel⟩

/-- With a leading zero a word denotes a number that does not match it. -/
theorem not_isMatch_leadingZero :
    ¬ ∀ name n, Wheel.OnWheel n →
      ((ofName name).isMatch (.number n) ↔ n ∈ (ofName name).numbers) := by
  intro agree
  have mem : (5 : Int) ∈ (ofName "05").numbers := by decide +kernel
  have unmatched : (ofName "05").isMatch (.number 5) = false := by decide +kernel
  have isMatch := (agree "05" 5 (by decide)).mpr mem
  rw [unmatched] at isMatch
  exact Bool.false_ne_true isMatch

end Event
end RouletteStrategy
