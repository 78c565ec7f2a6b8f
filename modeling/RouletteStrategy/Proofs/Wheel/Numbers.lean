import Mathlib.Data.List.Sort
import RouletteStrategy.Wheel.Basic

/-!
# Wheel numbers in ascending order

A list of wheel numbers in strictly ascending order is its own normal form
(`normalize_of_pairwise_lt`), and the normal form of a list depends on its members only. The
neighbours of a number are the numbers at most so many steps away (`mem_neighbours`).
-/

namespace RouletteStrategy.Wheel

variable {ns ms : List Int}

theorem pairwise_lt_pockets : pockets.Pairwise (· < ·) := by
  rw [pockets, List.pairwise_map]
  exact List.pairwise_lt_range.imp fun h => Int.ofNat_lt.mpr h

theorem pairwise_lt_normalize (ns : List Int) : (normalize ns).Pairwise (· < ·) :=
  pairwise_lt_pockets.filter _

@[simp] theorem normalize_nil : normalize [] = [] := by
  simp [normalize]

theorem onWheel_of_mem_normalize {n : Int} (h : n ∈ normalize ns) : OnWheel n :=
  (mem_normalize.mp h).2

theorem normalize_of_pairwise_lt (ascending : ns.Pairwise (· < ·))
    (onWheel : ∀ n ∈ ns, OnWheel n) : normalize ns = ns := by
  apply (pairwise_lt_normalize ns).eq_of_mem_iff ascending
  intro n
  rw [mem_normalize]
  exact ⟨fun h => h.1, fun h => ⟨h, onWheel n h⟩⟩

theorem normalize_normalize (ns : List Int) : normalize (normalize ns) = normalize ns :=
  normalize_of_pairwise_lt (pairwise_lt_normalize ns) fun _ h => onWheel_of_mem_normalize h

/-- The family of a digit are the wheel numbers that end in it. -/
theorem mem_family {n t : Int} (digit : 0 ≤ t ∧ t < 10) :
    n ∈ family t ↔ OnWheel n ∧ terminal n = t := by
  simp only [family, List.mem_map, List.mem_range, OnWheel, terminal]
  constructor
  · rintro ⟨k, hk, rfl⟩
    omega
  · rintro ⟨onWheel, rfl⟩
    exact ⟨(n / 10).toNat, by omega, by omega⟩

/-! ## Neighbours -/

theorem mem_order {n : Int} : n ∈ order → OnWheel n := by
  have inside : ∀ n ∈ order, OnWheel n := by decide
  exact inside n

theorem onWheel_of_distance? {a b : Int} {d : Nat} (h : distance? a b = some d) : OnWheel a := by
  obtain ⟨p, place, -⟩ := Option.bind_eq_some_iff.mp h
  obtain ⟨inside, same, -⟩ := List.findIdx?_eq_some_iff_getElem.mp place
  exact mem_order (eq_of_beq same ▸ List.getElem_mem inside)

theorem within_iff {radius a b : Int} :
    within radius a b ↔ ∃ d, distance? a b = some d ∧ (d : Int) ≤ radius := by
  rw [within]
  cases distance? a b with
  | none => simp
  | some d => simp

/-- The neighbours of a number are the numbers on the wheel at most so many steps away. -/
theorem mem_neighbours {m n radius : Int} :
    m ∈ neighbours n radius ↔ ∃ d, distance? m n = some d ∧ (d : Int) ≤ radius := by
  rw [neighbours, List.mem_filter, mem_pockets, within_iff, and_iff_right_of_imp]
  rintro ⟨d, distance, -⟩
  exact onWheel_of_distance? distance

end RouletteStrategy.Wheel
