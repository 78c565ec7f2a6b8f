import Mathlib.Data.List.Sort
import RouletteStrategy.Gating.Selection

/-!
# Truncation keeps the first of a ranking

The numbers of a list are ranked by how close they are to the reference, or in ascending order
without one. A ranking depends on nothing but how often each number occurs, and truncation keeps its
first numbers, whichever of its ways it takes (`truncate_eq_take`). The first numbers of a ranking
are ranked as they stand, so truncations compose (`truncate_truncate`).
-/

namespace RouletteStrategy.Gating

variable {ns ms : List Int} {reference : Option Int} {a b c : Int} {k m : Nat}

/-! ## Ranking -/

/-- Whether a number ranks no later than another. -/
def ranks (reference : Option Int) (a b : Int) : Bool :=
  match reference with
  | none => decide (a ≤ b)
  | some r => closer r a b

def ranked (reference : Option Int) (ns : List Int) : List Int := ns.mergeSort (ranks reference)

theorem ranks_none_iff : ranks none a b ↔ a ≤ b := decide_eq_true_iff

theorem ranks_some_iff {r : Int} : ranks (some r) a b ↔
    distanceFrom r a < distanceFrom r b ∨ distanceFrom r a = distanceFrom r b ∧ a ≤ b := by
  simp only [ranks, closer, Bool.or_eq_true, Bool.and_eq_true, beq_iff_eq, decide_eq_true_eq]

theorem ranks_trans (reference : Option Int) (a b c : Int) (ab : ranks reference a b)
    (bc : ranks reference b c) : ranks reference a c := by
  cases reference with
  | none =>
      rw [ranks_none_iff] at *
      exact Int.le_trans ab bc
  | some r =>
      rw [ranks_some_iff] at *
      omega

theorem ranks_total (reference : Option Int) (a b : Int) :
    ranks reference a b || ranks reference b a := by
  rw [Bool.or_eq_true]
  cases reference with
  | none =>
      rw [ranks_none_iff, ranks_none_iff]
      exact Int.le_total a b
  | some r =>
      rw [ranks_some_iff, ranks_some_iff]
      omega

/-- Equally close numbers rank by their value, so no two numbers share a rank. -/
theorem ranks_antisymm (ab : ranks reference a b) (ba : ranks reference b a) : a = b := by
  cases reference with
  | none =>
      rw [ranks_none_iff] at *
      exact Int.le_antisymm ab ba
  | some r =>
      rw [ranks_some_iff] at *
      omega

theorem ranked_perm (reference : Option Int) (ns : List Int) : (ranked reference ns).Perm ns :=
  List.mergeSort_perm ns _

theorem pairwise_ranked (reference : Option Int) (ns : List Int) :
    (ranked reference ns).Pairwise (ranks reference · ·) :=
  List.pairwise_mergeSort (ranks_trans reference) (ranks_total reference) ns

/-- A list in the order of ranks is the ranking of all lists with the same numbers. -/
theorem ranked_eq (perm : ns.Perm ms) (order : ms.Pairwise (ranks reference · ·)) :
    ranked reference ns = ms := by
  apply List.Perm.eq_of_pairwise (fun _ _ _ _ => ranks_antisymm) (pairwise_ranked reference ns) order
  exact (ranked_perm reference ns).trans perm

theorem ranked_of_sublist (h : ms.Sublist (ranked reference ns)) : ranked reference ms = ms :=
  ranked_eq (.refl ms) ((pairwise_ranked reference ns).sublist h)

theorem ranked_eq_of_perm (reference : Option Int) (perm : ns.Perm ms) :
    ranked reference ns = ranked reference ms :=
  ranked_eq (perm.trans (ranked_perm reference ms).symm) (pairwise_ranked reference ms)

/-- Ascending order is the ranking without a reference. -/
theorem ascending_eq_of_perm (perm : ns.Perm ms) : ascending ns = ascending ms :=
  ranked_eq_of_perm none perm

theorem ascending_perm (ns : List Int) : (ascending ns).Perm ns := ranked_perm none ns

theorem mem_ascending : a ∈ ascending ns ↔ a ∈ ns := (ascending_perm ns).mem_iff

theorem pairwise_ascending (ns : List Int) : (ascending ns).Pairwise (· ≤ ·) :=
  (pairwise_ranked none ns).imp ranks_none_iff.mp

theorem pairwise_lt_ascending (nodup : ns.Nodup) : (ascending ns).Pairwise (· < ·) := by
  have distinct : (ascending ns).Nodup := (ascending_perm ns).nodup_iff.mpr nodup
  exact ((pairwise_ascending ns).and distinct).imp fun h => lt_of_le_of_ne h.1 h.2

theorem ascending_eq (perm : ns.Perm ms) (order : ms.Pairwise (· ≤ ·)) : ascending ns = ms :=
  show ranked none ns = ms from ranked_eq perm (order.imp ranks_none_iff.mpr)

/-! ## Truncation -/

theorem takeLimit_natCast {α : Type} (k : Nat) (xs : List α) :
    takeLimit (k : Int) xs = xs.take k := by
  rw [takeLimit, if_pos (Int.natCast_nonneg k), Int.toNat_natCast]

/-- A list within the limit is kept whole; without a reference the ranking ascends already. -/
theorem truncate_eq_take (ns : List Int) (k : Nat) (reference : Option Int) :
    truncate ns k reference = ascending ((ranked reference ns).take k) := by
  have length : (ascending ns).length = (ranked reference ns).length :=
    ((ascending_perm ns).trans (ranked_perm reference ns).symm).length_eq
  simp only [truncate]
  split
  next short =>
    rw [List.take_of_length_le (by omega)]
    exact ascending_eq_of_perm (ranked_perm reference ns).symm
  next =>
    rw [takeLimit_natCast]
    cases reference with
    | none =>
        have order := (pairwise_ascending ns).sublist (List.take_sublist k _)
        exact (ascending_eq (.refl _) order).symm
    | some r =>
        dsimp only
        rw [takeLimit_natCast]
        exact congrArg (ascending <| List.take k ·)
          (ranked_eq_of_perm (some r) (ascending_perm ns))

theorem truncate_eq_of_perm (perm : ns.Perm ms) (k : Nat) (reference : Option Int) :
    truncate ns k reference = truncate ms k reference := by
  rw [truncate_eq_take, truncate_eq_take, ranked_eq_of_perm reference perm]

theorem truncate_perm (ns : List Int) (k : Nat) (reference : Option Int) :
    (truncate ns k reference).Perm ((ranked reference ns).take k) := by
  rw [truncate_eq_take]
  exact ascending_perm _

theorem mem_of_mem_truncate (h : a ∈ truncate ns k reference) : a ∈ ns := by
  have kept := (truncate_perm ns k reference).mem_iff.mp h
  exact (ranked_perm reference ns).mem_iff.mp (List.mem_of_mem_take kept)

theorem pairwise_lt_truncate (nodup : ns.Nodup) (k : Nat) (reference : Option Int) :
    (truncate ns k reference).Pairwise (· < ·) := by
  have distinct : (ranked reference ns).Nodup := (ranked_perm reference ns).nodup_iff.mpr nodup
  rw [truncate_eq_take]
  exact pairwise_lt_ascending (distinct.sublist (List.take_sublist k _))

/-- What is kept has the ranks that it had in the whole list. -/
theorem ranked_truncate (ns : List Int) (k : Nat) (reference : Option Int) :
    ranked reference (truncate ns k reference) = (ranked reference ns).take k := by
  rw [ranked_eq_of_perm reference (truncate_perm ns k reference)]
  exact ranked_of_sublist (List.take_sublist k _)

theorem truncate_truncate (le : k ≤ m) (ns : List Int) (reference : Option Int) :
    truncate (truncate ns m reference) k reference = truncate ns k reference := by
  rw [truncate_eq_take, ranked_truncate, List.take_take, Nat.min_eq_left le, truncate_eq_take]

theorem length_truncate (ns : List Int) (k : Nat) (reference : Option Int) :
    (truncate ns k reference).length = min k ns.length := by
  rw [(truncate_perm ns k reference).length_eq, List.length_take,
    (ranked_perm reference ns).length_eq]

theorem truncate_subperm (le : k ≤ m) (ns : List Int) (reference : Option Int) :
    (truncate ns k reference).Subperm (truncate ns m reference) := by
  have part : ((ranked reference ns).take k).Sublist ((ranked reference ns).take m) :=
    List.take_sublist_take_left le
  exact (truncate_perm ns k reference).subperm.trans
    (part.subperm.trans (truncate_perm ns m reference).symm.subperm)

/-- Truncating step by step is truncating at once. So a truncation to the same limit changes nothing,
a greater limit only adds numbers, and as many are kept as there are within the limit. -/
theorem truncations_compose (le : k ≤ m) (ns : List Int) (reference : Option Int) :
    truncate (truncate ns m reference) k reference = truncate ns k reference ∧
      (∀ ms, ns.Perm ms → truncate ns k reference = truncate ms k reference) ∧
      truncate (truncate ns k reference) k reference = truncate ns k reference ∧
      (truncate ns k reference).Subperm (truncate ns m reference) ∧
      (truncate ns k reference).length = min k ns.length :=
  ⟨truncate_truncate le ns reference, fun _ perm => truncate_eq_of_perm perm k reference,
    truncate_truncate (Nat.le_refl k) ns reference, truncate_subperm le ns reference,
    length_truncate ns k reference⟩

/-- The neighbours of zero, 26 and 32, are equally close, and 32 occurs twice: it is cut off. -/
theorem truncations_compose_neighbours :
    2 ≤ 4 ∧ ([32, 10, 0, 32, 26] : List Int).Perm [0, 10, 26, 32, 32] ∧
      truncate [32, 10, 0, 32, 26] (4 : Nat) (some 0) = [0, 26, 32, 32] ∧
      truncate (truncate [32, 10, 0, 32, 26] (4 : Nat) (some 0)) (2 : Nat) (some 0) = [0, 26] ∧
      truncate [0, 10, 26, 32, 32] (2 : Nat) (some 0) = [0, 26] := by
  have perm : ([32, 10, 0, 32, 26] : List Int).Perm [0, 10, 26, 32, 32] := by decide
  have order : ranked (some 0) [32, 10, 0, 32, 26] = [0, 26, 32, 32, 10] :=
    ranked_eq (by decide) (by decide)
  have four : truncate [32, 10, 0, 32, 26] (4 : Nat) (some 0) = [0, 26, 32, 32] := by
    rw [truncate_eq_take, order]
    exact ascending_eq (.refl [0, 26, 32, 32]) (by decide)
  have two : truncate [32, 10, 0, 32, 26] (2 : Nat) (some 0) = [0, 26] := by
    rw [truncate_eq_take, order]
    exact ascending_eq (.refl [0, 26]) (by decide)
  have laws := truncations_compose (k := 2) (m := 4) (by decide) [32, 10, 0, 32, 26] (some 0)
  exact ⟨by decide, perm, four, laws.1.trans two, (laws.2.1 _ perm).symm.trans two⟩

end RouletteStrategy.Gating
