import Mathlib.Data.Finset.Card
import Mathlib.Data.Finset.Range
import Mathlib.Data.Nat.SuccPred
import Mathlib.Order.SuccPred.Archimedean
import RouletteStrategy.Proofs.Condition.Reading

/-!
# Where a sequence is found

A sequence is compared with stretches of the history that are as long as itself: in the partial mode
with all that lie within the latest spins, in any other mode with the one at the end. A stretch is
found if it differs from the sequence in no more places than are tolerated, and the latest one that
is found counts (`Condition.located_sequence`).
-/

namespace RouletteStrategy

/-- A search from above finds the greatest of the numbers below a bound that have a property. -/
theorem find?_reverse_range_eq_some_iff {p : Nat → Bool} {m i : Nat} :
    (List.range m).reverse.find? p = some i ↔ IsGreatest {j | j < m ∧ p j} i := by
  induction m with
  | zero => simp [IsGreatest]
  | succ m ih =>
      rw [List.range_succ, List.reverse_concat, List.find?_cons]
      by_cases last : p m
      · rw [last, Option.some.injEq]
        constructor
        · rintro rfl
          exact ⟨⟨Nat.lt_succ_self m, last⟩, fun j hj => Nat.le_of_lt_succ hj.1⟩
        · intro greatest
          exact Nat.le_antisymm (greatest.2 ⟨Nat.lt_succ_self m, last⟩)
            (Nat.le_of_lt_succ greatest.1.1)
      · have below : {j | j < m + 1 ∧ p j} = {j | j < m ∧ p j} := by
          ext j
          refine ⟨fun hj => ⟨Nat.lt_of_le_of_ne (Nat.le_of_lt_succ hj.1) ?_, hj.2⟩,
            fun hj => ⟨Nat.lt_succ_of_lt hj.1, hj.2⟩⟩
          rintro rfl
          exact last hj.2
        rw [Bool.eq_false_iff.mpr last, below]
        exact ih

/-- The items of a list with a property are at as many places. -/
theorem countP_eq_card_range {α : Type} (p : α → Bool) (xs : List α) :
    xs.countP p = ((Finset.range xs.length).filter fun k => xs[k]?.any p).card := by
  induction xs using List.reverseRecOn with
  | nil => rfl
  | append_singleton xs x ih =>
      have before : (Finset.range xs.length).filter (fun k => (xs ++ [x])[k]?.any p) =
          (Finset.range xs.length).filter fun k => xs[k]?.any p := by
        refine Finset.filter_congr fun k hk => ?_
        rw [List.getElem?_append_left (Finset.mem_range.mp hk)]
      rw [List.countP_append, List.length_append, List.length_singleton, Finset.range_add_one,
        Finset.filter_insert, before, ih, List.getElem?_concat_length, Option.any_some]
      by_cases hx : p x <;> simp [hx]

namespace Condition

namespace Sequence

/-- Whether the spin at a place of a stretch, given by its start, is not what the sequence asks
for. -/
def differsAt (c : Sequence) (h : History) (start k : Nat) : Bool :=
  c.elements[k]?.any fun e => h[start + k]?.any fun t => !isMatch e t

/-- The places in which the stretch from a start differs from the sequence. -/
def mismatches (c : Sequence) (h : History) (start : Nat) : Finset Nat :=
  (Finset.range c.elements.length).filter fun k => c.differsAt h start k

/-- The stretch from a start is a part of the history and differs in no more places than are
tolerated. -/
structure Fits (c : Sequence) (h : History) (start : Nat) : Prop where
  whole : start + c.elements.length ≤ h.length
  tolerated : (c.mismatches h start).card ≤ c.tolerance

/-- A stretch that fits and lies within the latest spins, ten more than its length. -/
structure Near (c : Sequence) (h : History) (start : Nat) : Prop extends Fits c h start where
  recent : h.length ≤ start + (c.elements.length + 10)

variable {c : Sequence} {h : History} {start i : Nat}

theorem accepts_iff (whole : start + c.elements.length ≤ h.length) :
    c.accepts ((h.drop start).take c.elements.length) ↔ c.Fits h start := by
  have size : (((h.drop start).take c.elements.length).zip c.elements).length =
      c.elements.length := by
    rw [List.length_zip, List.length_take, List.length_drop]
    omega
  have same : c.differences ((h.drop start).take c.elements.length) =
      (c.mismatches h start).card := by
    rw [differences, countP_eq_card_range, size, mismatches]
    congr 1
    refine Finset.filter_congr fun k hk => ?_
    simp only [differsAt, Option.any_eq_true, List.getElem?_zip_eq_some, List.getElem?_drop,
      List.getElem?_take_of_lt (Finset.mem_range.mp hk), Prod.exists]
    constructor
    · rintro ⟨t, e, ⟨spin, element⟩, differ⟩
      exact ⟨e, element, t, spin, differ⟩
    · rintro ⟨e, element, t, spin, differ⟩
      exact ⟨t, e, ⟨spin, element⟩, differ⟩
  rw [accepts, same, decide_eq_true_eq]
  exact ⟨fun tolerated => ⟨whole, tolerated⟩, Fits.tolerated⟩

theorem Near.exists_eq_add (near : c.Near h start) :
    ∃ k, start = h.length - (c.elements.length + 10) + k := by
  have recent := near.recent
  exact Nat.exists_eq_add_of_le (by omega)

/-- The place of a stretch in the window of the partial mode counts from the first spin of the
window. -/
theorem accepts_latest_iff (enough : c.elements.length ≤ h.length) (j : Nat) :
    (j < (h.latest (c.elements.length + lookBack)).length - c.elements.length + 1 ∧
        c.accepts (((h.latest (c.elements.length + lookBack)).drop j).take c.elements.length)) ↔
      c.Near h (h.length - (c.elements.length + 10) + j) := by
  rw [History.latest, lookBack, List.length_drop, List.drop_drop]
  constructor
  · rintro ⟨inside, accepted⟩
    exact ⟨(accepts_iff (by omega)).mp accepted, by omega⟩
  · rintro ⟨fits, recent⟩
    have whole := fits.whole
    exact ⟨by omega, (accepts_iff whole).mpr fits⟩

/-- In the partial mode the latest stretch counts. -/
theorem matchEnd?_eq_some_iff_of_part (part : c.mode = "parcial") :
    c.matchEnd? h = some i ↔
      ∃ start, IsGreatest {s | c.Near h s} start ∧ start + c.elements.length - 1 = i := by
  by_cases enough : c.elements.length ≤ h.length
  · have first : h.length - (h.latest (c.elements.length + lookBack)).length =
        h.length - (c.elements.length + 10) := by
      rw [History.latest, lookBack, List.length_drop]
      omega
    simp only [matchEnd?, if_neg (Nat.not_lt.mpr enough), if_pos part, Option.map_eq_some_iff,
      find?_reverse_range_eq_some_iff, accepts_latest_iff enough, first]
    constructor
    · rintro ⟨j, ⟨near, latest⟩, rfl⟩
      refine ⟨_, ⟨near, fun s hs => ?_⟩, rfl⟩
      obtain ⟨k, rfl⟩ := Near.exists_eq_add hs
      exact Nat.add_le_add_left (latest hs) _
    · rintro ⟨s, ⟨near, latest⟩, rfl⟩
      obtain ⟨k, rfl⟩ := Near.exists_eq_add near
      exact ⟨k, ⟨near, fun j hj => Nat.le_of_add_le_add_left (latest hj)⟩, rfl⟩
  · rw [matchEnd?, if_pos (Nat.lt_of_not_le enough)]
    simp only [reduceCtorEq, false_iff, not_exists, not_and]
    intro s greatest
    have whole := greatest.1.whole
    omega

/-- In any other mode the stretch at the end of the history counts. -/
theorem matchEnd?_eq_some_iff_of_ending (ending : c.mode ≠ "parcial") :
    c.matchEnd? h = some i ↔
      c.Fits h (h.length - c.elements.length) ∧ h.length - 1 = i := by
  by_cases enough : c.elements.length ≤ h.length
  · have whole : h.length - c.elements.length + c.elements.length ≤ h.length := by omega
    have stretch : h.latest c.elements.length =
        (h.drop (h.length - c.elements.length)).take c.elements.length := by
      rw [History.latest, List.take_of_length_le]
      rw [List.length_drop]
      omega
    simp only [matchEnd?, if_neg (Nat.not_lt.mpr enough), if_neg ending, stretch,
      accepts_iff whole, Option.ite_none_right_eq_some, Option.some.injEq]
  · rw [matchEnd?, if_pos (Nat.lt_of_not_le enough)]
    simp only [reduceCtorEq, false_iff, not_and]
    intro fits
    have whole := fits.whole
    omega

theorem exists_isGreatest_near (near : c.Near h start) : ∃ s, IsGreatest {s | c.Near h s} s := by
  refine BddAbove.exists_isGreatest_of_nonempty ⟨h.length, fun s hs => ?_⟩ ⟨start, near⟩
  have whole := hs.whole
  omega

/-! ## Outcomes -/

/-- A match tells where the stretch ends, and the first element of the sequence comes next. -/
structure Reports (c : Sequence) (o : Outcome) (i : Nat) : Prop where
  passed : o.passed
  numbers : o.numbers = Wheel.normalize (c.elements.head?.elim [] tokenNumbers)
  position : Members.get? o.params "posicao" = some (.ofNat i)

theorem reports_evaluate (nonempty : c.elements ≠ []) (found : c.matchEnd? h = some i) :
    c.Reports (c.evaluate h) i := by
  simp only [evaluate, found]
  cases elements : c.elements with
  | nil => exact absurd elements nonempty
  | cons next rest => exact ⟨rfl, by rw [elements]; rfl, rfl⟩

theorem exists_matchEnd?_of_passed (passed : (c.evaluate h).passed) :
    ∃ i, c.matchEnd? h = some i := by
  simp only [evaluate] at passed
  split at passed
  next => cases passed
  next =>
    split at passed
    next => cases passed
    next i found => exact ⟨i, found⟩

/-- Which stretches of a history make a match, and the place of the last spin of the one that is
reported. -/
structure Located (c : Sequence) (h : History) : Prop where
  part : c.mode = "parcial" → ((c.evaluate h).passed ↔ ∃ start, c.Near h start)
  partPosition : c.mode = "parcial" → (c.evaluate h).passed →
    ∃ start, IsGreatest {s | c.Near h s} start ∧
      Members.get? (c.evaluate h).params "posicao" = some (.ofNat (start + c.elements.length - 1))
  ending : c.mode ≠ "parcial" → ((c.evaluate h).passed ↔ c.elements.length ≤ h.length ∧
    (c.mismatches h (h.length - c.elements.length)).card ≤ c.tolerance)
  endingPosition : c.mode ≠ "parcial" → (c.evaluate h).passed →
    Members.get? (c.evaluate h).params "posicao" = some (.ofNat (h.length - 1))

theorem located_evaluate (nonempty : c.elements ≠ []) : c.Located h where
  part mode := by
    constructor
    · intro passed
      obtain ⟨i, found⟩ := exists_matchEnd?_of_passed passed
      obtain ⟨start, greatest, -⟩ := (matchEnd?_eq_some_iff_of_part mode).mp found
      exact ⟨start, greatest.1⟩
    · rintro ⟨start, near⟩
      obtain ⟨s, greatest⟩ := exists_isGreatest_near near
      have found := (matchEnd?_eq_some_iff_of_part mode).mpr ⟨s, greatest, rfl⟩
      exact (reports_evaluate nonempty found).passed
  partPosition mode passed := by
    obtain ⟨i, found⟩ := exists_matchEnd?_of_passed passed
    obtain ⟨start, greatest, rfl⟩ := (matchEnd?_eq_some_iff_of_part mode).mp found
    exact ⟨start, greatest, (reports_evaluate nonempty found).position⟩
  ending mode := by
    constructor
    · intro passed
      obtain ⟨i, found⟩ := exists_matchEnd?_of_passed passed
      have fits := ((matchEnd?_eq_some_iff_of_ending mode).mp found).1
      have whole := fits.whole
      exact ⟨by omega, fits.tolerated⟩
    · rintro ⟨enough, tolerated⟩
      have found := (matchEnd?_eq_some_iff_of_ending mode).mpr
        ⟨⟨by omega, tolerated⟩, rfl⟩
      exact (reports_evaluate nonempty found).passed
  endingPosition mode passed := by
    obtain ⟨i, found⟩ := exists_matchEnd?_of_passed passed
    obtain ⟨-, rfl⟩ := (matchEnd?_eq_some_iff_of_ending mode).mp found
    exact (reports_evaluate nonempty found).position

/-- The stretch at the end of the history is the latest one that the partial mode looks at. -/
theorem isGreatest_near_of_fits (fits : c.Fits h (h.length - c.elements.length)) :
    IsGreatest {s | c.Near h s} (h.length - c.elements.length) := by
  refine ⟨⟨fits, by omega⟩, fun s hs => ?_⟩
  have whole := hs.whole
  omega

/-- The sequence looked for in the partial mode. -/
def inPart (c : Sequence) : Sequence := { c with mode := "parcial" }

theorem fits_inPart (fits : c.Fits h start) : c.inPart.Fits h start :=
  ⟨fits.whole, fits.tolerated⟩

/-- What any mode finds the partial mode finds in the same place. -/
theorem matchEnd?_inPart (found : c.matchEnd? h = some i) : c.inPart.matchEnd? h = some i := by
  by_cases mode : c.mode = "parcial"
  · rwa [inPart, ← mode]
  · obtain ⟨fits, rfl⟩ := (matchEnd?_eq_some_iff_of_ending mode).mp found
    have whole := fits.whole
    have greatest := isGreatest_near_of_fits (fits_inPart fits)
    refine (matchEnd?_eq_some_iff_of_part rfl).mpr ⟨_, greatest, ?_⟩
    show h.length - c.elements.length + c.elements.length - 1 = h.length - 1
    omega

theorem read_inPart {o : Json.Object} (settings : read (.obj o) = .ok c) :
    read (.obj (Members.set o "modo" (.str "parcial"))) = .ok c.inPart := by
  have folded : Text.fold "parcial" = "parcial" := by decide +kernel
  have mode : Json.Object.at (Members.set o "modo" (.str "parcial")) "modo" = .str "parcial" := by
    rw [Json.Object.at_set, if_pos rfl]
  obtain ⟨elements, list, settings⟩ := bind_eq_ok.mp settings
  obtain ⟨_, -, settings⟩ := bind_eq_ok.mp settings
  obtain ⟨tolerance, count, settings⟩ := bind_eq_ok.mp settings
  cases settings
  rw [Config.list_obj] at list
  rw [Config.count, Config.find_obj] at count
  refine bind_eq_ok.mpr ⟨elements, ?_, ?_⟩
  · rw [Config.list_obj, Json.Object.setting_set_of_notMem (by decide), list]
  refine bind_eq_ok.mpr ⟨_, Config.word_of_at mode (by decide +kernel) _, ?_⟩
  refine bind_eq_ok.mpr ⟨tolerance, ?_, by rw [folded]; rfl⟩
  rw [Config.count, Config.find_obj, Json.Object.setting_set_of_notMem (by decide), count]

end Sequence

/-- A sequence of a node is found in the stretches of its mode, and what any mode finds the partial
mode finds in the same place. -/
theorem located_sequence {subtype : String} {o : Json.Object} {c : Sequence}
    (settings : read subtype (.obj o) = .ok (.sequence c)) (nonempty : c.elements ≠ []) :
    (∀ h, c.Located h) ∧
      read subtype (.obj (Members.set o "modo" (.str "parcial"))) = .ok (.sequence c.inPart) ∧
      ∀ h, (c.evaluate h).passed → (c.inPart.evaluate h).passed ∧
        (c.inPart.evaluate h).numbers = (c.evaluate h).numbers ∧
        Members.get? (c.inPart.evaluate h).params "posicao" =
          Members.get? (c.evaluate h).params "posicao" := by
  refine ⟨fun h => Sequence.located_evaluate nonempty, ?_, fun h passed => ?_⟩
  · have kind : Kind.ofSubtype subtype = .sequence := (kind_read settings).symm
    rw [read, kind] at settings ⊢
    obtain ⟨_, settings, ⟨⟩⟩ := map_eq_ok.mp settings
    exact map_eq_ok.mpr ⟨_, Sequence.read_inPart settings, rfl⟩
  · obtain ⟨i, found⟩ := Sequence.exists_matchEnd?_of_passed passed
    have reports := Sequence.reports_evaluate nonempty found
    have reports' := Sequence.reports_evaluate (c := c.inPart) nonempty
      (Sequence.matchEnd?_inPart found)
    exact ⟨reports'.passed, reports'.numbers.trans reports.numbers.symm,
      reports'.position.trans reports.position.symm⟩

/-- A black spin in a stretch where red was asked for is the one difference that is tolerated. -/
theorem located_sequence_red : ∃ c : Sequence,
    read "Pattern" (.obj [("sequence", .arr [.str "red", .str "vermelho", .float (.ofInt 17)]),
      ("tolerancia", .int 1)]) = .ok (.sequence c) ∧ c.elements ≠ [] ∧
      (c.evaluate [.number 36, .word "vermelho", .number 2, .number 17]).passed ∧
      (c.inPart.evaluate [.number 36, .word "vermelho", .number 2, .number 17]).passed := by
  have settings : read "Pattern" (.obj [("sequence", .arr [.str "red", .str "vermelho",
      .float (.ofInt 17)]), ("tolerancia", .int 1)]) =
        .ok (.sequence ⟨[.word "vermelho", .word "vermelho", .number 17], "exato", 1⟩) := by rfl
  obtain ⟨located, -, part⟩ := located_sequence settings (List.cons_ne_nil _ _)
  have passed := ((located [.number 36, .word "vermelho", .number 2, .number 17]).ending
    (by decide)).mpr (by decide +kernel)
  exact ⟨_, settings, List.cons_ne_nil _ _, passed, (part _ passed).1⟩

end Condition
end RouletteStrategy
