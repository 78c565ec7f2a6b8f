import RouletteStrategy.Proofs.Condition.Outcome
import RouletteStrategy.Proofs.Spin.Event
import RouletteStrategy.Proofs.Spin.History

/-!
# Runs at the end of the history

Repetition, absence and break all ask whether a run at the end of the history is long enough, so the
verdict of each of them is given by the length of one run. On an axis the run is one of categories.
-/

namespace RouletteStrategy

theorem History.latest_concat (h : History) (t : Token) (n : Nat) :
    (h ++ [t]).latest (n + 1) = h.latest n ++ [t] := by
  rw [latest, List.length_append, List.length_singleton, Nat.add_sub_add_right, latest]
  exact List.drop_append_of_le_length (Nat.sub_le _ _)

namespace Condition

/-! ## The length of a run -/

section Length

variable {α β : Type} {p : α → Bool} {xs : List α}

theorem le_length_takeWhile_iff {n : Nat} :
    n ≤ (xs.takeWhile p).length ↔ n ≤ xs.length ∧ (xs.take n).all p := by
  induction xs generalizing n with
  | nil => simp
  | cons x xs ih =>
      cases n with
      | zero => simp
      | succ n =>
          by_cases hx : p x
          · simp [hx, ih]
          · simp [hx]

/-- A run is as long as the latest spins of a history with its property. -/
theorem le_runLength_iff {p : Token → Bool} {h : History} {n : Nat} :
    n ≤ runLength p h ↔ n ≤ h.length ∧ (h.latest n).all p := by
  rw [runLength, le_length_takeWhile_iff, List.take_reverse, List.all_reverse, List.length_reverse]
  rfl

theorem runLength_concat (p : α → Bool) (xs : List α) {x : α} (hx : p x) :
    runLength p (xs ++ [x]) = runLength p xs + 1 := by
  simp [runLength, hx]

theorem le_runLength_concat {m n : Nat} {x : α} (long : n ≤ runLength p xs) (hx : p x)
    (length : m ≤ n + 1) : m ≤ runLength p (xs ++ [x]) := by
  rw [runLength_concat p xs hx]
  omega

theorem exists_of_runLength_pos (h : 0 < runLength p xs) : ∃ x ∈ xs, p x := by
  obtain ⟨x, hx⟩ := List.exists_mem_of_length_pos h
  exact ⟨x, List.mem_reverse.mp ((List.takeWhile_sublist p).mem hx), List.mem_takeWhile_imp hx⟩

/-- Where every item has an image, a run of images is a run of items. -/
theorem runLength_filterMap {f : α → Option β} {q : β → Bool}
    (images : ∀ x ∈ xs, ∃ y, f x = some y ∧ p x = q y) :
    runLength q (xs.filterMap f) = runLength p xs := by
  have reversed : ∀ x ∈ xs.reverse, ∃ y, f x = some y ∧ p x = q y := fun x hx =>
    images x (List.mem_reverse.mp hx)
  unfold runLength
  rw [← List.filterMap_reverse]
  generalize xs.reverse = ys at reversed
  induction ys with
  | nil => rfl
  | cons x ys ih =>
      obtain ⟨⟨y, image, same⟩, rest⟩ := List.forall_mem_cons.mp reversed
      rw [List.filterMap_cons_some image, List.takeWhile_cons, List.takeWhile_cons, same]
      split
      · rw [List.length_cons, List.length_cons, ih rest]
      · rfl

end Length

/-! ## Verdicts -/

/-- The numbers that an outcome contributes, if it is a match. -/
def Outcome.verdict (o : Outcome) : Option (List Int) := if o.passed then some o.numbers else none

@[simp] theorem Outcome.verdict_noMatch (params : Json.Object) : (noMatch params).verdict = none :=
  rfl

@[simp] theorem Outcome.verdict_found (ns : List Int) (reason : String) (params : Json.Object) :
    (found ns reason params).verdict = some (Wheel.normalize ns) := rfl

theorem Outcome.passed_eq_isSome_verdict (o : Outcome) : o.passed = o.verdict.isSome := by
  unfold verdict
  cases o.passed <;> rfl

theorem Outcome.passed_of_verdict {o : Outcome} {ns : List Int} (h : o.verdict = some ns) :
    o.passed := by
  rw [passed_eq_isSome_verdict, h, Option.isSome_some]

theorem Outcome.Formed.numbers_eq {o : Outcome} (h : o.Formed) : o.numbers = o.verdict.getD [] := by
  cases h <;> rfl

/-- What contributes a number is a match. -/
theorem Outcome.Formed.exists_verdict {o : Outcome} (h : o.Formed) {x : Int}
    (member : x ∈ o.numbers) : ∃ ns, o.verdict = some ns ∧ x ∈ ns := by
  rw [h.numbers_eq] at member
  cases verdict : o.verdict with
  | none =>
      rw [verdict] at member
      cases member
  | some ns =>
      rw [verdict] at member
      exact ⟨ns, rfl, member⟩

theorem Outcome.Formed.of_mem {o : Outcome} (h : o.Formed) {q : Prop} [Decidable q] {ns : List Int}
    (verdict : o.verdict = if q then some ns else none) {x : Int} (member : x ∈ o.numbers) :
    q ∧ x ∈ ns := by
  obtain ⟨ms, found, member⟩ := h.exists_verdict member
  rw [verdict, Option.ite_none_right_eq_some, Option.some.injEq] at found
  obtain ⟨hq, rfl⟩ := found
  exact ⟨hq, member⟩

section Verdicts

variable {h : History}

theorem Break.verdict_evaluate (b : Break) : (b.evaluate h).verdict =
    if b.least ≤ runLength (Event.ofName b.event).isMatch h then some [] else none := by
  simp only [evaluate, ← Nat.not_le, ite_not, apply_ite Outcome.verdict, Outcome.verdict_found,
    Outcome.verdict_noMatch, Wheel.normalize_nil]

theorem Repetition.verdict_ofEvent (event : String) (n : Nat) :
    ((ofEvent event n).evaluate h).verdict =
      if n ≤ runLength (Event.ofName event).isMatch h
      then some (Wheel.normalize (Event.ofName event).numbers) else none := by
  simp only [evaluate, ← le_runLength_iff, apply_ite Outcome.verdict, Outcome.verdict_found,
    Outcome.verdict_noMatch]

theorem RepeatNumber.verdict_evaluate (k : Int) (n : Nat) : (evaluate ⟨some k, n⟩ h).verdict =
    if n ≤ runLength (Event.ofName (Event.nameOfNumber k)).isMatch h
    then some (Wheel.normalize [k]) else none := by
  simp only [evaluate, ← le_runLength_iff, apply_ite Outcome.verdict, Outcome.verdict_found,
    Outcome.verdict_noMatch]

/-- An event is absent from the latest spins if a run of other spins is as long. -/
theorem le_runLength_not_iff (e : Event) (n : Nat) :
    n ≤ runLength (fun t => !e.isMatch t) h ↔
      ¬ h.length < n ∧ ¬ (h.latest n).any e.isMatch := by
  rw [le_runLength_iff, Nat.not_lt, List.any_eq_not_all_not]
  simp

theorem Absence.verdict_target (target : String) (n : Nat) :
    (evaluate ⟨target, n, .target⟩ h).verdict =
      if n ≤ runLength (fun t => !(Event.ofName target).isMatch t) h
      then some (Wheel.normalize (Event.ofName target).complement) else none := by
  simp only [evaluate, le_runLength_not_iff, ite_and, ite_not, apply_ite Outcome.verdict,
    Outcome.verdict_found, Outcome.verdict_noMatch]

theorem Absence.verdict_number (target : String) (n : Nat) (k : Int) :
    (evaluate ⟨target, n, .number (some k)⟩ h).verdict =
      if n ≤ runLength (fun t => !(Event.ofName (Event.nameOfNumber k)).isMatch t) h
      then some (Wheel.normalize [k]) else none := by
  simp only [evaluate, le_runLength_not_iff, ite_and, ite_not, apply_ite Outcome.verdict,
    Outcome.verdict_found, Outcome.verdict_noMatch]

theorem SpecificNumber.verdict_absent (k : Int) (n : Nat) :
    (evaluate ⟨some k, "ausente", n⟩ h).verdict =
      if n ≤ runLength (fun t => !(Event.ofName (Event.nameOfNumber k)).isMatch t) h
      then some (Wheel.normalize [k]) else none := by
  have other : "ausente" ≠ "ocorreu" := by decide
  simp only [evaluate, if_neg other, if_pos, le_runLength_not_iff, ← not_or, ite_not,
    apply_ite Outcome.verdict, Outcome.verdict_found, Outcome.verdict_noMatch]

/-- The latest category is that of the latest spin, if it has one. -/
theorem getLast?_filterMap {f : Token → Option Category} {c : Category}
    (last : h.getLast?.bind f = some c) : (h.filterMap f).getLast? = some c := by
  obtain ⟨t, latest, category⟩ := Option.bind_eq_some_iff.mp last
  obtain ⟨older, rfl⟩ := List.getLast?_eq_some_iff.mp latest
  rw [List.filterMap_append, List.filterMap_cons_some category, List.filterMap_nil,
    List.getLast?_concat]

/-- Where the latest category is zero, or there is none, no category repeats. -/
theorem Repetition.verdict_ofAxis_eq_none {axis : String} (n : Nat)
    (last : ∀ c ∈ (h.filterMap (axisCategory? axis)).getLast?, c = .zero) :
    ((ofAxis axis n).evaluate h).verdict = none := by
  simp only [evaluate]
  cases found : (h.filterMap (axisCategory? axis)).getLast? with
  | none => rfl
  | some c =>
      obtain rfl : c = .zero := last c found
      rfl

theorem Repetition.verdict_ofAxis {axis : String} (n : Nat) {c : Category} (nonzero : c ≠ .zero)
    (last : (h.filterMap (axisCategory? axis)).getLast? = some c) :
    ((ofAxis axis n).evaluate h).verdict =
      if n ≤ runLength (· == c) (h.filterMap (axisCategory? axis))
      then some (Wheel.normalize c.members) else none := by
  simp only [evaluate, last]
  cases c with
  | zero => exact absurd rfl nonzero
  | red | black | even | odd =>
      simp only [← Nat.not_le, ite_not, apply_ite Outcome.verdict, Outcome.verdict_found,
        Outcome.verdict_noMatch]

/-- The categories of the window of an alternation: one for each spin, none of them zero, and no two
in a row equal. -/
structure Alternation.Fulfilled (a : Alternation) (h : History) (cs : List Category) : Prop where
  categories : (h.latest a.length).filterMap (axisCategory? a.axis) = cs
  full : a.length ≤ h.length
  each : cs.length = (h.latest a.length).length
  nonzero : .zero ∉ cs
  alternating : alternates cs

theorem Alternation.verdict_evaluate (a : Alternation) {ns : List Int} :
    (a.evaluate h).verdict = some ns ↔ ∃ cs c, a.Fulfilled h cs ∧ cs.getLast? = some c ∧
      Wheel.normalize c.opposite = ns := by
  simp only [evaluate]
  split
  next c last =>
    rw [apply_ite Outcome.verdict, Outcome.verdict_found, Outcome.verdict_noMatch]
    constructor
    · intro verdict
      split at verdict
      next fulfilled =>
        obtain ⟨full, each, nonzero, alternating⟩ := fulfilled
        exact ⟨_, c, ⟨rfl, full, each, nonzero, alternating⟩, last, Option.some.inj verdict⟩
      next => cases verdict
    · rintro ⟨_, d, ⟨rfl, full, each, nonzero, alternating⟩, latest, rfl⟩
      obtain rfl : c = d := Option.some.inj (last.symm.trans latest)
      exact if_pos ⟨full, each, nonzero, alternating⟩
  next none =>
    constructor
    · intro verdict
      cases verdict
    · rintro ⟨_, d, ⟨rfl, -⟩, latest, -⟩
      cases none.symm.trans latest

end Verdicts

/-! ## Categories on an axis -/

/-- The categories of an axis. -/
def axisCategories (axis : String) : List Category :=
  if axis = "paridade" then [.zero, .even, .odd] else [.zero, .red, .black]

section Axis

variable {axis : String} {t : Token} {c d : Category} {x : Int}

theorem mem_axisCategories (h : axisCategory? axis t = some c) : c ∈ axisCategories axis := by
  unfold axisCategory? at h
  unfold axisCategories
  split_ifs at h ⊢
  · cases t with
    | number n =>
        obtain rfl : Wheel.parity n = c := Option.some.inj h
        unfold Wheel.parity
        split_ifs <;> decide
    | word w =>
        rw [Token.parity?] at h
        have kept : ∀ c ∈ [Category.zero], c ∈ [Category.zero, .even, .odd] := by decide
        exact kept c (List.mem_of_find?_eq_some h)
  · cases t with
    | number n =>
        obtain rfl : Wheel.colour n = c := Option.some.inj h
        unfold Wheel.colour
        split_ifs <;> decide
    | word w =>
        rw [Token.colour?] at h
        have kept : ∀ c ∈ [Category.red, .black, .zero], c ∈ [Category.zero, .red, .black] := by
          decide
        exact kept c (List.mem_of_find?_eq_some h)

/-- The numbers of a category have it on its axis. -/
theorem axisCategory?_of_mem_members (onAxis : c ∈ axisCategories axis) (member : x ∈ c.members) :
    axisCategory? axis (.number x) = some c := by
  unfold axisCategories at onAxis
  unfold axisCategory?
  split_ifs at onAxis ⊢
  · have parity : ∀ c ∈ [Category.zero, .even, .odd], ∀ x ∈ c.members, Wheel.parity x = c := by
      decide
    exact congrArg some (parity c onAxis x member)
  · have colour : ∀ c ∈ [Category.zero, .red, .black], ∀ x ∈ c.members, Wheel.colour x = c := by
      decide
    exact congrArg some (colour c onAxis x member)

/-- The numbers opposite to a category other than zero have the other one of its axis. -/
theorem exists_axisCategory?_of_mem_opposite (onAxis : c ∈ axisCategories axis)
    (nonzero : c ≠ .zero) (member : x ∈ c.opposite) :
    ∃ d, axisCategory? axis (.number x) = some d ∧ d ≠ .zero ∧ c ≠ d := by
  unfold axisCategories at onAxis
  unfold axisCategory?
  split_ifs at onAxis ⊢
  · have parity : ∀ c ∈ [Category.zero, .even, .odd], c ≠ .zero → ∀ x ∈ c.opposite,
        Wheel.parity x ≠ .zero ∧ c ≠ Wheel.parity x := by decide
    exact ⟨_, rfl, parity c onAxis nonzero x member⟩
  · have colour : ∀ c ∈ [Category.zero, .red, .black], c ≠ .zero → ∀ x ∈ c.opposite,
        Wheel.colour x ≠ .zero ∧ c ≠ Wheel.colour x := by decide
    exact ⟨_, rfl, colour c onAxis nonzero x member⟩

/-- On a spin with a category the event of a category other than zero is that category. -/
theorem isMatch_category (normal : t.Normal) (category : axisCategory? axis t = some d)
    (onAxis : c ∈ axisCategories axis) (nonzero : c ≠ .zero) :
    (Event.category c).isMatch t = (d == c) := by
  unfold axisCategories at onAxis
  unfold axisCategory? at category
  cases t with
  | number n =>
      have pocket : n ∈ Wheel.pockets := Wheel.mem_pockets.mpr normal
      split_ifs at onAxis category
      · have parity : ∀ c ∈ [Category.zero, .even, .odd], c ≠ .zero → ∀ n ∈ Wheel.pockets,
            c.holds n = (Wheel.parity n == c) := by decide +kernel
        obtain rfl : Wheel.parity n = d := Option.some.inj category
        exact parity c onAxis nonzero n pocket
      · have colour : ∀ c ∈ [Category.zero, .red, .black], c ≠ .zero → ∀ n ∈ Wheel.pockets,
            c.holds n = (Wheel.colour n == c) := by decide +kernel
        obtain rfl : Wheel.colour n = d := Option.some.inj category
        exact colour c onAxis nonzero n pocket
  | word w =>
      split_ifs at onAxis category
      · -- Among the words only zero has a parity, and that is its colour too.
        rw [Token.parity?] at category
        obtain rfl : d = .zero := List.mem_singleton.mp (List.mem_of_find?_eq_some category)
        obtain rfl : Category.zero.name = w := by simpa using category
        rfl
      · rw [Event.isMatch, category]
        rfl

end Axis
end Condition
end RouletteStrategy
