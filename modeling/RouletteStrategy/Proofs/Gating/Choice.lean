import Mathlib.Data.Finset.Card
import RouletteStrategy.Proofs.Gating.Selection

/-!
# The selection that the rules describe

`Selects` says what the rules ask of a selection in terms of sets: the wheel numbers that a mode
chooses from, those among them that the rule on zero lets through, and the first of these where the
limit is exceeded. One selection meets the description, and it is the one that is made
(`selects_iff`).
-/

namespace RouletteStrategy

/-! ## Ascending lists as sets -/

section Ascending

variable {ns ms : List Int}

theorem card_toFinset_of_ascending (h : ns.Pairwise (· < ·)) : ns.toFinset.card = ns.length :=
  List.toFinset_card_of_nodup (h.imp Int.ne_of_lt)

theorem eq_of_toFinset_eq (hn : ns.Pairwise (· < ·)) (hm : ms.Pairwise (· < ·))
    (same : ns.toFinset = ms.toFinset) : ns = ms := by
  apply hn.eq_of_mem_iff hm
  intro n
  rw [← List.mem_toFinset, same, List.mem_toFinset]

end Ascending

namespace Wheel

/-- The wheel numbers in a list. -/
def among (ns : List Int) : Finset Int := ns.toFinset.filter OnWheel

@[simp] theorem mem_among {n : Int} {ns : List Int} : n ∈ among ns ↔ n ∈ ns ∧ OnWheel n := by
  simp [among]

theorem toFinset_normalize (ns : List Int) : (normalize ns).toFinset = among ns := by
  ext n
  simp

theorem length_normalize (ns : List Int) : (normalize ns).length = (among ns).card := by
  rw [← toFinset_normalize, card_toFinset_of_ascending (pairwise_lt_normalize ns)]

theorem exists_position {n : Int} (h : OnWheel n) : ∃ p, position? n = some p := by
  have found : ∀ m ∈ pockets, (position? m).isSome := by decide
  exact Option.isSome_iff_exists.mp (found n (mem_pockets.mpr h))

theorem exists_distance {a b : Int} (ha : OnWheel a) (hb : OnWheel b) :
    ∃ d, distance? a b = some d := by
  obtain ⟨p, hp⟩ := exists_position ha
  obtain ⟨q, hq⟩ := exists_position hb
  simp [distance?, hp, hq]

end Wheel

namespace Gating

variable {derived manual : List Int} {mode : SelectionMode} {rules : GatingRules} {active : Bool}
  {last : Option Int} {a b : Int} {cap : Nat}

/-! ## The description -/

/-- The numbers that a mode chooses from. -/
def pool (mode : SelectionMode) (derived manual : List Int) : Finset Int :=
  match mode with
  | .manual => Wheel.among manual
  | .hybrid => Wheel.among derived ∪ Wheel.among manual
  | .automatic | .other _ => Wheel.among derived

/-- The numbers that the rule on zero lets through. -/
def eligible (rules : GatingRules) (found : Finset Int) : Finset Int :=
  if rules.excludeZero then found.erase 0 else found

/-- The modes that limit how many numbers they keep. -/
inductive Limit : SelectionMode → GatingRules → Nat → Prop where
  | automatic (rules : GatingRules) : Limit .automatic rules rules.maxAuto
  | hybrid (rules : GatingRules) : Limit .hybrid rules rules.maxHybrid

/-- The closer of two numbers comes first, and of two equally close ones the lesser; without a last
number the lesser does in any case. -/
inductive Precedes : Option Int → Int → Int → Prop where
  | lesser {a b : Int} : a < b → Precedes none a b
  | closer {r a b : Int} {d e : Nat} : Wheel.distance? a r = some d → Wheel.distance? b r = some e →
    d < e → Precedes (some r) a b
  | equallyClose {r a b : Int} {d : Nat} : Wheel.distance? a r = some d →
    Wheel.distance? b r = some d → a < b → Precedes (some r) a b

/-- As many numbers of a set as the limit allows, those that come first. -/
structure First (last : Option Int) (cap : Nat) (all kept : Finset Int) : Prop where
  subset : kept ⊆ all
  card : kept.card = cap
  precedes : ∀ a ∈ kept, ∀ b ∈ all, b ∉ kept → Precedes last a b

/-- Leaving out zero is a reason only where there is a zero to leave out. -/
def zeroReason (rules : GatingRules) (found : Finset Int) : List Reason :=
  if rules.excludeZero ∧ 0 ∈ found then [.excludeZero] else []

/-- What the rules ask of a selection. -/
inductive Selects (derived manual : List Int) (mode : SelectionMode) (rules : GatingRules)
    (active : Bool) (last : Option Int) : Selection → Prop where
  | inactive (off : active = false) :
    Selects derived manual mode rules active last
      ⟨[], ⟨[.signalInactive], 0, 0, rules, mode⟩, false⟩
  | tooFew (on : active = true) (hybrid : mode = .hybrid)
    (few : (Wheel.among manual).card < rules.minManual) :
    Selects derived manual mode rules active last
      ⟨[], ⟨[.minManualNotMet], (pool mode derived manual).card, 0, rules, mode⟩, true⟩
  | whole {numbers : List Int} (on : active = true)
    (enough : mode = .hybrid → rules.minManual ≤ (Wheel.among manual).card)
    (within : ∀ cap, Limit mode rules cap →
      (eligible rules (pool mode derived manual)).card ≤ cap)
    (ascending : numbers.Pairwise (· < ·))
    (all : numbers.toFinset = eligible rules (pool mode derived manual)) :
    Selects derived manual mode rules active last
      ⟨numbers, ⟨zeroReason rules (pool mode derived manual), (pool mode derived manual).card,
        numbers.length, rules, mode⟩, false⟩
  | cut {numbers : List Int} {cap : Nat} (on : active = true)
    (enough : mode = .hybrid → rules.minManual ≤ (Wheel.among manual).card)
    (limit : Limit mode rules cap)
    (exceeded : cap < (eligible rules (pool mode derived manual)).card)
    (ascending : numbers.Pairwise (· < ·))
    (first : First last cap (eligible rules (pool mode derived manual)) numbers.toFinset) :
    Selects derived manual mode rules active last
      ⟨numbers, ⟨zeroReason rules (pool mode derived manual) ++ [.limit],
        (pool mode derived manual).card, numbers.length, rules, mode⟩, false⟩

/-! ## One selection at most -/

theorem Limit.eq {cap' : Nat} (h : Limit mode rules cap) (h' : Limit mode rules cap') :
    cap = cap' := by
  cases h <;> cases h' <;> rfl

theorem Precedes.asymm (h : Precedes last a b) : ¬ Precedes last b a := by
  intro h'
  cases h with
  | lesser ab =>
      cases h' with
      | lesser ba => omega
  | closer ha hb ab | equallyClose ha hb ab =>
      cases h' with
      | closer hb' ha' ba | equallyClose hb' ha' ba =>
          have := Option.some.inj (ha.symm.trans ha')
          have := Option.some.inj (hb.symm.trans hb')
          omega

/-- If two such sets differed, each would have a number that precedes one of the other. -/
theorem First.eq {all kept kept' : Finset Int} (h : First last cap all kept)
    (h' : First last cap all kept') : kept = kept' := by
  by_contra differ
  obtain ⟨a, ha, new⟩ := Finset.not_subset.mp fun part =>
    differ (Finset.eq_of_subset_of_card_le part (h'.card.trans h.card.symm).le)
  obtain ⟨b, hb, new'⟩ := Finset.not_subset.mp fun part =>
    differ (Finset.eq_of_subset_of_card_le part (h.card.trans h'.card.symm).le).symm
  exact (h.precedes a ha b (h'.subset hb) new').asymm (h'.precedes b hb a (h.subset ha) new)

theorem Selects.eq {s t : Selection} (h : Selects derived manual mode rules active last s)
    (h' : Selects derived manual mode rules active last t) : s = t := by
  cases h with
  | inactive off =>
      cases h' with
      | inactive => rfl
      | tooFew on | whole on | cut on => simp [off] at on
  | tooFew on hybrid few =>
      cases h' with
      | tooFew => rfl
      | inactive off => simp [on] at off
      | whole _ enough | cut _ enough => exact absurd (enough hybrid) (Nat.not_le.mpr few)
  | whole on enough within ascending all =>
      cases h' with
      | inactive off => simp [on] at off
      | tooFew _ hybrid few => exact absurd (enough hybrid) (Nat.not_le.mpr few)
      | cut _ _ limit exceeded => exact absurd (within _ limit) (Nat.not_le.mpr exceeded)
      | whole _ _ _ ascending' all' =>
          rw [eq_of_toFinset_eq ascending ascending' (all.trans all'.symm)]
  | cut on enough limit exceeded ascending first =>
      cases h' with
      | inactive off => simp [on] at off
      | tooFew _ hybrid few => exact absurd (enough hybrid) (Nat.not_le.mpr few)
      | whole _ _ within => exact absurd (within _ limit) (Nat.not_le.mpr exceeded)
      | cut _ _ limit' _ ascending' first' =>
          cases limit.eq limit'
          rw [eq_of_toFinset_eq ascending ascending' (first.eq first')]

/-! ## The selection made -/

theorem toFinset_candidates (mode : SelectionMode) (derived manual : List Int) :
    (candidates mode derived manual).toFinset = pool mode derived manual := by
  cases mode with
  | manual | automatic | other => exact Wheel.toFinset_normalize _
  | hybrid =>
      ext n
      simp [candidates, pool, or_and_right]

theorem length_candidates (mode : SelectionMode) (derived manual : List Int) :
    (candidates mode derived manual).length = (pool mode derived manual).card := by
  rw [← toFinset_candidates,
    card_toFinset_of_ascending (pairwise_lt_candidates mode derived manual)]

theorem contains_zero_candidates (mode : SelectionMode) (derived manual : List Int) :
    (candidates mode derived manual).contains 0 ↔ 0 ∈ pool mode derived manual := by
  rw [← toFinset_candidates, List.mem_toFinset, List.contains_iff_mem]

theorem toFinset_allowed (rules : GatingRules) (found : List Int) :
    (allowed rules found).toFinset = eligible rules found.toFinset := by
  unfold allowed eligible
  split_ifs
  · ext n
    simp [and_comm]
  · rfl

/-- The candidates that the rule on zero lets through. -/
def remaining (mode : SelectionMode) (rules : GatingRules) (derived manual : List Int) : List Int :=
  allowed rules (candidates mode derived manual)

theorem pairwise_lt_remaining (mode : SelectionMode) (rules : GatingRules)
    (derived manual : List Int) : (remaining mode rules derived manual).Pairwise (· < ·) :=
  (pairwise_lt_candidates mode derived manual).sublist (allowed_sublist rules _)

theorem toFinset_remaining (mode : SelectionMode) (rules : GatingRules)
    (derived manual : List Int) :
    (remaining mode rules derived manual).toFinset = eligible rules (pool mode derived manual) := by
  rw [remaining, toFinset_allowed, toFinset_candidates]

theorem length_remaining (mode : SelectionMode) (rules : GatingRules) (derived manual : List Int) :
    (remaining mode rules derived manual).length =
      (eligible rules (pool mode derived manual)).card := by
  rw [← toFinset_remaining,
    card_toFinset_of_ascending (pairwise_lt_remaining mode rules derived manual)]

theorem limit_iff : Limit mode rules cap ↔ cap? mode rules = some cap := by
  constructor
  · rintro (_ | _) <;> rfl
  · intro h
    cases mode with
    | automatic =>
        cases h
        exact .automatic rules
    | hybrid =>
        cases h
        exact .hybrid rules
    | manual | other => cases h

theorem exceeds_iff {n : Nat} :
    (cap? mode rules).any (· < n) ↔ ∃ cap, Limit mode rules cap ∧ cap < n := by
  simp [Option.any_eq_true, limit_iff]

/-- Within the limit everything is kept. -/
theorem limited_of_within {ns : List Int} (ascending : ns.Pairwise (· < ·))
    (within : ¬ (cap? mode rules).any (· < ns.length)) : limited mode rules last ns = ns := by
  unfold limited
  split
  next cap limit =>
    have short : ns.length ≤ cap := by simpa [limit] using within
    rw [truncate_eq_take, List.take_of_length_le (by rwa [(ranked_perm last ns).length_eq])]
    exact ascending_eq (ranked_perm last ns) (ascending.imp Int.le_of_lt)
  next => rfl

theorem precedes_of_ranks (onWheel : ∀ r ∈ last, Wheel.OnWheel r) (ha : Wheel.OnWheel a)
    (hb : Wheel.OnWheel b) (differ : a ≠ b) (h : ranks last a b) : Precedes last a b := by
  cases last with
  | none => exact .lesser (lt_of_le_of_ne (ranks_none_iff.mp h) differ)
  | some r =>
      obtain ⟨d, hd⟩ := Wheel.exists_distance ha (onWheel r rfl)
      obtain ⟨e, he⟩ := Wheel.exists_distance hb (onWheel r rfl)
      rw [ranks_some_iff, distanceFrom, distanceFrom, hd, he] at h
      rcases h with nearer | ⟨equal, le⟩
      · exact .closer hd he nearer
      · cases show d = e from equal
        exact .equallyClose hd he (lt_of_le_of_ne le differ)

/-- What is cut off ranks after all that is kept. -/
theorem first_truncate {ns : List Int} (onWheel : ∀ r ∈ last, Wheel.OnWheel r)
    (wheel : ∀ n ∈ ns, Wheel.OnWheel n) (nodup : ns.Nodup) (long : cap ≤ ns.length) :
    First last cap ns.toFinset (truncate ns cap last).toFinset := by
  have kept : ∀ n, n ∈ truncate ns cap last ↔ n ∈ (ranked last ns).take cap :=
    fun n => (truncate_perm ns cap last).mem_iff
  refine ⟨?_, ?_, ?_⟩
  · intro n h
    rw [List.mem_toFinset] at *
    exact mem_of_mem_truncate h
  · rw [card_toFinset_of_ascending (pairwise_lt_truncate nodup cap last), length_truncate,
      Nat.min_eq_left long]
  · intro a ha b hb cutOff
    rw [List.mem_toFinset] at ha hb cutOff
    have rest : b ∈ (ranked last ns).drop cap := by
      have mem : b ∈ (ranked last ns).take cap ++ (ranked last ns).drop cap := by
        rw [List.take_append_drop]
        exact (ranked_perm last ns).mem_iff.mpr hb
      exact (List.mem_append.mp mem).resolve_left fun h => cutOff ((kept b).mpr h)
    have order := pairwise_ranked last ns
    rw [← List.take_append_drop cap (ranked last ns), List.pairwise_append] at order
    refine precedes_of_ranks onWheel (wheel a (mem_of_mem_truncate ha)) (wheel b hb) ?_
      (order.2.2 a ((kept a).mp ha) b rest)
    rintro rfl
    exact cutOff ha

theorem select_running (enough : ¬ LacksManual mode rules manual) :
    select derived manual mode rules true last =
      ⟨limited mode rules last (remaining mode rules derived manual),
        ⟨zeroReason rules (pool mode derived manual) ++
          (if (cap? mode rules).any (· < (remaining mode rules derived manual).length) then [.limit]
            else []),
          (pool mode derived manual).card,
          (limited mode rules last (remaining mode rules derived manual)).length, rules, mode⟩,
        false⟩ := by
  have zero : (rules.excludeZero && (candidates mode derived manual).contains 0) = true ↔
      rules.excludeZero ∧ 0 ∈ pool mode derived manual := by
    rw [Bool.and_eq_true, contains_zero_candidates]
  rw [zeroReason, ← length_candidates, select, if_neg (by decide)]
  refine (if_neg enough).trans ?_
  simp only [zero]
  rfl

theorem select_lacking (lacks : LacksManual mode rules manual) :
    select derived manual mode rules true last =
      ⟨[], ⟨[.minManualNotMet], (pool mode derived manual).card, 0, rules, mode⟩, true⟩ := by
  rw [← length_candidates, select, if_neg (by decide)]
  exact if_pos lacks

theorem not_lacksManual_iff : ¬ LacksManual mode rules manual ↔
    (mode = .hybrid → rules.minManual ≤ (Wheel.among manual).card) := by
  rw [LacksManual, Wheel.length_normalize, not_and, Nat.not_lt]

theorem selects_running (onWheel : ∀ r ∈ last, Wheel.OnWheel r)
    (enough : ¬ LacksManual mode rules manual) :
    Selects derived manual mode rules true last
      (select derived manual mode rules true last) := by
  have ascending := pairwise_lt_remaining mode rules derived manual
  have all := toFinset_remaining mode rules derived manual
  have length := length_remaining mode rules derived manual
  rw [select_running enough]
  rw [not_lacksManual_iff] at enough
  by_cases exceeded : (cap? mode rules).any (· < (remaining mode rules derived manual).length)
  · obtain ⟨cap, limit, long⟩ := exceeds_iff.mp exceeded
    have cut : limited mode rules last (remaining mode rules derived manual) =
        truncate (remaining mode rules derived manual) cap last := by
      rw [limited, limit_iff.mp limit]
    have nodup := ascending.imp Int.ne_of_lt
    have wheel : ∀ n ∈ remaining mode rules derived manual, Wheel.OnWheel n :=
      fun n h => onWheel_of_mem_candidates ((allowed_sublist rules _).subset h)
    have first := first_truncate onWheel wheel nodup long.le
    rw [if_pos exceeded, cut]
    exact .cut rfl enough limit (length ▸ long) (pairwise_lt_truncate nodup cap last) (all ▸ first)
  · rw [if_neg exceeded, limited_of_within ascending exceeded, List.append_nil]
    refine .whole rfl enough (fun cap limit => ?_) ascending all
    rw [← length]
    exact Nat.not_lt.mp fun long => exceeded (exceeds_iff.mpr ⟨cap, limit, long⟩)

theorem selects_select (onWheel : ∀ r ∈ last, Wheel.OnWheel r) :
    Selects derived manual mode rules active last
      (select derived manual mode rules active last) := by
  cases active with
  | false => exact .inactive rfl
  | true =>
      by_cases lacks : LacksManual mode rules manual
      · rw [select_lacking lacks]
        exact .tooFew rfl lacks.1 (Wheel.length_normalize manual ▸ lacks.2)
      · exact selects_running onWheel lacks

/-- Whatever the numbers, rules and mode are, one selection is as described, and it is the one made.
It counts as gated exactly if it has a reason. -/
theorem selects_iff (onWheel : ∀ r ∈ last, Wheel.OnWheel r) (s : Selection) :
    (Selects derived manual mode rules active last s ↔
      select derived manual mode rules active last = s) ∧
    ((select derived manual mode rules active last).applied.gated ↔
      (select derived manual mode rules active last).applied.reasons ≠ []) := by
  refine ⟨⟨fun h => (selects_select onWheel).eq h, fun h => h ▸ selects_select onWheel⟩, ?_⟩
  simp [Applied.gated]

/-- Zero is left out, and then 10, which is farthest from it, is cut off. -/
theorem selects_iff_hybridNearZero :
    (∀ r ∈ some 0, Wheel.OnWheel r) ∧
      Selects [0, 32, 15, 15, 40] [26, -3, 10] .hybrid ⟨18, 3, 1, true⟩ true (some 0)
        ⟨[15, 26, 32], ⟨[.excludeZero, .limit], 5, 3, ⟨18, 3, 1, true⟩, .hybrid⟩, false⟩ := by
  have onWheel : ∀ r ∈ some 0, Wheel.OnWheel r := by
    rintro r ⟨⟩
    decide
  have selected : select [0, 32, 15, 15, 40] [26, -3, 10] .hybrid ⟨18, 3, 1, true⟩ true (some 0) =
      ⟨[15, 26, 32], ⟨[.excludeZero, .limit], 5, 3, ⟨18, 3, 1, true⟩, .hybrid⟩, false⟩ := by
    have left : remaining .hybrid ⟨18, 3, 1, true⟩ [0, 32, 15, 15, 40] [26, -3, 10] =
        [10, 15, 26, 32] := by decide
    have kept : limited .hybrid ⟨18, 3, 1, true⟩ (some 0) [10, 15, 26, 32] = [15, 26, 32] := by
      have order : ranked (some 0) [10, 15, 26, 32] = [26, 32, 15, 10] :=
        ranked_eq (by decide) (by decide)
      rw [limited]
      refine (truncate_eq_take _ 3 _).trans ?_
      rw [order]
      exact ascending_eq (show [26, 32, 15].Perm [15, 26, 32] by decide) (by decide)
    rw [select_running (by decide), left, kept]
    decide
  exact ⟨onWheel, (selects_iff onWheel _).1.mpr selected⟩

end Gating
end RouletteStrategy
