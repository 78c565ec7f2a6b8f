import Mathlib.Algebra.Order.BigOperators.Group.List
import RouletteStrategy.Proofs.Condition.Reading
import RouletteStrategy.Proofs.Spin.History
import RouletteStrategy.Proofs.Wheel.Numbers

/-!
# Hot dozens and columns

The group that is computed for a number and the lists of members agree
(`Condition.Grouping.groupOf_eq_iff`), and no number is in two groups, so the hits of the groups add
up to no more than the window. A condition that looks for hot groups finds those whose members are
hit often enough, and contributes these members (`Condition.hot_evaluate`).
-/

namespace RouletteStrategy

section Counting

variable {α β : Type} {xs : List α}

theorem countP_add_of_disjoint {p q : α → Bool} (disjoint : ∀ x ∈ xs, p x → ¬q x) :
    xs.countP p + xs.countP q = xs.countP fun x => p x || q x := by
  induction xs with
  | nil => rfl
  | cons x xs ih =>
      obtain ⟨first, rest⟩ := List.forall_mem_cons.mp disjoint
      have ih := ih rest
      simp only [List.countP_cons]
      cases hp : p x
      · simp only [Bool.false_eq_true, if_false, Bool.false_or]
        omega
      · simp only [Bool.eq_false_iff.mpr (first hp), Bool.false_eq_true, if_true, if_false,
          Bool.or_false]
        omega

/-- The values under one of some keys are counted key by key. -/
theorem sum_countP_key [DecidableEq β] (key : α → β) {ks : List β} (distinct : ks.Nodup) :
    (ks.map fun k => xs.countP (key · == k)).sum = xs.countP (key · ∈ ks) := by
  induction ks with
  | nil => simp
  | cons k ks ih =>
      obtain ⟨other, rest⟩ := List.nodup_cons.mp distinct
      rw [List.map_cons, List.sum_cons, ih rest, countP_add_of_disjoint]
      · refine List.countP_congr fun x _ => ?_
        simp only [List.mem_cons, Bool.or_eq_true, beq_iff_eq, decide_eq_true_eq]
      · simp only [decide_eq_true_eq]
        intro x _ here
        rw [eq_of_beq here]
        exact other

end Counting

namespace Condition

/-! ## Groups of the wheel -/

namespace Grouping

variable {g : Grouping} {group : List Int} {i : Nat} {n : Int}

theorem mem_all (g : Grouping) : g ∈ [dozens, columns] := by
  cases g <;> decide

theorem onWheel_of_mem_group (member : group ∈ g.groups) (mem : n ∈ group) : Wheel.OnWheel n := by
  have covered : ∀ g ∈ [dozens, columns], ∀ group ∈ g.groups, ∀ n ∈ group, Wheel.OnWheel n := by
    decide
  exact covered g g.mem_all group member n mem

theorem zero_notMem_group (member : group ∈ g.groups) : 0 ∉ group := by
  have without : ∀ g ∈ [dozens, columns], ∀ group ∈ g.groups, 0 ∉ group := by decide
  exact without g g.mem_all group member

/-- The group of a number and the list of its members agree. -/
theorem groupOf_eq_iff (numbered : (group, i) ∈ g.groups.zipIdx 1) (onWheel : Wheel.OnWheel n) :
    g.groupOf n = i ↔ n ∈ group := by
  have agree : ∀ g ∈ [dozens, columns], ∀ m ∈ g.groups.zipIdx 1, ∀ n ∈ Wheel.pockets,
      (g.groupOf n = m.2 ↔ n ∈ m.1) := by decide
  exact agree g g.mem_all (group, i) numbered n (Wheel.mem_pockets.mpr onWheel)

end Grouping

/-! ## Groups that are hit often enough -/

namespace Hot

variable {c : Hot} {h : History} {group : List Int} {i : Nat}

/-- The numbers among the latest spins. -/
def recent (c : Hot) (h : History) : List Int := History.numbers (h.latest c.window)

/-- Enough of the latest spins are members of a group. -/
def IsHot (c : Hot) (h : History) (group : List Int) : Prop :=
  c.least ≤ (c.recent h).countP (· ∈ group)

instance : Decidable (c.IsHot h group) := inferInstanceAs (Decidable (_ ≤ _))

/-- The hot groups by their number, ascending. -/
def hotNumbers (c : Hot) (h : History) : List Nat :=
  ((c.grouping.groups.zipIdx 1).filter fun m => c.IsHot h m.1).map Prod.snd

/-- The hot groups are found among the latest spins. -/
structure Finds (c : Hot) (h : History) (outcome : Outcome) : Prop where
  passed_iff : outcome.passed ↔ c.window ≤ h.length ∧ ∃ group ∈ c.grouping.groups, c.IsHot h group
  reported : c.window ≤ h.length → Members.get? outcome.params c.grouping.label =
    some (.arr ((c.hotNumbers h).map .ofNat))
  unreported : h.length < c.window → Members.get? outcome.params c.grouping.label = none
  mem_numbers : ∀ n, n ∈ outcome.numbers ↔
    c.window ≤ h.length ∧ ∃ group ∈ c.grouping.groups, c.IsHot h group ∧ n ∈ group
  zero_notMem : 0 ∉ outcome.numbers
  few : (c.hotNumbers h).length * c.least ≤ c.window

theorem length_recent_le (c : Hot) (h : History) : (c.recent h).length ≤ c.window := by
  refine (List.length_filterMap_le _ _).trans ?_
  rw [History.latest, List.length_drop]
  omega

theorem onWheel_of_mem_recent (normal : h.Normal) : ∀ n ∈ c.recent h, Wheel.OnWheel n :=
  History.onWheel_of_mem_numbers fun t mem => normal t (List.mem_of_mem_drop mem)

/-- Hits counted by the group of each number, and by the members of the group. -/
theorem isHot_iff (normal : h.Normal) (numbered : (group, i) ∈ c.grouping.groups.zipIdx 1) :
    c.IsHot h group ↔ c.least ≤ (c.recent h).countP (c.grouping.groupOf · == (i : Int)) := by
  have hits : (c.recent h).countP (c.grouping.groupOf · == (i : Int)) =
      (c.recent h).countP (· ∈ group) := by
    refine List.countP_congr fun n mem => ?_
    rw [beq_iff_eq, decide_eq_true_eq]
    exact Grouping.groupOf_eq_iff numbered (onWheel_of_mem_recent normal n mem)
  rw [IsHot, hits]

theorem hotGroups_eq (normal : h.Normal) : c.hotGroups (c.recent h) =
    ((c.grouping.groups.zipIdx 1).filter fun m => c.IsHot h m.1).map Prod.swap := by
  rw [hotGroups, List.filter_map]
  refine congrArg (List.map Prod.swap) (List.filter_congr fun m numbered => ?_)
  exact decide_eq_decide.mpr (isHot_iff normal numbered).symm

theorem mem_hotGroups (normal : h.Normal) : (i, group) ∈ c.hotGroups (c.recent h) ↔
    (group, i) ∈ c.grouping.groups.zipIdx 1 ∧ c.IsHot h group := by
  rw [hotGroups_eq normal]
  simp

theorem map_fst_hotGroups (normal : h.Normal) :
    (c.hotGroups (c.recent h)).map Prod.fst = c.hotNumbers h := by
  rw [hotGroups_eq normal, List.map_map]
  rfl

/-- Each group has a number. -/
theorem exists_mem_hotGroups (normal : h.Normal) {p : List Int → Prop} :
    (∃ m ∈ c.hotGroups (c.recent h), p m.2) ↔
      ∃ group ∈ c.grouping.groups, c.IsHot h group ∧ p group := by
  constructor
  · rintro ⟨⟨i, group⟩, mem, holds⟩
    obtain ⟨numbered, hot⟩ := (mem_hotGroups normal).mp mem
    exact ⟨group, List.fst_mem_of_mem_zipIdx numbered, hot, holds⟩
  · rintro ⟨group, mem, hot, holds⟩
    obtain ⟨place, short, rfl⟩ := List.mem_iff_getElem.mp mem
    refine ⟨(1 + place, _), (mem_hotGroups normal).mpr ⟨?_, hot⟩, holds⟩
    exact List.mk_add_mem_zipIdx_iff_getElem?.mpr (List.getElem?_eq_getElem short)

/-- No number hits two groups, so the window has room for the hits of all that are hot. -/
theorem length_mul_least_le (normal : h.Normal) :
    (c.hotNumbers h).length * c.least ≤ c.window := by
  have ascending : (c.hotNumbers h).Sublist (List.range' 1 c.grouping.groups.length) := by
    rw [← List.zipIdx_map_snd]
    exact List.filter_sublist.map _
  have distinct : ((c.hotNumbers h).map Nat.cast : List Int).Nodup :=
    (ascending.nodup (List.nodup_range' _)).map Nat.cast_injective
  have enough : ∀ k ∈ ((c.hotNumbers h).map Nat.cast).map fun i : Int =>
      (c.recent h).countP (c.grouping.groupOf · == i), c.least ≤ k := by
    rw [List.map_map]
    rintro _ mem
    obtain ⟨i, listed, rfl⟩ := List.mem_map.mp mem
    rw [← map_fst_hotGroups normal] at listed
    obtain ⟨⟨_, group⟩, found, rfl⟩ := List.mem_map.mp listed
    obtain ⟨numbered, hot⟩ := (mem_hotGroups normal).mp found
    exact (isHot_iff normal numbered).mp hot
  calc (c.hotNumbers h).length * c.least
      ≤ (((c.hotNumbers h).map Nat.cast).map fun i : Int =>
          (c.recent h).countP (c.grouping.groupOf · == i)).sum := by
        simpa using List.card_nsmul_le_sum _ _ enough
    _ = (c.recent h).countP (c.grouping.groupOf · ∈ (c.hotNumbers h).map Nat.cast) :=
        sum_countP_key c.grouping.groupOf distinct
    _ ≤ (c.recent h).length := List.countP_le_length
    _ ≤ c.window := length_recent_le c h

/-! ## Outcomes -/

theorem evaluate_of_short (short : h.length < c.window) :
    (c.evaluate h).passed = false ∧ (c.evaluate h).numbers = [] ∧
      Members.get? (c.evaluate h).params c.grouping.label = none := by
  rw [evaluate, if_pos short]
  refine ⟨rfl, rfl, ?_⟩
  cases c.grouping <;> rfl

theorem evaluate_of_long (long : c.window ≤ h.length) :
    (c.evaluate h).passed = !(c.hotGroups (c.recent h)).isEmpty ∧
      (c.evaluate h).numbers =
        Wheel.normalize ((c.hotGroups (c.recent h)).flatMap Prod.snd) ∧
      Members.get? (c.evaluate h).params c.grouping.label =
        some (.arr ((c.hotGroups (c.recent h)).map fun m => .ofNat m.1)) := by
  have labelled (v w x : Json) : Members.get?
      ([("janela", v), ("frequenciaMinima", w)] ++ [(c.grouping.label, x)]) c.grouping.label =
      some x := by
    cases c.grouping <;> rfl
  simp only [evaluate, if_neg (Nat.not_lt.mpr long), recent]
  cases c.hotGroups (History.numbers (h.latest c.window)) with
  | nil => exact ⟨rfl, Wheel.normalize_nil.symm, labelled ..⟩
  | cons m hot => exact ⟨rfl, rfl, labelled ..⟩

theorem finds_evaluate (normal : h.Normal) : c.Finds h (c.evaluate h) := by
  have listed (p : List Int → Prop) := exists_mem_hotGroups (c := c) normal (p := p)
  have few := length_mul_least_le (c := c) normal
  rcases Nat.lt_or_ge h.length c.window with short | long
  · obtain ⟨passed, numbers, report⟩ := evaluate_of_short short
    have incomplete {p : Prop} : ¬(c.window ≤ h.length ∧ p) := fun both =>
      Nat.not_le.mpr short both.1
    constructor
    case passed_iff => exact iff_of_false (Bool.eq_false_iff.mp passed) incomplete
    case reported => exact fun long => absurd short (Nat.not_lt.mpr long)
    case unreported => exact fun _ => report
    case mem_numbers => exact fun n => iff_of_false (numbers ▸ List.not_mem_nil) incomplete
    case zero_notMem => exact numbers ▸ List.not_mem_nil
    case few => exact few
  · obtain ⟨passed, numbers, report⟩ := evaluate_of_long long
    have mem_numbers (n : Int) : n ∈ (c.evaluate h).numbers ↔
        ∃ group ∈ c.grouping.groups, c.IsHot h group ∧ n ∈ group := by
      rw [numbers, Wheel.mem_normalize, List.mem_flatMap, listed (n ∈ ·), and_iff_left_of_imp]
      rintro ⟨group, member, -, mem⟩
      exact Grouping.onWheel_of_mem_group member mem
    constructor
    case passed_iff =>
      have nonempty := listed fun _ => True
      simp only [and_true] at nonempty
      rw [passed, and_iff_right long, ← nonempty]
      simp [List.eq_nil_iff_forall_not_mem]
    case reported =>
      intro _
      rw [report, ← map_fst_hotGroups normal, List.map_map]
      rfl
    case unreported => exact fun short => absurd short (Nat.not_lt.mpr long)
    case mem_numbers =>
      intro n
      rw [mem_numbers, and_iff_right long]
    case zero_notMem =>
      rw [mem_numbers]
      rintro ⟨group, member, -, mem⟩
      exact Grouping.zero_notMem_group member mem
    case few => exact few

/-! ## Settings -/

variable {config : Config} {g : Grouping}

theorem exists_of_read (settings : read g config = .ok c) : ∃ window least,
    c = ⟨g, window, least⟩ ∧ ∀ o : Json.Object, config = .obj o →
      (o.setting ["janela", "window"]).Clamped 1 Config.maxCount 12 window ∧
      (o.setting ["frequenciaMinima"]).Clamped 1 Config.maxCount 5 least := by
  obtain ⟨window, count, settings⟩ := bind_eq_ok.mp settings
  obtain ⟨least, hits, settings⟩ := bind_eq_ok.mp settings
  cases settings
  refine ⟨window, least, rfl, ?_⟩
  rintro o rfl
  exact ⟨Config.clamped_of_count (by decide) count, Config.clamped_of_count (by decide) hits⟩

end Hot

theorem read_of_kind {subtype : String} {g : Grouping} (kind : Kind.ofSubtype subtype = g.kind)
    (config : Config) : read subtype config = .hot <$> Hot.read g config := by
  rw [read, kind]
  cases g <;> rfl

/-- The groups that the latest spins hit often enough are found, and contribute their members. -/
theorem hot_evaluate {subtype : String} {g : Grouping} (kind : Kind.ofSubtype subtype = g.kind)
    (config : Config) :
    (∀ o : Json.Object, config = .obj o → FailsIff .numberTooLarge
      ((o.setting ["janela", "window"]).IsHuge ∨ (o.setting ["frequenciaMinima"]).IsHuge)
      (read subtype config)) ∧
      ∀ c, read subtype config = .ok c → ∃ window least,
        c = .hot ⟨g, window, least⟩ ∧
        (∀ o : Json.Object, config = .obj o →
          (o.setting ["janela", "window"]).Clamped 1 Config.maxCount 12 window ∧
          (o.setting ["frequenciaMinima"]).Clamped 1 Config.maxCount 5 least) ∧
        ∀ h : History, h.Normal → Hot.Finds ⟨g, window, least⟩ h (c.evaluate h) := by
  rw [read_of_kind kind]
  constructor
  · rintro o rfl
    refine ((Hot.reads o g).fails.map _).congr ?_
    simp
  · intro c settings
    obtain ⟨_, given, rfl⟩ := map_eq_ok.mp settings
    obtain ⟨window, least, rfl, clamped⟩ := Hot.exists_of_read given
    exact ⟨window, least, rfl, clamped, fun h normal => Hot.finds_evaluate normal⟩

/-- Two columns with two hits each among six spins; a zero, a word and an older number are no
hits. -/
theorem hot_evaluate_twoColumns : ∃ c h,
    read "Column_Hot" (.obj [("window", .str "6"), ("frequenciaMinima", .int 2)]) = .ok c ∧
    h = [.number 33, .number 0, .number 1, .word "azul", .number 34, .number 2, .number 35] ∧
    (c.evaluate h).passed ∧ Hot.Finds ⟨.columns, 6, 2⟩ h (c.evaluate h) := by
  have settings : read "Column_Hot" (.obj [("window", .str "6"), ("frequenciaMinima", .int 2)]) =
      .ok (.hot ⟨.columns, 6, 2⟩) := by rfl
  have kind : Kind.ofSubtype "Column_Hot" = Grouping.columns.kind := by decide +kernel
  have normal : ∀ t ∈ [Token.number 33, .number 0, .number 1, .word "azul", .number 34, .number 2,
      .number 35], t.Normal := by decide +kernel
  obtain ⟨-, found⟩ := hot_evaluate kind (.obj [("window", .str "6"), ("frequenciaMinima", .int 2)])
  obtain ⟨_, _, ⟨⟩, -, found⟩ := found _ settings
  have finds := found _ normal
  exact ⟨_, _, settings, rfl, finds.passed_iff.mpr (by decide), finds⟩

end Condition
end RouletteStrategy
