import RouletteStrategy.Proofs.Condition.Reading
import RouletteStrategy.Proofs.Condition.Runs

/-!
# Patterns that the next spin continues

A repetition, an alternation or an absence of an event contributes the numbers that make its pattern
one spin longer: after any of them the same condition with a length of one more is a match
(`Condition.continued_concat`).
-/

namespace RouletteStrategy

namespace Event

variable {e : Event} {t : Token} {x : Int}

/-- After a spin that makes an event happen, every number of the event does. A word that is
compared as text is the numeral of the spin, as no spin that denotes a number is kept as a word. -/
theorem isMatch_of_mem_numbers (normal : t.Normal) (happened : e.isMatch t)
    (onWheel : Wheel.OnWheel x) (member : x ∈ e.numbers) : e.isMatch (.number x) := by
  cases e with
  | category c => exact (isMatch_category_iff c onWheel).mpr member
  | number code => exact (isMatch_numbered_iff code onWheel).mpr member
  | word w =>
      have denoted : Literal.int? w = some x := (mem_normalize_int? onWheel).mp member
      refine (isMatch_word_iff w onWheel).mpr ⟨member, ?_⟩
      obtain rfl : t.text = w := beq_iff_eq.mp happened
      cases t with
      | number n =>
          rw [Token.text, Literal.int?_toString normal] at denoted
          cases denoted
          rfl
      | word v =>
          have number := Literal.isSome_float? denoted
          rw [Token.text, show Literal.float? v = none from normal] at number
          cases number

/-- The numbers that a category leaves out do not make it happen. -/
theorem isMatch_of_mem_complement (member : x ∈ e.complement) : e.isMatch (.number x) = false := by
  cases e with
  | category c =>
      have outside : ∀ c : Category, ∀ x ∈ c.opposite, c.holds x = false := by
        intro c
        cases c <;> decide
      exact outside c x member
  | number | word => cases member

end Event

namespace Condition

variable {h : History} {x : Int} {n m : Nat}

/-! ## One spin more -/

/-- The run is not empty, so one of its spins shows how the event is spelled. -/
theorem Repetition.passed_concat_ofEvent {event : String} (normal : h.Normal) (some : 1 ≤ n)
    (length : m ≤ n + 1) (member : x ∈ ((ofEvent event n).evaluate h).numbers) :
    ((ofEvent event m).evaluate (h ++ [.number x])).passed := by
  obtain ⟨long, member⟩ := (formed_evaluate (.repetition (.ofEvent event n)) h).of_mem
    (verdict_ofEvent event n) member
  obtain ⟨member, onWheel⟩ := Wheel.mem_normalize.mp member
  obtain ⟨t, spin, happened⟩ := exists_of_runLength_pos (Nat.lt_of_lt_of_le some long)
  have continues : (Event.ofName event).isMatch (.number x) :=
    Event.isMatch_of_mem_numbers (normal t spin) happened onWheel member
  exact Outcome.passed_of_verdict
    ((verdict_ofEvent event m).trans (if_pos (le_runLength_concat long continues length)))

theorem Repetition.passed_concat_ofAxis {axis : String} (length : m ≤ n + 1)
    (member : x ∈ ((ofAxis axis n).evaluate h).numbers) :
    ((ofAxis axis m).evaluate (h ++ [.number x])).passed := by
  have formed := formed_evaluate (.repetition (.ofAxis axis n)) h
  by_cases none : ∀ c ∈ (h.filterMap (axisCategory? axis)).getLast?, c = .zero
  · obtain ⟨ns, verdict, -⟩ := formed.exists_verdict member
    rw [Condition.evaluate, verdict_ofAxis_eq_none n none] at verdict
    cases verdict
  · push Not at none
    obtain ⟨c, last, nonzero⟩ := none
    obtain ⟨long, member⟩ := formed.of_mem (verdict_ofAxis n nonzero last) member
    obtain ⟨t, -, category⟩ := List.mem_filterMap.mp (List.mem_of_getLast? last)
    have same := axisCategory?_of_mem_members (mem_axisCategories category)
      (Wheel.mem_normalize.mp member).1
    have categories : (h ++ [Token.number x]).filterMap (axisCategory? axis) =
        h.filterMap (axisCategory? axis) ++ [c] := by
      rw [List.filterMap_append, List.filterMap_cons_some same, List.filterMap_nil]
    have last' : ((h ++ [Token.number x]).filterMap (axisCategory? axis)).getLast? = some c := by
      rw [categories, List.getLast?_concat]
    refine Outcome.passed_of_verdict ((verdict_ofAxis m nonzero last').trans (if_pos ?_))
    rw [categories]
    exact le_runLength_concat long (beq_self_eq_true c) length

theorem Absence.passed_concat {target : String} (length : m ≤ n + 1)
    (member : x ∈ (evaluate ⟨target, n, .target⟩ h).numbers) :
    (evaluate ⟨target, m, .target⟩ (h ++ [.number x])).passed := by
  obtain ⟨long, member⟩ := (formed_evaluate (.absence ⟨target, n, .target⟩) h).of_mem
    (verdict_target target n) member
  have other : (!(Event.ofName target).isMatch (.number x)) = true := by
    rw [Event.isMatch_of_mem_complement (Wheel.mem_normalize.mp member).1, Bool.not_false]
  exact Outcome.passed_of_verdict
    ((verdict_target target m).trans (if_pos (le_runLength_concat long other length)))

theorem Alternation.alternates_concat {cs : List Category} {c d : Category} (h : alternates cs)
    (last : cs.getLast? = some c) (differ : c ≠ d) : alternates (cs ++ [d]) := by
  induction cs using alternates.induct with
  | case1 a b rest ih =>
      simp only [alternates, Bool.and_eq_true, decide_eq_true_eq] at h
      simp only [List.cons_append, alternates, Bool.and_eq_true, decide_eq_true_eq]
      exact ⟨h.1, ih h.2 (by simpa using last)⟩
  | case2 cs short =>
      cases cs with
      | nil => cases last
      | cons a rest =>
          cases rest with
          | nil =>
              cases last
              simpa [alternates] using differ
          | cons b rest => exact absurd rfl (short a b rest)

theorem Alternation.passed_concat {axis : String} (member : x ∈ (evaluate ⟨axis, n⟩ h).numbers) :
    (evaluate ⟨axis, n + 1⟩ (h ++ [.number x])).passed := by
  obtain ⟨ns, verdict, member⟩ :=
    (formed_evaluate (.alternation ⟨axis, n⟩) h).exists_verdict member
  obtain ⟨cs, c, ⟨categories, full, each, nonzero, alternating⟩, last, rfl⟩ :=
    (verdict_evaluate _).mp verdict
  dsimp only at categories full each
  have latest : c ∈ cs := List.mem_of_getLast? last
  obtain ⟨t, -, category⟩ := List.mem_filterMap.mp (categories ▸ latest)
  obtain ⟨d, category', nonzero', differ⟩ := exists_axisCategory?_of_mem_opposite
    (mem_axisCategories category) (fun zero => nonzero (zero ▸ latest))
    (Wheel.mem_normalize.mp member).1
  have fulfilled : Fulfilled ⟨axis, n + 1⟩ (h ++ [.number x]) (cs ++ [d]) := by
    constructor
    case categories =>
      rw [History.latest_concat, List.filterMap_append, categories,
        List.filterMap_cons_some category', List.filterMap_nil]
    case full => simpa using full
    case each =>
      rw [History.latest_concat, List.length_append, List.length_append, each]
      rfl
    case nonzero =>
      rw [List.mem_append, List.mem_singleton, not_or]
      exact ⟨nonzero, Ne.symm nonzero'⟩
    case alternating => exact alternates_concat alternating last differ
  exact Outcome.passed_of_verdict
    ((verdict_evaluate _).mpr ⟨_, d, fulfilled, List.getLast?_concat, rfl⟩)

/-! ## Settings with a length -/

/-- The settings of a node give its pattern a length under a name, which counts from a least one. -/
inductive Measured (subtype : String) (o : Json.Object) : String → Nat → Prop where
  | repetitionOfEvent (kind : Kind.ofSubtype subtype = .repetition)
      (named : (o.setting ["evento"]).wordOr "" ≠ "") : Measured subtype o "ocorrencias" 0
  | repetitionOnAxis (kind : Kind.ofSubtype subtype = .repetition)
      (unnamed : (o.setting ["evento"]).wordOr "" = "") : Measured subtype o "minRun" 0
  | alternation (kind : Kind.ofSubtype subtype = .alternation) : Measured subtype o "comprimento" 2
  /-- What is absent is an event, not the number of a setting. -/
  | absence (kind : Kind.ofSubtype subtype = .absence)
      (ofEvent : (o.setting ["alvo", "evento"]).wordOr Category.red.name ≠ "numero")
      (numberless : (o.setting ["numeroAlvo"]).isNull) : Measured subtype o "spins" 0

section Measured

variable {subtype key : String} {o : Json.Object} {least : Nat}

/-- The settings with another length. -/
def withLength (o : Json.Object) (key : String) (n : Nat) : Json.Object :=
  Members.set o key (.ofNat n)

theorem setting_withLength {names : List String} (other : key ∉ names) :
    (withLength o key n).setting names = o.setting names :=
  Json.Object.setting_set_of_notMem other

theorem count_withLength {names : List String} {low : Nat} (bound : n ≤ Config.maxCount)
    (default : Nat) : Config.count (.obj (withLength o key n)) (key :: names) default low
      Config.maxCount = .ok (max low n) := by
  refine Config.count_of_at ?_ bound default
  rw [withLength, Json.Object.at_set, if_pos rfl]

theorem Repetition.read_withLength (named : (o.setting ["evento"]).wordOr "" ≠ "")
    (bound : n ≤ Config.maxCount) : read (.obj (withLength o "ocorrencias" n)) =
      .ok (.ofEvent ((o.setting ["evento"]).wordOr "") (max 1 n)) := by
  refine read_ofEvent ?_ named (count_withLength bound 2)
  rw [setting_withLength (by decide)]

theorem Repetition.read_withLength_ofAxis (unnamed : (o.setting ["evento"]).wordOr "" = "")
    (bound : n ≤ Config.maxCount) : read (.obj (withLength o "minRun" n)) =
      .ok (.ofAxis ((o.setting ["eixo"]).wordOr "cor") (max 1 n)) := by
  have axis : (withLength o "minRun" n).setting ["eixo"] = o.setting ["eixo"] :=
    setting_withLength (by decide)
  rw [← axis]
  refine read_ofAxis ?_ (count_withLength bound 2)
  rw [setting_withLength (by decide), unnamed]

theorem Alternation.read_withLength (bound : n ≤ Config.maxCount) :
    read (.obj (withLength o "comprimento" n)) =
      .ok ⟨(o.setting ["eixo"]).wordOr "cor", max 2 n⟩ := by
  refine bind_eq_ok.mpr ⟨_, Config.word_obj .., ?_⟩
  rw [setting_withLength (by decide)]
  exact bind_eq_ok.mpr ⟨_, count_withLength bound 4, rfl⟩

theorem Absence.read_withLength
    (ofEvent : (o.setting ["alvo", "evento"]).wordOr Category.red.name ≠ "numero")
    (numberless : (o.setting ["numeroAlvo"]).isNull) (bound : n ≤ Config.maxCount) :
    read (.obj (withLength o "spins" n)) =
      .ok ⟨(o.setting ["alvo", "evento"]).wordOr Category.red.name, max 1 n, .target⟩ := by
  have target : (withLength o "spins" n).setting ["alvo", "evento"] =
      o.setting ["alvo", "evento"] := setting_withLength (by decide)
  have number : (withLength o "spins" n).setting ["numeroAlvo"] = o.setting ["numeroAlvo"] :=
    setting_withLength (by decide)
  refine bind_eq_ok.mpr ⟨_, Config.word_obj .., ?_⟩
  refine bind_eq_ok.mpr ⟨_, count_withLength bound 3, ?_⟩
  refine bind_eq_ok.mpr ⟨_, Config.find_obj .., ?_⟩
  refine bind_eq_ok.mpr ⟨_, Config.find_obj .., ?_⟩
  rw [target, number, numberless, Bool.not_true, Bool.or_false, beq_eq_false_iff_ne.mpr ofEvent]
  rfl

/-- After any number that a pattern contributes, the pattern with a length of one more is a
match. -/
theorem continued_concat (measured : Measured subtype o key least) (long : least ≤ n)
    (bound : n + 1 ≤ Config.maxCount) :
    ∃ c c', read subtype (.obj (withLength o key n)) = .ok c ∧
      read subtype (.obj (withLength o key (n + 1))) = .ok c' ∧
      ∀ raw h, History.read raw = .ok h → ∀ x ∈ (c.evaluate h).numbers,
        (c'.evaluate (h ++ [.number x])).passed := by
  have bound' : n ≤ Config.maxCount := Nat.le_of_succ_le bound
  -- A length below the least one counts as the least, so both lengths may be the same.
  have step : max 1 (n + 1) ≤ max 1 n + 1 := by omega
  cases measured with
  | repetitionOfEvent kind named =>
      simp only [read, kind, Repetition.read_withLength named bound,
        Repetition.read_withLength named bound']
      refine ⟨_, _, rfl, rfl, fun raw h spins x member => ?_⟩
      exact Repetition.passed_concat_ofEvent (History.normal_of_read spins) (le_max_left 1 n) step
        member
  | repetitionOnAxis kind unnamed =>
      simp only [read, kind, Repetition.read_withLength_ofAxis unnamed bound,
        Repetition.read_withLength_ofAxis unnamed bound']
      refine ⟨_, _, rfl, rfl, fun raw h spins x member => ?_⟩
      exact Repetition.passed_concat_ofAxis step member
  | alternation kind =>
      simp only [read, kind, Alternation.read_withLength bound, Alternation.read_withLength bound',
        max_eq_right long, max_eq_right (Nat.le_succ_of_le long)]
      refine ⟨_, _, rfl, rfl, fun raw h spins x member => ?_⟩
      exact Alternation.passed_concat member
  | absence kind ofEvent numberless =>
      simp only [read, kind, Absence.read_withLength ofEvent numberless bound,
        Absence.read_withLength ofEvent numberless bound']
      refine ⟨_, _, rfl, rfl, fun raw h spins x member => ?_⟩
      exact Absence.passed_concat step member

/-- A word and a number of two colours, and the colour that comes next. -/
theorem continued_concat_colours : Measured "Alternation" [] "comprimento" 2 ∧
    ∃ c', read "Alternation" (.obj (withLength [] "comprimento" 3)) = .ok c' ∧
      (c'.evaluate [.word "vermelho", .number 2, .number 1]).passed := by
  have measured : Measured "Alternation" [] "comprimento" 2 := .alternation (by decide +kernel)
  obtain ⟨c, c', first, second, continues⟩ := continued_concat measured (n := 2) le_rfl (by decide)
  have spins : History.read (.arr [.str " Vermelho ", .str "2.0"]) =
      .ok [.word "vermelho", .number 2] := by rfl
  obtain rfl : .alternation ⟨"cor", 2⟩ = c := Except.ok.inj first
  have contributed : 1 ∈ (evaluate (.alternation ⟨"cor", 2⟩)
      [.word "vermelho", .number 2]).numbers := by decide +kernel
  exact ⟨measured, c', second, continues _ _ spins 1 contributed⟩

end Measured
end Condition
end RouletteStrategy
