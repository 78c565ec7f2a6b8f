import RouletteStrategy.Proofs.Condition.Reading
import RouletteStrategy.Proofs.Condition.Runs
import RouletteStrategy.Proofs.Text.Folding

/-!
# Conditions that say the same

A run of an event can be asked for as a repetition, as a break or, for a number, as its repetition,
and an absent number in two ways. With settings that say the same these give the same verdict after
any spins (`Condition.siblings_agree`). A repetition on an axis is that of the category of the
latest spin, where every spin has one.
-/

namespace RouletteStrategy

theorem Token.readNumber?_int {n : Int} (onWheel : Wheel.OnWheel n) :
    readNumber? (.int n) = some n := by
  rw [readNumber?, read?, ofInt?, if_pos onWheel]
  rfl

namespace Condition

/-- The settings of a node of a kind have certain values, whatever the others are. A value that is
null says that a setting is missing. -/
structure Given (kind : Kind) (settings : Members Json) (subtype : String) (o : Json.Object) :
    Prop where
  kind : Kind.ofSubtype subtype = kind
  values : ∀ kv ∈ settings, o.at kv.1 = kv.2

namespace Given

variable {subtype event : String} {o : Json.Object} {k : Int} {n : Nat}

theorem read_break (given : Given .break [("evento", .str event), ("minimo", .ofNat n)] subtype o)
    (named : Text.strip event ≠ "") (isCount : IsCount n) :
    read subtype (.obj o) = .ok (.break ⟨Text.fold event, n⟩) := by
  obtain ⟨kind, values⟩ := given
  simp only [List.forall_mem_cons] at values
  obtain ⟨word, least, -⟩ := values
  rw [read, kind]
  refine map_eq_ok.mpr ⟨_, ?_, rfl⟩
  refine bind_eq_ok.mpr ⟨_, Config.word_of_at word named _, ?_⟩
  exact bind_eq_ok.mpr ⟨_, isCount.count_eq least _, rfl⟩

theorem read_ofEvent
    (given : Given .repetition [("evento", .str event), ("ocorrencias", .ofNat n)] subtype o)
    (named : Text.strip event ≠ "") (isCount : IsCount n) :
    read subtype (.obj o) = .ok (.repetition (.ofEvent (Text.fold event) n)) := by
  obtain ⟨kind, values⟩ := given
  simp only [List.forall_mem_cons] at values
  obtain ⟨word, times, -⟩ := values
  have folded : (o.setting ["evento"]).wordOr "" = Text.fold event := by
    rw [Json.Object.setting_cons_of_at word rfl]
    exact if_neg named
  rw [read, kind]
  refine map_eq_ok.mpr ⟨_, ?_, rfl⟩
  exact Repetition.read_ofEvent folded (Text.fold_ne_empty named) (isCount.count_eq times _)

theorem read_ofAxis {axis : Json}
    (given : Given .repetition [("evento", .null), ("eixo", axis), ("minRun", .ofNat n)] subtype o)
    (isCount : IsCount n) :
    read subtype (.obj o) = .ok (.repetition (.ofAxis (axis.wordOr "cor") n)) := by
  obtain ⟨kind, values⟩ := given
  simp only [List.forall_mem_cons] at values
  obtain ⟨word, named, least, -⟩ := values
  have unnamed : (o.setting ["evento"]).wordOr "" = "" := by
    rw [Json.Object.setting_cons_of_null word]
    rfl
  have setting : o.setting ["eixo"] = axis := by
    rw [Json.Object.setting_cons, named]
    cases axis <;> rfl
  rw [read, kind, ← setting]
  exact map_eq_ok.mpr ⟨_, Repetition.read_ofAxis unnamed (isCount.count_eq least _), rfl⟩

theorem read_repeatNumber
    (given : Given .repeatNumber [("numero", .int k), ("ocorrencias", .ofNat n)] subtype o)
    (onWheel : Wheel.OnWheel k) (isCount : IsCount n) :
    read subtype (.obj o) = .ok (.repeatNumber ⟨some k, n⟩) := by
  obtain ⟨kind, values⟩ := given
  simp only [List.forall_mem_cons] at values
  obtain ⟨number, times, -⟩ := values
  rw [read, kind, ← Token.readNumber?_int onWheel]
  refine map_eq_ok.mpr ⟨_, ?_, rfl⟩
  refine bind_eq_ok.mpr ⟨_, Config.find_of_at number rfl, ?_⟩
  exact bind_eq_ok.mpr ⟨_, isCount.count_eq times _, rfl⟩

theorem read_absence
    (given : Given .absence [("numeroAlvo", .int k), ("spins", .ofNat n)] subtype o)
    (onWheel : Wheel.OnWheel k) (isCount : IsCount n) :
    ∃ target, read subtype (.obj o) = .ok (.absence ⟨target, n, .number (some k)⟩) := by
  obtain ⟨kind, values⟩ := given
  simp only [List.forall_mem_cons] at values
  obtain ⟨number, spins, -⟩ := values
  refine ⟨(o.setting ["alvo", "evento"]).wordOr Category.red.name, ?_⟩
  rw [read, kind, ← Token.readNumber?_int onWheel]
  refine map_eq_ok.mpr ⟨_, ?_, rfl⟩
  refine bind_eq_ok.mpr ⟨_, Config.word_obj .., ?_⟩
  refine bind_eq_ok.mpr ⟨_, isCount.count_eq spins _, ?_⟩
  refine bind_eq_ok.mpr ⟨_, Config.find_of_at number rfl, ?_⟩
  refine bind_eq_ok.mpr ⟨_, Config.find_of_at number rfl, ?_⟩
  exact congrArg Except.ok (congrArg _ (if_pos (Bool.or_true _)))

theorem read_specificNumber (given : Given .specificNumber
      [("numero", .int k), ("modo", .str "ausente"), ("rodadasSemOcorrer", .ofNat n)] subtype o)
    (onWheel : Wheel.OnWheel k) (isCount : IsCount n) :
    read subtype (.obj o) = .ok (.specificNumber ⟨some k, "ausente", n⟩) := by
  obtain ⟨kind, values⟩ := given
  simp only [List.forall_mem_cons] at values
  obtain ⟨number, mode, spins, -⟩ := values
  have folded : Text.fold "ausente" = "ausente" := by decide +kernel
  rw [read, kind, ← Token.readNumber?_int onWheel]
  refine map_eq_ok.mpr ⟨_, ?_, rfl⟩
  refine bind_eq_ok.mpr ⟨_, Config.find_of_at number rfl, ?_⟩
  refine bind_eq_ok.mpr ⟨_, Config.word_of_at mode (by decide +kernel) _, ?_⟩
  refine bind_eq_ok.mpr ⟨_, isCount.count_eq spins _, ?_⟩
  rw [folded]
  rfl

end Given

/-- Conditions of two kinds with certain settings are always read, and their outcomes stand in a
relation after any spins. -/
def Corresponds (kind : Kind) (settings : Members Json) (kind' : Kind) (settings' : Members Json)
    (R : History → Outcome → Outcome → Prop) : Prop :=
  ∀ subtype o subtype' o', Given kind settings subtype o → Given kind' settings' subtype' o' →
    ∃ c c', read subtype (.obj o) = .ok c ∧ read subtype' (.obj o') = .ok c' ∧
      ∀ h, R h (c.evaluate h) (c'.evaluate h)

/-- Both are a match or neither is, with the same numbers. -/
def Outcome.SameVerdict (o o' : Outcome) : Prop := o.passed = o'.passed ∧ o.numbers = o'.numbers

theorem sameVerdict_of_verdict_eq {c c' : Condition} {h h' : History}
    (eq : (c.evaluate h).verdict = (c'.evaluate h').verdict) :
    (c.evaluate h).SameVerdict (c'.evaluate h') := by
  constructor
  · rw [Outcome.passed_eq_isSome_verdict, eq, ← Outcome.passed_eq_isSome_verdict]
  · rw [(formed_evaluate c h).numbers_eq, eq, ← (formed_evaluate c' h').numbers_eq]

/-- The conditions that say the same for an event, a number and a count of spins. -/
structure Siblings (event : String) (k : Int) (n : Nat) : Prop where
  ofBreak : Corresponds .break [("evento", .str event), ("minimo", .ofNat n)]
    .repetition [("evento", .str event), ("ocorrencias", .ofNat n)]
    fun _ o o' => o.passed = o'.passed
  ofRepeatNumber : Corresponds .repeatNumber [("numero", .int k), ("ocorrencias", .ofNat n)]
    .repetition [("evento", .str (Event.nameOfNumber k)), ("ocorrencias", .ofNat n)]
    fun _ => Outcome.SameVerdict
  ofAbsence : Corresponds .absence [("numeroAlvo", .int k), ("spins", .ofNat n)]
    .specificNumber
    [("numero", .int k), ("modo", .str "ausente"), ("rodadasSemOcorrer", .ofNat n)]
    fun _ => Outcome.SameVerdict
  /-- On spins that all have a category of the axis, the latest one other than zero. -/
  ofAxis : ∀ (axis : Json) (c : Category), c ≠ .zero →
    Corresponds .repetition [("evento", .null), ("eixo", axis), ("minRun", .ofNat n)]
      .repetition [("evento", .str c.name), ("ocorrencias", .ofNat n)]
      fun h o o' => h.Normal →
        (∀ t ∈ h, (axisCategory? (axis.wordOr "cor") t).isSome) →
        h.getLast?.bind (axisCategory? (axis.wordOr "cor")) = some c → o.SameVerdict o'
  ofZero : ∀ axis subtype o,
    Given .repetition [("evento", .null), ("eixo", axis), ("minRun", .ofNat n)] subtype o →
      ∃ c, read subtype (.obj o) = .ok c ∧ ∀ h : History,
        h = [] ∨ h.getLast?.bind (axisCategory? (axis.wordOr "cor")) = some .zero →
          (c.evaluate h).passed = false

section Siblings

variable {event : String} {k : Int} {n : Nat}

theorem break_repetition (named : Text.strip event ≠ "") (isCount : IsCount n) :
    Corresponds .break [("evento", .str event), ("minimo", .ofNat n)]
      .repetition [("evento", .str event), ("ocorrencias", .ofNat n)]
      fun _ o o' => o.passed = o'.passed := by
  intro subtype o subtype' o' given given'
  refine ⟨_, _, given.read_break named isCount, given'.read_ofEvent named isCount, fun h => ?_⟩
  show (Break.evaluate _ h).passed = (Repetition.evaluate _ h).passed
  rw [Outcome.passed_eq_isSome_verdict, Break.verdict_evaluate,
    Outcome.passed_eq_isSome_verdict, Repetition.verdict_ofEvent]
  simp only [apply_ite Option.isSome, Option.isSome_some, Option.isSome_none]

/-- The name of the event of a number is read as it is written, and stands for the number alone. -/
theorem fold_nameOfNumber (onWheel : Wheel.OnWheel k) :
    Text.strip (Event.nameOfNumber k) ≠ "" ∧
      Text.fold (Event.nameOfNumber k) = Event.nameOfNumber k ∧
      (Event.ofName (Event.nameOfNumber k)).numbers = [k] := by
  have all : ∀ k ∈ Wheel.pockets, Text.strip (Event.nameOfNumber k) ≠ "" ∧
      Text.fold (Event.nameOfNumber k) = Event.nameOfNumber k ∧
      (Event.ofName (Event.nameOfNumber k)).numbers = [k] := by decide +kernel
  exact all k (Wheel.mem_pockets.mpr onWheel)

theorem repeatNumber_repetition (onWheel : Wheel.OnWheel k) (isCount : IsCount n) :
    Corresponds .repeatNumber [("numero", .int k), ("ocorrencias", .ofNat n)]
      .repetition [("evento", .str (Event.nameOfNumber k)), ("ocorrencias", .ofNat n)]
      fun _ => Outcome.SameVerdict := by
  intro subtype o subtype' o' given given'
  obtain ⟨named, folded, numbers⟩ := fold_nameOfNumber onWheel
  have read' := given'.read_ofEvent named isCount
  rw [folded] at read'
  refine ⟨_, _, given.read_repeatNumber onWheel isCount, read', fun h => ?_⟩
  apply sameVerdict_of_verdict_eq
  rw [evaluate, evaluate, RepeatNumber.verdict_evaluate, Repetition.verdict_ofEvent, numbers]

theorem absence_specificNumber (onWheel : Wheel.OnWheel k) (isCount : IsCount n) :
    Corresponds .absence [("numeroAlvo", .int k), ("spins", .ofNat n)]
      .specificNumber
      [("numero", .int k), ("modo", .str "ausente"), ("rodadasSemOcorrer", .ofNat n)]
      fun _ => Outcome.SameVerdict := by
  intro subtype o subtype' o' given given'
  obtain ⟨target, read⟩ := given.read_absence onWheel isCount
  refine ⟨_, _, read, given'.read_specificNumber onWheel isCount, fun h => ?_⟩
  apply sameVerdict_of_verdict_eq
  rw [evaluate, evaluate, Absence.verdict_number, SpecificNumber.verdict_absent]

/-- The name of a category is read as it is written, and its event is the category. -/
theorem fold_name (c : Category) : Text.strip c.name ≠ "" ∧ Text.fold c.name = c.name ∧
    Event.ofName c.name = .category c := by
  cases c <;> decide +kernel

theorem axis_event (axis : Json) {c : Category} (nonzero : c ≠ .zero) (isCount : IsCount n) :
    Corresponds .repetition [("evento", .null), ("eixo", axis), ("minRun", .ofNat n)]
      .repetition [("evento", .str c.name), ("ocorrencias", .ofNat n)]
      fun h o o' => h.Normal →
        (∀ t ∈ h, (axisCategory? (axis.wordOr "cor") t).isSome) →
        h.getLast?.bind (axisCategory? (axis.wordOr "cor")) = some c → o.SameVerdict o' := by
  intro subtype o subtype' o' given given'
  obtain ⟨named, folded, category⟩ := fold_name c
  have read' := given'.read_ofEvent named isCount
  rw [folded] at read'
  refine ⟨_, _, given.read_ofAxis isCount, read', fun h normal categorised last => ?_⟩
  have onAxis : c ∈ axisCategories (axis.wordOr "cor") := by
    obtain ⟨t, -, category⟩ := Option.bind_eq_some_iff.mp last
    exact mem_axisCategories category
  have run : runLength (· == c) (h.filterMap (axisCategory? (axis.wordOr "cor"))) =
      runLength (Event.category c).isMatch h := by
    refine runLength_filterMap fun t ht => ?_
    obtain ⟨d, image⟩ := Option.isSome_iff_exists.mp (categorised t ht)
    exact ⟨d, image, isMatch_category (normal t ht) image onAxis nonzero⟩
  apply sameVerdict_of_verdict_eq
  rw [evaluate, evaluate, Repetition.verdict_ofAxis n nonzero (getLast?_filterMap last),
    Repetition.verdict_ofEvent, category, run, Event.numbers]

theorem axis_zero (axis : Json) {subtype : String} {o : Json.Object}
    (given : Given .repetition [("evento", .null), ("eixo", axis), ("minRun", .ofNat n)] subtype o)
    (isCount : IsCount n) :
    ∃ c, read subtype (.obj o) = .ok c ∧ ∀ h : History,
      h = [] ∨ h.getLast?.bind (axisCategory? (axis.wordOr "cor")) = some .zero →
        (c.evaluate h).passed = false := by
  refine ⟨_, given.read_ofAxis isCount, fun h last => ?_⟩
  rw [evaluate, Outcome.passed_eq_isSome_verdict, Repetition.verdict_ofAxis_eq_none,
    Option.isSome_none]
  intro c latest
  rcases last with rfl | last
  · cases latest
  · rw [getLast?_filterMap last] at latest
    exact (Option.some.inj latest).symm

/-- Conditions with settings that say the same give the same verdict after any spins. -/
theorem siblings_agree (named : Text.strip event ≠ "") (onWheel : Wheel.OnWheel k)
    (isCount : IsCount n) : Siblings event k n where
  ofBreak := break_repetition named isCount
  ofRepeatNumber := repeatNumber_repetition onWheel isCount
  ofAbsence := absence_specificNumber onWheel isCount
  ofAxis axis _ nonzero := axis_event axis nonzero isCount
  ofZero axis _ _ given := axis_zero axis given isCount

/-- An accented word with blanks around it, the zero, and as many spins as can be asked for. -/
theorem siblings_agree_odds : Text.strip " ÍMPAR " ≠ "" ∧ Wheel.OnWheel 0 ∧
    IsCount Config.maxCount ∧ Siblings " ÍMPAR " 0 Config.maxCount :=
  have named : Text.strip " ÍMPAR " ≠ "" := by decide +kernel
  have onWheel : Wheel.OnWheel 0 := by decide
  have isCount : IsCount Config.maxCount := ⟨by decide, le_rfl⟩
  ⟨named, onWheel, isCount, siblings_agree named onWheel isCount⟩

end Siblings
end Condition
end RouletteStrategy
