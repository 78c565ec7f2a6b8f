import RouletteStrategy.Proofs.Condition.Dominance
import RouletteStrategy.Proofs.Condition.Siblings
import RouletteStrategy.Proofs.Json.NotFinite

/-!
# Conditions with settings that are not finite

Where null stands for every number that is not finite, a condition gives the same verdicts, unless
such a number is in use in a place where null is read differently (`Condition.sameVerdict_finite`):
as the text of an event, as a truth value or a mark whose presence counts, or in front of another
name of the same setting.
-/

namespace RouletteStrategy

/-! ## Settings -/

namespace Json.Object

/-- The settings with null for every number that is not finite. -/
def finite (o : Object) : Object := o.map fun kv => (kv.1, kv.2.finite)

/-- How the value of a setting is used. -/
inductive Use where
  /-- As a number, a list or one of some names: a number that is not finite is no value. -/
  | value
  /-- As a truth value, or by being there. -/
  | mark
  /-- As the text of an event. -/
  | text
deriving DecidableEq

/-- Whether null for the numbers that are not finite may be read differently. -/
def AtRisk (o : Object) : Use → List String → Prop
  | .value, names => (o.setting names).IsStray ∧ (o.finite.setting names).isNull = false
  | .mark, names => (o.setting names).IsStray
  | .text, names => (o.setting names).isFinite = false

variable {o : Object} {names : List String} {use : Use}

theorem at_finite (o : Object) (name : String) : o.finite.at name = (o.at name).finite := by
  rw [Object.at, Object.at, finite, Members.get?_map]
  cases Members.get? o name <;> rfl

theorem setting_finite (kept : ¬ (o.setting names).IsStray) :
    o.finite.setting names = (o.setting names).finite := by
  induction names with
  | nil => rfl
  | cons name names ih =>
      rw [setting_cons] at kept ⊢
      rw [setting_cons, at_finite]
      by_cases missing : (o.at name).isNull
      · rw [if_pos missing] at kept ⊢
        rw [if_pos ((isNull_finite_iff _).mpr (.inl missing)), ih kept]
      · rw [if_neg missing] at kept ⊢
        rw [if_neg (mt (isNull_finite_iff _).mp (not_or.mpr ⟨missing, kept⟩))]

theorem setting_finite_of_safe (safe : ¬ o.AtRisk use names) :
    o.finite.setting names = (o.setting names).finite := by
  by_cases stray : (o.setting names).IsStray
  · cases use with
    | value =>
        have missing : (o.finite.setting names).isNull := by
          rw [AtRisk, not_and, Bool.not_eq_false] at safe
          exact safe stray
        rw [finite_of_isStray stray, eq_null_of_isNull missing]
    | mark => exact absurd stray safe
    | text =>
        refine absurd (Bool.eq_false_iff.mpr fun whole => ?_) safe
        exact not_isStray_of_isFinite whole stray
  · exact setting_finite stray

/-- A value under a single name has no other one behind it. -/
theorem not_atRisk_singleton (o : Object) (name : String) : ¬ o.AtRisk .value [name] := by
  rintro ⟨stray, given⟩
  have alone (p : Object) : p.setting [name] = p.at name := by
    rw [setting_cons]
    split
    next missing => exact (eq_null_of_isNull missing).symm
    next => rfl
  rw [alone, at_finite, ← alone, finite_of_isStray stray] at given
  cases given

end Json.Object

/-!
## Readings in parallel

Each reader goes on alike after a setting that is not at risk. Only a word may come out different.
-/

section Parallel

open Json.Object (Use)

variable {α β : Type} {R : α → β → Prop} {o : Json.Object} {names : List String} {use : Use}

theorem parallel_find {f : Json → Except Error α} {g : Json → Except Error β}
    (next : Parallel R (f (o.setting names)) (g (o.finite.setting names))) :
    Parallel R (Config.find (.obj o) names >>= f) (Config.find (.obj o.finite) names >>= g) := by
  rw [Config.find_obj, Config.find_obj]
  exact next

theorem parallel_count {f : Nat → Except Error α} {g : Nat → Except Error β}
    (safe : ¬ o.AtRisk .value names) (default low high : Nat) (next : ∀ n, Parallel R (f n) (g n)) :
    Parallel R (Config.count (.obj o) names default low high >>= f)
      (Config.count (.obj o.finite) names default low high >>= g) := by
  refine Parallel.bind_of_eq ?_ next
  rw [Config.count, Config.count, Config.find_obj, Config.find_obj,
    Json.Object.setting_finite_of_safe safe]
  show (o.setting names).clampInt _ _ _ >>= _ = (o.setting names).finite.clampInt _ _ _ >>= _
  rw [Json.clampInt, Json.clampInt, Json.finiteNumber?_finite]

theorem parallel_share {f : Binary64 → Except Error α} {g : Binary64 → Except Error β}
    (safe : ¬ o.AtRisk .value names) (default : Binary64) (next : ∀ x, Parallel R (f x) (g x)) :
    Parallel R (Config.share (.obj o) names default >>= f)
      (Config.share (.obj o.finite) names default >>= g) := by
  refine Parallel.bind_of_eq ?_ next
  rw [Config.share, Config.share, Config.find_obj, Config.find_obj,
    Json.Object.setting_finite_of_safe safe]
  show (o.setting names).clampFloat _ _ _ = (o.setting names).finite.clampFloat _ _ _
  rw [Json.clampFloat, Json.clampFloat, Json.finiteNumber?_finite]

theorem parallel_flag {f : Bool → Except Error α} {g : Bool → Except Error β}
    (safe : ¬ o.AtRisk .mark names) (default : Bool) (next : ∀ b, Parallel R (f b) (g b)) :
    Parallel R (Config.flag (.obj o) names default >>= f)
      (Config.flag (.obj o.finite) names default >>= g) := by
  rw [Config.flag_obj, Config.flag_obj, Json.Object.setting_finite_of_safe safe,
    Json.flag_finite safe]
  exact next _

theorem parallel_flag_true {f : Bool → Except Error α} {g : Bool → Except Error β}
    (safe : ¬ o.AtRisk .value names) (next : ∀ b, Parallel R (f b) (g b)) :
    Parallel R (Config.flag (.obj o) names true >>= f)
      (Config.flag (.obj o.finite) names true >>= g) := by
  rw [Config.flag_obj, Config.flag_obj, Json.Object.setting_finite_of_safe safe,
    Json.flag_finite_true]
  exact next _

theorem parallel_text {f : String → Except Error α} {g : String → Except Error β}
    (safe : ¬ o.AtRisk .text names) (default : String)
    (next : Parallel R (f ((o.setting names).wordOr default))
      (g ((o.setting names).wordOr default))) :
    Parallel R (Config.word (.obj o) names default >>= f)
      (Config.word (.obj o.finite) names default >>= g) := by
  rw [Config.word_obj, Config.word_obj, Json.Object.setting_finite_of_safe safe,
    Json.finite_of_isFinite (Bool.of_not_eq_false safe)]
  exact next

theorem parallel_word {f : String → Except Error α} {g : String → Except Error β}
    (default : String) (next : Parallel R (f ((o.setting names).wordOr default))
      (g ((o.finite.setting names).wordOr default))) :
    Parallel R (Config.word (.obj o) names default >>= f)
      (Config.word (.obj o.finite) names default >>= g) := by
  rw [Config.word_obj, Config.word_obj]
  exact next

theorem parallel_list {f : List Json → Except Error α} {g : List Json → Except Error β}
    (safe : ¬ o.AtRisk .value names)
    (next : Parallel R (f (o.setting names).items) (g ((o.setting names).items.map Json.finite))) :
    Parallel R (Config.list (.obj o) names >>= f) (Config.list (.obj o.finite) names >>= g) := by
  rw [Config.list_obj, Config.list_obj, Json.Object.setting_finite_of_safe safe, Json.items_finite]
  exact next

end Parallel

namespace Condition

open Json.Object (Use)

/-- The settings other than numbers that are read alike only if they are not at risk. -/
def Kind.otherSettings (o : Json.Object) : Kind → List (Use × List String)
  | .repetition | .trend | .break => [(.text, ["evento"])]
  | .absence =>
    if (o.setting ["alvo", "evento"]).wordOr Category.red.name = "numero" then
      [(.value, ["numeroAlvo", "numero"])]
    else if (o.setting ["numeroAlvo"]).isNull then [(.text, ["alvo", "evento"])]
    else [(.mark, ["numeroAlvo"]), (.value, ["numeroAlvo", "numero"])]
  | .neighbors | .repeatNumber => [(.value, ["numero", "numeroAlvo"])]
  | .mirror => [(.mark, ["includeZero"])]
  | .specificNumber => [(.value, ["numero", "numeroAlvo"]), (.mark, ["modo", "mode"])]
  | .dominantSector =>
    if DominantSector.isAuto o && DominantSector.isAuto o.finite then []
    else [(.mark, ["setor", "sector"]), (.mark, ["auto"]), (.mark, ["minRatio"])]
  | .sequence => [(.value, ["sequencia", "sequence"]), (.value, ["modo", "mode"])]
  | .recentInSet => [(.value, ["set", "numeros"])]
  | .adjacentInList => [(.mark, ["circular"]), (.value, ["list", "lista"])]
  | .terminalPattern => [(.value, ["padrao", "pattern"]), (.mark, ["includeNeighbors"])]
  | .alternation | .dozenHot | .columnHot | .timeWindow | .unknown => []

/-- No setting that a kind reads is at risk. -/
structure Kind.Safe (o : Json.Object) (kind : Kind) : Prop where
  numbers : ∀ names ∈ kind.numberSettings o, ¬ o.AtRisk .value names
  others : ∀ use ∈ kind.otherSettings o, ¬ o.AtRisk use.1 use.2

/-- Conditions that give the same verdict after any spins. -/
def SameVerdicts {α : Type} (evaluate : α → History → Outcome) (c c' : α) : Prop :=
  ∀ h, (evaluate c h).verdict = (evaluate c' h).verdict

theorem SameVerdicts.refl {α : Type} {evaluate : α → History → Outcome} (c : α) :
    SameVerdicts evaluate c c := fun _ => rfl

variable {o : Json.Object}

theorem axisCategory?_congr {axis axis' : String} (same : axis' = "paridade" ↔ axis = "paridade") :
    axisCategory? axis' = axisCategory? axis := by
  unfold axisCategory?
  simp only [same]

/-!
## Kinds

One lemma for each kind, along its reader. What is not read alike, such as a word that no text in use
is equal to, makes no difference to the verdict.
-/

theorem Repetition.sameVerdicts {axis axis' : String}
    (same : axisCategory? axis' = axisCategory? axis) (n : Nat) :
    SameVerdicts evaluate (.ofAxis axis n) (.ofAxis axis' n) := by
  intro h
  simp only [evaluate, same]
  cases (h.filterMap (axisCategory? axis)).getLast? with
  | none => rfl
  | some c => cases c with
    | zero => rfl
    | red | black | even | odd =>
        dsimp only
        split <;> rfl

theorem Repetition.parallel (safe : Kind.Safe o .repetition) :
    Parallel (SameVerdicts evaluate) (read (.obj o)) (read (.obj o.finite)) := by
  have event := safe.others _ List.mem_cons_self
  have numbers := safe.numbers
  rw [Kind.numberSettings] at numbers
  refine parallel_text event _ (parallel_word _ ?_)
  rw [Json.Object.setting_finite_of_safe (o.not_atRisk_singleton "eixo")]
  split
  next unnamed =>
    rw [if_pos unnamed] at numbers
    refine parallel_count (numbers _ List.mem_cons_self) _ _ _ fun n => .ok ?_
    apply sameVerdicts
    exact axisCategory?_congr (Json.wordOr_finite_iff (by decide) (by decide))
  next named =>
    rw [if_neg named] at numbers
    exact parallel_count (numbers _ List.mem_cons_self) _ _ _ fun n => .ok (.refl _)

theorem Alternation.sameVerdicts {axis axis' : String}
    (same : axisCategory? axis' = axisCategory? axis) (n : Nat) :
    SameVerdicts evaluate ⟨axis, n⟩ ⟨axis', n⟩ := by
  intro h
  simp only [evaluate, same]
  split
  · split <;> rfl
  · rfl

theorem Alternation.parallel (safe : Kind.Safe o .alternation) :
    Parallel (SameVerdicts evaluate) (read (.obj o)) (read (.obj o.finite)) := by
  have length := safe.numbers _ List.mem_cons_self
  refine parallel_word _ ?_
  rw [Json.Object.setting_finite_of_safe (o.not_atRisk_singleton "eixo")]
  refine parallel_count length _ _ _ fun n => .ok (sameVerdicts ?_ n)
  exact axisCategory?_congr (Json.wordOr_finite_iff (by decide) (by decide))

theorem Trend.parallel (safe : Kind.Safe o .trend) :
    Parallel (SameVerdicts evaluate) (read (.obj o)) (read (.obj o.finite)) := by
  have event := safe.others _ List.mem_cons_self
  have window := safe.numbers _ List.mem_cons_self
  refine parallel_text event _ (parallel_count window _ _ _ fun n => ?_)
  exact parallel_share (o.not_atRisk_singleton _) _ fun x => .ok (.refl _)

theorem Break.parallel (safe : Kind.Safe o .break) :
    Parallel (SameVerdicts evaluate) (read (.obj o)) (read (.obj o.finite)) := by
  have event := safe.others _ List.mem_cons_self
  have least := safe.numbers _ List.mem_cons_self
  exact parallel_text event _ (parallel_count least _ _ _ fun n => .ok (.refl _))

theorem Neighbors.parallel (safe : Kind.Safe o .neighbors) :
    Parallel (SameVerdicts evaluate) (read (.obj o)) (read (.obj o.finite)) := by
  have number := safe.others _ List.mem_cons_self
  have radius := safe.numbers _ List.mem_cons_self
  refine parallel_find (parallel_count radius _ _ _ fun n => ?_)
  refine parallel_flag_true (o.not_atRisk_singleton _) fun b => .ok ?_
  rw [Json.Object.setting_finite_of_safe number, Json.readNumber?_finite]
  exact .refl _

theorem Mirror.parallel (safe : Kind.Safe o .mirror) :
    Parallel (SameVerdicts evaluate) (read (.obj o)) (read (.obj o.finite)) := by
  have includeZero := safe.others _ List.mem_cons_self
  have radius := safe.numbers _ List.mem_cons_self
  exact parallel_count radius _ _ _ fun n => parallel_flag includeZero _ fun b => .ok (.refl _)

theorem RepeatNumber.parallel (safe : Kind.Safe o .repeatNumber) :
    Parallel (SameVerdicts evaluate) (read (.obj o)) (read (.obj o.finite)) := by
  have number := safe.others _ List.mem_cons_self
  refine parallel_find (parallel_count (o.not_atRisk_singleton _) _ _ _ fun n => .ok ?_)
  rw [Json.Object.setting_finite_of_safe number, Json.readNumber?_finite]
  exact .refl _

theorem Hot.parallel (grouping : Grouping) (window : ¬ o.AtRisk .value ["janela", "window"]) :
    Parallel (SameVerdicts evaluate) (read grouping (.obj o)) (read grouping (.obj o.finite)) := by
  refine parallel_count window _ _ _ fun n => ?_
  exact parallel_count (o.not_atRisk_singleton _) _ _ _ fun m => .ok (.refl _)

theorem TimeWindow.parallel (o : Json.Object) :
    Parallel (SameVerdicts evaluate) (read (.obj o)) (read (.obj o.finite)) := by
  refine parallel_count (o.not_atRisk_singleton _) _ _ _ fun n => ?_
  exact parallel_count (o.not_atRisk_singleton _) _ _ _ fun m => .ok (.refl _)

theorem RecentInSet.parallel (safe : Kind.Safe o .recentInSet) :
    Parallel (SameVerdicts evaluate) (read (.obj o)) (read (.obj o.finite)) := by
  have set := safe.others _ List.mem_cons_self
  have window := safe.numbers _ List.mem_cons_self
  refine parallel_count window _ _ _ fun n => parallel_list set ?_
  refine parallel_list (o.not_atRisk_singleton _) (.ok ?_)
  rw [Json.readNumbers_finite, Json.readNumbers_finite]
  exact .refl _

theorem AdjacentInList.parallel (safe : Kind.Safe o .adjacentInList) :
    Parallel (SameVerdicts evaluate) (read (.obj o)) (read (.obj o.finite)) := by
  have circular := safe.others _ List.mem_cons_self
  have list := safe.others _ (List.mem_cons_of_mem _ List.mem_cons_self)
  have window := safe.numbers _ List.mem_cons_self
  refine parallel_count window _ _ _ fun n => parallel_flag circular _ fun b => ?_
  refine parallel_list (o.not_atRisk_singleton _) (parallel_list list (.ok ?_))
  rw [Json.readNumbers_finite, Json.filterMap_finite Json.readNumber?_finite]
  exact .refl _

theorem Sequence.sameVerdicts {mode mode' : String} (same : mode' = "parcial" ↔ mode = "parcial")
    (elements : List Token) (n : Nat) :
    SameVerdicts evaluate ⟨elements, mode, n⟩ ⟨elements, mode', n⟩ := by
  intro h
  cases elements with
  | nil => rfl
  | cons next rest =>
      have ends : matchEnd? ⟨next :: rest, mode', n⟩ h = matchEnd? ⟨next :: rest, mode, n⟩ h := by
        simp only [matchEnd?, same]
        rfl
      simp only [evaluate, ends]
      split <;> rfl

theorem Sequence.parallel (safe : Kind.Safe o .sequence) :
    Parallel (SameVerdicts evaluate) (read (.obj o)) (read (.obj o.finite)) := by
  have elements := safe.others _ List.mem_cons_self
  have mode := safe.others _ (List.mem_cons_of_mem _ List.mem_cons_self)
  refine parallel_list elements ?_
  dsimp only
  rw [Json.filterMap_finite Json.readToken?_finite]
  refine parallel_word _ (parallel_count (o.not_atRisk_singleton _) _ _ _ fun n => .ok ?_)
  rw [Json.Object.setting_finite_of_safe mode]
  exact sameVerdicts (Json.wordOr_finite_iff (by decide) (by decide)) _ n

theorem SpecificNumber.sameVerdicts {mode mode' : String}
    (occurred : mode' = "ocorreu" ↔ mode = "ocorreu")
    (absent : mode' = "ausente" ↔ mode = "ausente") (number : Option Int) (n : Nat) :
    SameVerdicts evaluate ⟨number, mode, n⟩ ⟨number, mode', n⟩ := by
  intro h
  cases number with
  | none => rfl
  | some k =>
      simp only [evaluate, occurred, absent]
      repeat' split
      all_goals rfl

theorem SpecificNumber.parallel (safe : Kind.Safe o .specificNumber) :
    Parallel (SameVerdicts evaluate) (read (.obj o)) (read (.obj o.finite)) := by
  have number := safe.others _ List.mem_cons_self
  have mode := safe.others _ (List.mem_cons_of_mem _ List.mem_cons_self)
  have spins := safe.numbers _ List.mem_cons_self
  refine parallel_find (parallel_word _ (parallel_count spins _ _ _ fun n => .ok ?_))
  rw [Json.Object.setting_finite_of_safe number, Json.Object.setting_finite_of_safe mode,
    Json.readNumber?_finite]
  exact sameVerdicts (Json.wordOr_finite_iff_of_kept mode (by decide))
    (Json.wordOr_finite_iff_of_kept mode (by decide)) _ n

theorem TerminalPattern.parallel (safe : Kind.Safe o .terminalPattern) :
    Parallel (SameVerdicts evaluate) (read (.obj o)) (read (.obj o.finite)) := by
  have name := safe.others _ List.mem_cons_self
  have neighbors := safe.others _ (List.mem_cons_of_mem _ List.mem_cons_self)
  have window := safe.numbers _ List.mem_cons_self
  refine parallel_count window _ _ _ fun n => parallel_word _ ?_
  rw [Json.Object.setting_finite_of_safe name]
  refine parallel_count (o.not_atRisk_singleton _) _ _ _ fun m => ?_
  refine parallel_flag neighbors _ fun b => ?_
  refine parallel_count (o.not_atRisk_singleton _) _ _ _ fun k => ?_
  refine parallel_flag_true (o.not_atRisk_singleton _) fun c => .ok ?_
  have pattern (p : Pattern) : (p.name == (o.setting ["padrao", "pattern"]).finite.wordOr "any") =
      (p.name == (o.setting ["padrao", "pattern"]).wordOr "any") := by
    have plain : ¬ StrangeWord p.name ∧ "any" ≠ p.name := by
      cases p <;> decide
    rw [Bool.eq_iff_iff, beq_iff_eq, beq_iff_eq, eq_comm, Json.wordOr_finite_iff plain.1 plain.2,
      eq_comm]
  rw [funext pattern]
  exact .refl _

theorem Absence.sameVerdicts (target target' : String) (n : Nat) (number : Option Int) :
    SameVerdicts evaluate ⟨target, n, .number number⟩ ⟨target', n, .number number⟩ := by
  intro h
  cases number with
  | none =>
      simp only [evaluate]
      split <;> rfl
  | some k => rw [verdict_number, verdict_number]

theorem Absence.parallel (safe : Kind.Safe o .absence) :
    Parallel (SameVerdicts evaluate) (read (.obj o)) (read (.obj o.finite)) := by
  have spins := safe.numbers _ List.mem_cons_self
  have others := safe.others
  rw [Kind.otherSettings] at others
  refine parallel_word _ (parallel_count spins _ _ _ fun n => ?_)
  refine parallel_find (parallel_find (.ok ?_))
  rw [Json.Object.setting_finite_of_safe (o.not_atRisk_singleton "numeroAlvo")]
  split at others
  next named =>
    have number := others _ List.mem_cons_self
    have kept : ¬ (o.setting ["alvo", "evento"]).IsStray := by
      intro stray
      have strange := Json.strangeWord_of_isStray stray Category.red.name
      rw [named] at strange
      exact absurd strange (by decide)
    have named' : (o.finite.setting ["alvo", "evento"]).wordOr Category.red.name = "numero" := by
      rw [Json.Object.setting_finite kept, Json.wordOr_finite_iff_of_kept kept (by decide), named]
    rw [named, named', Json.Object.setting_finite_of_safe number, Json.readNumber?_finite]
    exact sameVerdicts _ _ n _
  next unnamed =>
    split at others
    next missing =>
      have target := others _ List.mem_cons_self
      have missing' : (o.setting ["numeroAlvo"]).finite.isNull :=
        (Json.isNull_finite_iff _).mpr (.inl missing)
      rw [Json.Object.setting_finite_of_safe target,
        Json.finite_of_isFinite (Bool.of_not_eq_false target), beq_false_of_ne unnamed, missing,
        missing']
      exact .refl _
    next given =>
      have mark := others _ List.mem_cons_self
      have number := others _ (List.mem_cons_of_mem _ List.mem_cons_self)
      rw [Json.isNull_finite mark, Bool.eq_false_iff.mpr given, Bool.not_false, Bool.or_true,
        Bool.or_true, Json.Object.setting_finite_of_safe number, Json.readNumber?_finite]
      exact sameVerdicts _ _ n _

theorem isPrefixOf_of_strangeWord {w : String} (bracket : w.toList.head? ∈ [some '[', some '\x7b'])
    {c : Char} (plain : some c ∉ [some '[', some '\x7b']) (cs : List Char) :
    (c :: cs).isPrefixOf w.toList = false := by
  cases letters : w.toList with
  | nil => rfl
  | cons d ds =>
      have other : c ≠ d := by
        rintro rfl
        rw [letters] at bracket
        exact plain bracket
      rw [List.isPrefixOf, beq_false_of_ne other, Bool.false_and]

theorem sectorOfName_of_strangeWord {w : String} (strange : StrangeWord w) :
    DominantSector.sectorOfName w = .voisins := by
  rcases strange with listed | bracket
  · simp only [List.mem_cons, List.not_mem_nil, or_false] at listed
    rcases listed with rfl | rfl | rfl <;> rfl
  · have tiers : "tiers".toList.isPrefixOf w.toList = false :=
      isPrefixOf_of_strangeWord bracket (by decide) _
    have orphelins : "orphel".toList.isPrefixOf w.toList = false :=
      isPrefixOf_of_strangeWord bracket (by decide) _
    rw [DominantSector.sectorOfName, tiers, orphelins]
    rfl

theorem sectorOfName_finite {v : Json} (kept : ¬ v.IsStray) (default : String) :
    DominantSector.sectorOfName (v.finite.wordOr default) =
      DominantSector.sectorOfName (v.wordOr default) := by
  rcases Json.wordOr_finite kept default with same | ⟨strange, strange'⟩
  · rw [same]
  · rw [sectorOfName_of_strangeWord strange, sectorOfName_of_strangeWord strange']

theorem DominantSector.isAuto_finite (name : ¬ o.AtRisk .mark ["setor", "sector"])
    (auto : ¬ o.AtRisk .mark ["auto"]) (share : ¬ o.AtRisk .mark ["minRatio"]) :
    isAuto o.finite = isAuto o := by
  have plain {p : String} (plain : ¬ StrangeWord p) :
      ((o.setting ["setor", "sector"]).finite.wordOr "" == p) =
        ((o.setting ["setor", "sector"]).wordOr "" == p) := by
    rw [Bool.eq_iff_iff, beq_iff_eq, beq_iff_eq, Json.wordOr_finite_iff_of_kept name plain]
  rw [isAuto, isAuto, Json.Object.setting_finite name, Json.Object.setting_finite auto,
    Json.Object.setting_finite share, Json.flag_finite auto, Json.isNull_finite share,
    plain (by decide), plain (by decide)]

theorem DominantSector.parallel (safe : Kind.Safe o .dominantSector) :
    Parallel (SameVerdicts evaluate) (read (.obj o)) (read (.obj o.finite)) := by
  have window := safe.numbers _ List.mem_cons_self
  have others := safe.others
  rw [Kind.otherSettings] at others
  rw [read_obj, read_obj]
  split at others
  next both =>
    obtain ⟨auto, auto'⟩ := Bool.and_eq_true_iff.mp both
    rw [if_pos auto, if_pos auto']
    refine parallel_count window _ _ _ fun n => ?_
    exact parallel_share (o.not_atRisk_singleton _) _ fun x => .ok (.refl _)
  next notBoth =>
    simp only [List.forall_mem_cons] at others
    obtain ⟨name, auto, share, -⟩ := others
    have same := isAuto_finite name auto share
    rw [same, Bool.and_self] at notBoth
    rw [same, if_neg notBoth, if_neg notBoth]
    refine parallel_count window _ _ _ fun n => ?_
    refine parallel_count (o.not_atRisk_singleton _) _ _ _ fun m => .ok ?_
    rw [Json.Object.setting_finite name, sectorOfName_finite name]
    exact .refl _

/-- Where no setting that it reads is at risk, a condition gives the same verdicts with null for the
numbers that are not finite, or both configurations are refused for the same reason. -/
theorem sameVerdict_finite {subtype : String} {o : Json.Object}
    (safe : Kind.Safe o (Kind.ofSubtype subtype)) :
    Parallel (fun c c' => ∀ h, Outcome.SameVerdict (evaluate c h) (evaluate c' h))
      (read subtype (.obj o)) (read subtype (Json.obj o).finite) := by
  have verdicts : Parallel (SameVerdicts evaluate) (read subtype (.obj o))
      (read subtype (.obj o.finite)) := by
    unfold read
    cases kind : Kind.ofSubtype subtype with
    | repetition => exact (Repetition.parallel (kind ▸ safe)).map id
    | absence => exact (Absence.parallel (kind ▸ safe)).map id
    | trend => exact (Trend.parallel (kind ▸ safe)).map id
    | neighbors => exact (Neighbors.parallel (kind ▸ safe)).map id
    | mirror => exact (Mirror.parallel (kind ▸ safe)).map id
    | specificNumber => exact (SpecificNumber.parallel (kind ▸ safe)).map id
    | repeatNumber => exact (RepeatNumber.parallel (kind ▸ safe)).map id
    | alternation => exact (Alternation.parallel (kind ▸ safe)).map id
    | dominantSector => exact (DominantSector.parallel (kind ▸ safe)).map id
    | dozenHot =>
        have safe : Kind.Safe o .dozenHot := kind ▸ safe
        exact (Hot.parallel .dozens (safe.numbers _ List.mem_cons_self)).map id
    | columnHot =>
        have safe : Kind.Safe o .columnHot := kind ▸ safe
        exact (Hot.parallel .columns (safe.numbers _ List.mem_cons_self)).map id
    | sequence => exact (Sequence.parallel (kind ▸ safe)).map id
    | recentInSet => exact (RecentInSet.parallel (kind ▸ safe)).map id
    | adjacentInList => exact (AdjacentInList.parallel (kind ▸ safe)).map id
    | terminalPattern => exact (TerminalPattern.parallel (kind ▸ safe)).map id
    | «break» => exact (Break.parallel (kind ▸ safe)).map id
    | timeWindow => exact (TimeWindow.parallel o).map id
    | unknown => exact .ok (.refl _)
  rw [Json.finite_obj]
  exact verdicts.imp fun same h => sameVerdict_of_verdict_eq (same h)

/-- A trend with a window and a share that are not finite, which give way to the defaults. -/
def blackTrend : Json.Object :=
  [("evento", .str "preto"), ("janela", .float .nan),
   ("frequenciaMinima", .float (.infinite false))]

theorem sameVerdict_finite_blackTrend :
    Parallel (fun c c' => ∀ h, Outcome.SameVerdict (evaluate c h) (evaluate c' h))
      (read "trend" (.obj blackTrend)) (read "trend" (Json.obj blackTrend).finite) ∧
    (read "trend" (.obj blackTrend)).map
      (fun c => (c.evaluate [.number 2, .number 4]).passed) = .ok true := by
  have kind : Kind.ofSubtype "trend" = .trend := by decide +kernel
  have safe : Kind.Safe blackTrend .trend := by
    refine ⟨List.forall_mem_cons.mpr ⟨?_, List.forall_mem_singleton.mpr ?_⟩,
      List.forall_mem_singleton.mpr ?_⟩
    · rintro ⟨-, given⟩
      exact absurd given (by decide)
    · exact blackTrend.not_atRisk_singleton _
    · show (blackTrend.setting ["evento"]).isFinite ≠ false
      decide
  exact ⟨sameVerdict_finite (kind ▸ safe), by rfl⟩

/-- The event of a trend is not: the word of a number that is not finite never occurs. -/
example : (read "trend" (.obj [("evento", .float .nan)])).map
      (fun c => (c.evaluate [.number 1]).passed) = .ok false ∧
    (read "trend" (Json.obj [("evento", .float .nan)]).finite).map
      (fun c => (c.evaluate [.number 1]).passed) = .ok true :=
  ⟨by rfl, by rfl⟩

end Condition
end RouletteStrategy
