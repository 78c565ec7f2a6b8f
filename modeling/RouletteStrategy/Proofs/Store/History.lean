import RouletteStrategy.Proofs.Store.Ledger

/-!
# Stores as functions of the past

What a store replies depends on the steps before only through the strategy that was last saved under
each slug. Both kinds of stores give the same replies to the same run, and none of them is an
error.
-/

namespace RouletteStrategy

namespace Store

variable {past : List Step} {x : Step} {slug : String} {s : Strategy}

/-- Whether a step decides what is under a slug. -/
def Step.touches (slug : String) : Step → Bool
  | .save s => s.slug == slug
  | .remove other => other == slug
  | .fetch _ | .list | .overwrite _ _ _ => false

def Step.saved? : Step → Option Strategy
  | .save s => some s
  | _ => none

/-- The strategy that was last saved under a slug and not removed since. -/
def lastSaved? (past : List Step) (slug : String) : Option Strategy :=
  (past.reverse.find? (Step.touches slug)).bind Step.saved?

theorem lastSaved?_append (past : List Step) (x : Step) (slug : String) :
    lastSaved? (past ++ [x]) slug =
      if x.touches slug then x.saved? else lastSaved? past slug := by
  rw [lastSaved?, List.reverse_append, List.reverse_singleton, List.singleton_append,
    List.find?_cons]
  cases x.touches slug <;> rfl

/-- The warning that a strategy takes the place of one with another name. -/
def replacementWarning (s old : Strategy) : String :=
  "⚠️ Slug '" ++ s.slug ++ "' já pertencia a '" ++ old.name ++ "'; substituída por '" ++ s.name ++
    "'"

theorem collisionWarning_str (s old : Strategy) : collisionWarning s (.str old.name) =
    if old.name = s.name then none else some (replacementWarning s old) := by
  by_cases same : old.name = s.name
  · rw [if_pos same, collisionWarning, if_pos]
    simp [Json.asString?, same]
  · rw [if_neg same, collisionWarning, if_neg]
    · rfl
    · simp [Json.isNull, Json.asString?, same]

/-- What a store may reply to a step after others: each reply is a result, never an error. -/
inductive Answers (past : List Step) : Step → Reply → Prop where
  | save {s : Strategy} (h : ∀ old, lastSaved? past s.slug = some old → old.name = s.name) :
    Answers past (.save s) ⟨.ok (.saved (strategySummary s)), []⟩
  | saveOver {s old : Strategy} (h : lastSaved? past s.slug = some old) (ne : old.name ≠ s.name) :
    Answers past (.save s) ⟨.ok (.saved (strategySummary s)), [replacementWarning s old]⟩
  | fetchNone {slug : String} (h : lastSaved? past slug = none) :
    Answers past (.fetch slug) ⟨.ok (.strategy none), []⟩
  | fetchSome {slug : String} {s t : Strategy} (h : lastSaved? past slug = some s)
      (same : t.exportText = s.exportText) :
    Answers past (.fetch slug) ⟨.ok (.strategy (some t)), []⟩
  | list {live : List Strategy} (ordered : (live.map Strategy.slug).Pairwise (· < ·))
      (mem : ∀ s, s ∈ live ↔ lastSaved? past s.slug = some s) :
    Answers past .list ⟨.ok (.summaries (live.map strategySummary)), []⟩
  | remove {slug : String} :
    Answers past (.remove slug) ⟨.ok (.removed (lastSaved? past slug).isSome), []⟩

/-- Each reply of a run answers its step after those before it. -/
inductive Answered : List Step → List Step → List Reply → Prop where
  | nil {past : List Step} : Answered past [] []
  | cons {past xs : List Step} {x : Step} {r : Reply} {rs : List Reply} (first : Answers past x r)
      (rest : Answered (past ++ [x]) xs rs) : Answered past (x :: xs) (r :: rs)

end Store

namespace Ledger

open Store (Step lastSaved? Answers Answered)

variable {l : Ledger} {past : List Step} {x : Step}

/-- The ledger has the strategy that was last saved under each slug. -/
def Tracks (l : Ledger) (past : List Step) : Prop :=
  ∀ slug, Members.get? l slug = lastSaved? past slug

theorem tracks_nil : Tracks [] [] := fun _ => rfl

theorem Tracks.step (tracks : l.Tracks past) : (l.step x).1.Tracks (past ++ [x]) := by
  intro slug
  rw [Store.lastSaved?_append, ← tracks slug]
  cases x with
  | save s =>
      simp only [Ledger.step, Members.get?_set, Step.touches, beq_iff_eq]
      rfl
  | remove other =>
      simp only [Ledger.step, Members.get?_erase, Step.touches, beq_iff_eq]
      rfl
  | fetch | list | overwrite => rfl

theorem answers_save (tracks : l.Tracks past) (s : Strategy) :
    Answers past (.save s) (l.step (.save s)).2 := by
  simp only [Ledger.step, nameAt]
  cases found : Members.get? l s.slug with
  | none =>
      refine .save fun old h => ?_
      rw [← tracks, found] at h
      cases h
  | some old =>
      have last : lastSaved? past s.slug = some old := tracks s.slug ▸ found
      rw [Option.elim_some, Store.collisionWarning_str]
      by_cases same : old.name = s.name
      · rw [if_pos same]
        refine .save fun old' h => ?_
        cases last.symm.trans h
        exact same
      · rw [if_neg same]
        exact .saveOver last same

/-- Slugs of a ledger in order are strictly ascending, for none stands twice. -/
theorem Kept.pairwise_slugs (kept : l.Kept) :
    ((l.sorted.map (·.2)).map Strategy.slug).Pairwise (· < ·) := by
  have slugs : (l.sorted.map (·.2)).map Strategy.slug = Members.keys l.sorted := by
    rw [List.map_map, Members.keys]
    refine List.map_congr_left fun kv hkv => ?_
    rw [Function.comp_apply, ← kept.slug kv (Members.mem_sorted.mp hkv)]
  rw [slugs]
  exact Members.pairwise_lt_keys_sorted kept.distinct

theorem answers_list (kept : l.Kept) (tracks : l.Tracks past) :
    Answers past .list (l.step .list).2 := by
  have summaries : (l.sorted.map fun kv => Store.summary kv.1 kv.2.metadata.toObject) =
      (l.sorted.map (·.2)).map Store.strategySummary := by
    rw [List.map_map]
    refine List.map_congr_left fun kv hkv => ?_
    rw [kept.slug kv (Members.mem_sorted.mp hkv), Function.comp_apply, Store.strategySummary]
  simp only [Ledger.step, summaries]
  refine .list kept.pairwise_slugs fun s => ?_
  rw [← tracks, Members.get?_eq_some_iff kept.distinct, List.mem_map]
  constructor
  · rintro ⟨kv, hkv, rfl⟩
    have mem := Members.mem_sorted.mp hkv
    rw [← kept.slug kv mem]
    exact mem
  · exact fun mem => ⟨_, Members.mem_sorted.mpr mem, rfl⟩

theorem answers_fetch (kept : l.Kept) (tracks : l.Tracks past) (slug : String) :
    Answers past (.fetch slug) (l.step (.fetch slug)).2 := by
  simp only [Ledger.step]
  cases found : Members.get? l slug with
  | none => exact .fetchNone (tracks slug ▸ found)
  | some s =>
      have exported := (kept.get? found).2.exported
      refine .fetchSome (tracks slug ▸ found) ?_
      rw [exported, Strategy.exportText_stored exported]

theorem answers_step (kept : l.Kept) (tracks : l.Tracks past) (sound : x.Sound) :
    Answers past x (l.step x).2 := by
  cases x with
  | save s => exact answers_save tracks s
  | fetch slug => exact answers_fetch kept tracks slug
  | list => exact answers_list kept tracks
  | remove slug =>
      simp only [Ledger.step, Members.has, tracks slug]
      exact .remove
  | overwrite => exact sound.elim

/-- By induction on the steps to come: each of them moves into the past. -/
theorem answered_steps {xs : List Step} (kept : l.Kept) (tracks : l.Tracks past)
    (sound : ∀ x ∈ xs, x.Sound) : Answered past xs (l.run xs).2 := by
  induction xs generalizing l past with
  | nil => exact .nil
  | cons x xs ih =>
      obtain ⟨first, rest⟩ := List.forall_mem_cons.mp sound
      exact .cons (answers_step kept tracks first) (ih (kept.step first) tracks.step rest)

end Ledger

namespace Store

/-- From nothing on, a run that saves only what can be exported gets the same replies from both
kinds of stores, and they are those of a map from slugs to the strategies last saved. -/
theorem answered_run {xs : List Step} (sound : ∀ x ∈ xs, x.Sound) :
    ∃ replies, ((Store.texts []).run xs).2 = replies ∧
      ((Store.documents []).run xs).2 = replies ∧ Answered [] xs replies := by
  have answered := Ledger.answered_steps Ledger.kept_nil Ledger.tracks_nil sound
  refine ⟨(Ledger.run [] xs).2, ?_, ?_, answered⟩
  · exact congrArg Prod.snd (Ledger.run_asTexts Ledger.kept_nil sound)
  · exact congrArg Prod.snd (Ledger.run_asDocuments Ledger.kept_nil sound)

theorem exportable_redRunStrategy : redRunStrategy.Exportable :=
  Strategy.exportable_of_exportText (.compiled wellFormed_redRun compile_redRun) exportText_redRun

/-- Saved twice, listed, fetched, removed and no longer there. -/
def redRunSteps : List Step :=
  [.save redRunStrategy, .save redRunStrategy, .list, .fetch redRunStrategy.slug,
   .remove redRunStrategy.slug, .fetch redRunStrategy.slug]

theorem answered_run_redRunSteps : (∀ x ∈ redRunSteps, x.Sound) ∧
    ∃ replies, ((Store.texts []).run redRunSteps).2 = replies ∧
      ((Store.documents []).run redRunSteps).2 = replies ∧ Answered [] redRunSteps replies := by
  have sound : ∀ x ∈ redRunSteps, x.Sound := by
    simp only [redRunSteps, List.forall_mem_cons]
    exact ⟨exportable_redRunStrategy, exportable_redRunStrategy, trivial, trivial, trivial, trivial,
      by simp⟩
  exact ⟨sound, answered_run sound⟩

end Store
end RouletteStrategy
