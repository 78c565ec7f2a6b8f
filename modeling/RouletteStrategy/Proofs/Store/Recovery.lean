import RouletteStrategy.Proofs.Store.History

/-!
# Saving over a damaged entry

A save looks at the entry that it replaces, for the warning about its name. A document store reads
that name off the metadata, so a damaged artifact is replaced like any other. A text store reads it
off the artifact itself: one that cannot be loaded keeps its place, and every save under its slug is
refused with the error of loading it (`step_save`).
-/

namespace RouletteStrategy.Store

variable {st : Store} {s : Strategy} {slug : String}

/-- The name of what is under a slug can be read, if anything is there. -/
def Replaceable : Store → String → Prop
  | .texts entries, slug => ∀ text, entries.get? slug = some text → (Artifact.load text).isOk
  | .documents entries, slug => ∀ d, entries.get? slug = some d →
      d.metadata.isSet → ∃ o, d.metadata = .obj o

theorem isOk_documentMetadata (d : Document) :
    (documentMetadata d).isOk ↔ (d.metadata.isSet → ∃ o, d.metadata = .obj o) := by
  unfold documentMetadata
  cases d.metadata with
  | obj o => exact ⟨fun _ _ => ⟨o, rfl⟩, fun _ => rfl⟩
  | _ =>
    simp only [GatingRules.objectIn, reduceCtorEq, exists_const, imp_false]
    split
    next set => exact iff_of_false nofun (not_not_intro set)
    next unset => exact iff_of_true rfl unset

theorem isOk_nameAt (st : Store) (slug : String) :
    (st.nameAt slug).isOk ↔ st.Replaceable slug := by
  cases st with
  | texts entries =>
      simp only [nameAt, Replaceable]
      cases entries.get? slug with
      | none => exact iff_of_true rfl (by simp)
      | some text => simp only [isOk_map, Option.some.injEq, forall_eq']
  | documents entries =>
      simp only [nameAt, Replaceable]
      cases entries.get? slug with
      | none => exact iff_of_true rfl (by simp)
      | some d => simp only [isOk_map, Option.some.injEq, forall_eq', isOk_documentMetadata]

/-! ## What a save leaves -/

theorem artifact?_put (st : Store) (s : Strategy) (text slug : String) :
    (st.put s text).artifact? slug = if s.slug = slug then some text else st.artifact? slug := by
  cases st with
  | texts entries => rw [put, artifact?, artifact?, Members.get?_set]
  | documents entries =>
      rw [put, artifact?, artifact?, Members.get?_set]
      split <;> rfl

/-- The strategy is there, and every other slug has the artifact that it had. -/
structure Replaced (st : Store) (s : Strategy) (st' : Store) : Prop where
  elsewhere : ∀ slug, slug ≠ s.slug → st'.artifact? slug = st.artifact? slug
  fetched : ∃ t, st'.fetch s.slug = .ok (some t) ∧ t.exportText = s.exportText

/-- What is fetched after a save is what the artifact gives. -/
theorem fetch_put (h : s.Exportable) (st : Store) :
    (st.put s s.text).fetch s.slug = .ok (some s.stored) := by
  rw [fetch, artifact?_put, if_pos rfl]
  simp only [h.load_text]
  rfl

theorem replaced_put (h : s.Exportable) (st : Store) : st.Replaced s (st.put s s.text) where
  elsewhere slug other := by rw [artifact?_put, if_neg (Ne.symm other)]
  fetched := by
    refine ⟨s.stored, fetch_put h st, ?_⟩
    rw [h.exported, Strategy.exportText_stored h.exported]

theorem save_of_nameAt {previous : Json} (h : s.Exportable)
    (name : st.nameAt s.slug = .ok previous) :
    st.save s = ⟨.ok (st.put s s.text, strategySummary s), collisionWarning s previous⟩ := by
  unfold save
  rw [name, h.exported]
  cases st <;> rfl

theorem save_of_nameAt_error {e : Error} (h : s.Exportable) (name : st.nameAt s.slug = .error e) :
    st.save s = ⟨.error e, none⟩ := by
  unfold save
  rw [name, h.exported]
  cases st <;> rfl

/-- A save takes the place of what was there if the name of that can be read. Otherwise it is
refused with the error of reading it, and the store stays as it was. -/
theorem step_save (h : s.Exportable) (st : Store) :
    (st.Replaceable s.slug → ∃ st' warnings,
      st.step (.save s) = (st', ⟨.ok (.saved (strategySummary s)), warnings⟩) ∧
        st.Replaced s st') ∧
    (¬ st.Replaceable s.slug → ∃ e, st.nameAt s.slug = .error e ∧
      st.step (.save s) = (st, ⟨.error e, []⟩)) := by
  constructor
  · intro replaceable
    obtain ⟨previous, name⟩ := exists_of_isOk ((isOk_nameAt st s.slug).mpr replaceable)
    refine ⟨st.put s s.text, (collisionWarning s previous).toList, ?_, replaced_put h st⟩
    simp only [step, save_of_nameAt h name]
  · intro damaged
    cases name : st.nameAt s.slug with
    | ok previous =>
        refine absurd ((isOk_nameAt st s.slug).mp ?_) damaged
        rw [name]
        rfl
    | error e =>
        refine ⟨e, rfl, ?_⟩
        simp only [step, save_of_nameAt_error h name]
        rfl

/-- One damaged artifact in a store of either kind, with the metadata as they were saved. -/
def damagedTexts : Store := .texts [(redRunStrategy.slug, "damaged")]

def damagedDocuments : Store :=
  .documents [(redRunStrategy.slug, ⟨.obj redRunStrategy.metadata.toObject, "damaged"⟩)]

theorem step_save_damaged :
    (¬ damagedTexts.Replaceable redRunStrategy.slug ∧ ∃ e,
      damagedTexts.nameAt redRunStrategy.slug = .error e ∧
        damagedTexts.step (.save redRunStrategy) = (damagedTexts, ⟨.error e, []⟩)) ∧
    (damagedDocuments.Replaceable redRunStrategy.slug ∧ ∃ st' warnings,
      damagedDocuments.step (.save redRunStrategy) =
          (st', ⟨.ok (.saved (strategySummary redRunStrategy)), warnings⟩) ∧
        damagedDocuments.Replaced redRunStrategy st') := by
  have damaged : ¬ damagedTexts.Replaceable redRunStrategy.slug := by
    intro h
    have load := h "damaged" (if_pos rfl)
    revert load
    decide +kernel
  have whole : damagedDocuments.Replaceable redRunStrategy.slug := by
    rw [← isOk_nameAt]
    rfl
  exact ⟨⟨damaged, (step_save exportable_redRunStrategy damagedTexts).2 damaged⟩,
    whole, (step_save exportable_redRunStrategy damagedDocuments).1 whole⟩

end RouletteStrategy.Store
