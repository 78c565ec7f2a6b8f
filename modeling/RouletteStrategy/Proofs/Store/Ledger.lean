import RouletteStrategy.Proofs.Strategy.RoundTrip
import RouletteStrategy.Store.Steps

/-!
# Stores as ledgers of strategies

A ledger keeps the strategies themselves. Both kinds of stores make the steps of a ledger on what
they keep of its strategies and give the same replies (`Ledger.run_asTexts`,
`Ledger.run_asDocuments`), as long as what is saved was compiled and can be exported.
-/

namespace RouletteStrategy

/-! ## Strategies that can be saved -/

namespace Artifact

variable {text : String} {s : Strategy}

/-- What is loaded was compiled from what the parser gives. -/
theorem exists_fields_of_load (h : load text = .ok s) :
    ∃ o : Json.Object, o.WellFormed ∧ Strategy.compileFields .text o = .ok s := by
  obtain ⟨t, metadata, graph, parse, verified, compiled⟩ := load_eq_ok.mp h
  have formed := (Json.Parser.wellFormed_parse parse).members
  refine ⟨merged metadata graph, ?_, compiled⟩
  exact ((formed.valueAt "metadata").asObject verified.metadata).overlay
    ((formed.valueAt "graph").asObject verified.graph)

end Artifact

namespace Strategy

variable {s : Strategy}

/-- Strategies that were compiled from a payload or loaded from an artifact. -/
inductive Compiled : Strategy → Prop where
  | compiled {s : Strategy} {o : Json.Object} (formed : (Json.obj o).WellFormed)
      (h : compile (.obj o) = .ok s) : Compiled s
  | loaded {s : Strategy} {text : String} (h : Artifact.load text = .ok s) : Compiled s

theorem Compiled.exists_fields (h : s.Compiled) :
    ∃ origin, ∃ o : Json.Object, o.WellFormed ∧ compileFields origin o = .ok s := by
  cases h with
  | compiled formed h => exact ⟨.values, _, formed.members, h⟩
  | loaded h =>
      obtain ⟨o, formed, h⟩ := Artifact.exists_fields_of_load h
      exact ⟨.text, o, formed, h⟩

/-- The text of the artifact of a strategy, if it has one. -/
def text (s : Strategy) : String := s.exportText.toOption.getD ""

/-- A strategy that was compiled and has an artifact. -/
structure Exportable (s : Strategy) : Prop where
  compiled : s.Compiled
  exported : s.exportText = .ok s.text

theorem exportable_of_exportText (compiled : s.Compiled) {text : String}
    (h : s.exportText = .ok text) : s.Exportable := by
  refine ⟨compiled, ?_⟩
  rw [Strategy.text, h]
  rfl

theorem Exportable.load_text (h : s.Exportable) : Artifact.load s.text = .ok s.stored := by
  obtain ⟨origin, o, formed, compiled⟩ := h.compiled.exists_fields
  exact load_exportText formed compiled h.exported

end Strategy

namespace Store

/-- A step that saves only what can be exported, and does not write past the store. -/
def Step.Sound : Step → Prop
  | .save s => s.Exportable
  | .fetch _ | .list | .remove _ => True
  | .overwrite _ _ _ => False

end Store

/-! ## Ledgers -/

/-- Strategies under their slugs. -/
abbrev Ledger := Members Strategy

namespace Ledger

open Store (Step Reply)

variable {l : Ledger} {s : Strategy} {x : Step}

/-- The name kept under a slug, or null. -/
def nameAt (l : Ledger) (slug : String) : Json :=
  (l.get? slug).elim .null fun s => .str s.name

/-- What comes of a step: a strategy that is fetched is the one that its artifact gives. -/
def step (l : Ledger) : Step → Ledger × Reply
  | .save s =>
    (l.set s.slug s, ⟨.ok (.saved (Store.strategySummary s)),
      (Store.collisionWarning s (l.nameAt s.slug)).toList⟩)
  | .fetch slug => (l, ⟨.ok (.strategy ((l.get? slug).map Strategy.stored)), []⟩)
  | .list =>
    (l, ⟨.ok (.summaries (l.sorted.map fun kv => Store.summary kv.1 kv.2.metadata.toObject)), []⟩)
  | .remove slug => (l.erase slug, ⟨.ok (.removed (l.has slug)), []⟩)
  | .overwrite _ _ _ => (l, ⟨.ok .written, []⟩)

def run (l : Ledger) : List Step → Ledger × List Reply
  | [] => (l, [])
  | x :: xs => ((run (l.step x).1 xs).1, (l.step x).2 :: (run (l.step x).1 xs).2)

/-- Each strategy can be exported and stands under its own slug, alone. -/
structure Kept (l : Ledger) : Prop where
  distinct : (Members.keys l).Nodup
  slug : ∀ kv ∈ l, kv.1 = kv.2.slug
  exportable : ∀ kv ∈ l, kv.2.Exportable

theorem kept_nil : Kept [] := ⟨List.nodup_nil, by simp, by simp⟩

theorem Kept.set (kept : l.Kept) (h : s.Exportable) : Kept (Members.set l s.slug s) where
  distinct := Members.nodup_keys_set kept.distinct _ _
  slug kv hkv := by
    rcases Members.mem_set hkv with old | rfl
    · exact kept.slug kv old
    · dsimp only
  exportable kv hkv := by
    rcases Members.mem_set hkv with old | rfl
    · exact kept.exportable kv old
    · exact h

theorem Kept.erase (kept : l.Kept) (slug : String) : Kept (Members.erase l slug) := by
  have sublist : (Members.erase l slug).Sublist l := List.filter_sublist
  exact ⟨kept.distinct.sublist (sublist.map _), fun kv hkv => kept.slug kv (sublist.subset hkv),
    fun kv hkv => kept.exportable kv (sublist.subset hkv)⟩

theorem Kept.step (kept : l.Kept) (sound : x.Sound) : (l.step x).1.Kept := by
  cases x with
  | save s => exact kept.set sound
  | remove slug => exact kept.erase slug
  | fetch | list => exact kept
  | overwrite => exact sound.elim

theorem Kept.get? (kept : l.Kept) {slug : String} (h : Members.get? l slug = some s) :
    s.slug = slug ∧ s.Exportable := by
  have mem := Members.mem_of_get? h
  exact ⟨(kept.slug _ mem).symm, kept.exportable _ mem⟩

/-! ### Text stores -/

/-- The store that keeps the texts of the artifacts. -/
def asTexts (l : Ledger) : Store := .texts (l.map fun kv => (kv.1, kv.2.text))

theorem nameAt_asTexts (kept : l.Kept) (slug : String) :
    l.asTexts.nameAt slug = .ok (l.nameAt slug) := by
  rw [asTexts, Store.nameAt, Members.get?_map, nameAt]
  cases found : Members.get? l slug with
  | none => rfl
  | some s =>
      simp only [Option.map_some, (kept.get? found).2.load_text]
      rfl

theorem save_asTexts (kept : l.Kept) (h : s.Exportable) : l.asTexts.save s =
    ⟨.ok (asTexts (Members.set l s.slug s), Store.strategySummary s),
      Store.collisionWarning s (l.nameAt s.slug)⟩ := by
  have previous := nameAt_asTexts kept s.slug
  unfold asTexts at previous ⊢
  simp only [Store.save, previous, h.exported, Except.map, Store.put, Members.set_map Strategy.text]

theorem fetch_asTexts (kept : l.Kept) (slug : String) :
    l.asTexts.fetch slug = .ok ((Members.get? l slug).map Strategy.stored) := by
  rw [asTexts, Store.fetch, Store.artifact?, Members.get?_map]
  cases found : Members.get? l slug with
  | none => rfl
  | some s =>
      simp only [Option.map_some, (kept.get? found).2.load_text]
      rfl

theorem list_asTexts (kept : l.Kept) : l.asTexts.list =
    .ok (l.sorted.map fun kv => Store.summary kv.1 kv.2.metadata.toObject) := by
  rw [asTexts, Store.list, Members.sorted_map, List.mapM_map]
  refine mapM_eq_ok_map fun kv hkv => ?_
  have load := (kept.exportable kv (Members.mem_sorted.mp hkv)).load_text
  simp only [Function.comp_apply, load]
  rfl

theorem step_asTexts (kept : l.Kept) (sound : x.Sound) :
    l.asTexts.step x = ((l.step x).1.asTexts, (l.step x).2) := by
  cases x with
  | save s => simp only [Store.step, save_asTexts kept sound, step]
  | fetch slug => simp only [Store.step, fetch_asTexts kept, step, Except.map]
  | list => simp only [Store.step, list_asTexts kept, step, Except.map]
  | remove slug =>
      simp only [Store.step, asTexts, Store.remove, Members.erase_map, Members.has_map, step]
  | overwrite => exact sound.elim

/-! ### Document stores -/

/-- The document of a strategy. -/
def document (s : Strategy) : Document := ⟨.obj s.metadata.toObject, s.text⟩

/-- The store that keeps the metadata beside the texts. -/
def asDocuments (l : Ledger) : Store := .documents (l.map fun kv => (kv.1, document kv.2))

theorem nameAt_asDocuments (l : Ledger) (slug : String) :
    l.asDocuments.nameAt slug = .ok (l.nameAt slug) := by
  rw [asDocuments, Store.nameAt, Members.get?_map, nameAt]
  cases Members.get? l slug <;> rfl

theorem save_asDocuments (h : s.Exportable) : l.asDocuments.save s =
    ⟨.ok (asDocuments (Members.set l s.slug s), Store.strategySummary s),
      Store.collisionWarning s (l.nameAt s.slug)⟩ := by
  have previous := nameAt_asDocuments l s.slug
  have put := Members.set_map document l s.slug s
  unfold asDocuments at previous ⊢
  simp only [Store.save, previous, h.exported, Except.map, Store.put, ← put]
  rfl

theorem fetch_asDocuments (kept : l.Kept) (slug : String) :
    l.asDocuments.fetch slug = .ok ((Members.get? l slug).map Strategy.stored) := by
  rw [asDocuments, Store.fetch, Store.artifact?, Members.get?_map, Option.map_map]
  cases found : Members.get? l slug with
  | none => rfl
  | some s =>
      simp only [Option.map_some, Function.comp_apply, document, (kept.get? found).2.load_text]
      rfl

theorem list_asDocuments (l : Ledger) : l.asDocuments.list =
    .ok (l.sorted.map fun kv => Store.summary kv.1 kv.2.metadata.toObject) := by
  rw [asDocuments, Store.list, Members.sorted_map, List.mapM_map]
  exact mapM_eq_ok_map fun kv _ => rfl

theorem step_asDocuments (kept : l.Kept) (sound : x.Sound) :
    l.asDocuments.step x = ((l.step x).1.asDocuments, (l.step x).2) := by
  cases x with
  | save s => simp only [Store.step, save_asDocuments sound, step]
  | fetch slug => simp only [Store.step, fetch_asDocuments kept, step, Except.map]
  | list => simp only [Store.step, list_asDocuments, step, Except.map]
  | remove slug =>
      simp only [Store.step, asDocuments, Store.remove, Members.erase_map, Members.has_map, step]
  | overwrite => exact sound.elim

/-! ### Runs -/

variable {xs : List Step}

/-- A store that keeps something of each strategy and makes the steps of a ledger makes its runs. -/
theorem run_of_step {encode : Ledger → Store}
    (hstep : ∀ (l : Ledger) (x : Step), l.Kept → x.Sound →
      (encode l).step x = (encode (l.step x).1, (l.step x).2))
    (kept : l.Kept) (sound : ∀ x ∈ xs, x.Sound) :
    (encode l).run xs = (encode (l.run xs).1, (l.run xs).2) := by
  -- the ledger changes from step to step; that it is kept carries over
  induction xs generalizing l with
  | nil => rfl
  | cons x xs ih =>
      obtain ⟨first, rest⟩ := List.forall_mem_cons.mp sound
      simp only [Store.run, hstep l x kept first, ih (kept.step first) rest, run]

theorem run_asTexts (kept : l.Kept) (sound : ∀ x ∈ xs, x.Sound) :
    l.asTexts.run xs = ((l.run xs).1.asTexts, (l.run xs).2) :=
  run_of_step (fun _ _ => step_asTexts) kept sound

theorem run_asDocuments (kept : l.Kept) (sound : ∀ x ∈ xs, x.Sound) :
    l.asDocuments.run xs = ((l.run xs).1.asDocuments, (l.run xs).2) :=
  run_of_step (fun _ _ => step_asDocuments) kept sound

end Ledger
end RouletteStrategy
