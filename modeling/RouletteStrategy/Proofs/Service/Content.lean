import RouletteStrategy.Proofs.Store.Recovery
import RouletteStrategy.Service.Routes

/-!
# What requests do to the content of a service

A request that is refused leaves the store as it was (`Effect`). Only two kinds of requests change
it: one that compiles a strategy keeps its artifact under the slug that is returned, and one that
removes a slug takes that entry away. So what a service keeps can always be loaded, each artifact
under its own slug (`Store.Intact`), over any run of requests (`content_run`).
-/

namespace RouletteStrategy

/-! ## Stores whose artifacts can be loaded -/

namespace Store

variable {st st' : Store} {s : Strategy} {summary : Json.Object}

/-- Each artifact is loaded as a strategy of the slug that it is under. -/
def Intact (st : Store) : Prop :=
  ∀ slug text, st.artifact? slug = some text → ∃ s, Artifact.load text = .ok s ∧ s.slug = slug

theorem Intact.put (intact : st.Intact) (h : s.Exportable) : (st.put s s.text).Intact := by
  intro slug text found
  rw [artifact?_put] at found
  split at found
  next same =>
    cases found
    exact ⟨s.stored, h.load_text, same⟩
  next other => exact intact slug text found

theorem artifact?_remove (st : Store) (slug other : String) :
    (st.remove slug).1.artifact? other = if slug = other then none else st.artifact? other := by
  cases st with
  | texts entries => rw [remove, artifact?, artifact?, Members.get?_erase]
  | documents entries =>
      rw [remove, artifact?, artifact?, Members.get?_erase]
      split <;> rfl

theorem Intact.remove (intact : st.Intact) (slug : String) : (st.remove slug).1.Intact := by
  intro other text found
  rw [artifact?_remove] at found
  split at found
  · cases found
  · exact intact other text found

theorem remove_snd (st : Store) (slug : String) :
    (st.remove slug).2 = (st.artifact? slug).isSome := by
  cases st with
  | texts entries => rfl
  | documents entries => rw [remove, artifact?, Option.isSome_map, Members.has]

/-- Without an entry there is nothing to remove. -/
theorem remove_of_artifact?_eq_none {slug : String} (h : st.artifact? slug = none) :
    (st.remove slug).1 = st := by
  cases st with
  | texts entries => rw [remove, Members.erase_of_get?_eq_none h]
  | documents entries =>
      rw [remove, Members.erase_of_get?_eq_none (Option.map_eq_none_iff.mp h)]

theorem put_eq_overwrite (st : Store) (s : Strategy) (text : String) :
    st.put s text = st.overwrite s.slug text (.obj s.metadata.toObject) := by
  cases st <;> rfl

/-- A strategy is saved by keeping its artifact under its slug. -/
theorem eq_of_result_save (h : (st.save s).result = .ok (st', summary)) :
    s.exportText = .ok s.text ∧ st' = st.put s s.text ∧ summary = strategySummary s := by
  unfold save at h
  split at h
  · cases h
  · cases h
  next previous _ =>
    obtain ⟨text, exported, eq⟩ := map_eq_ok.mp h
    cases eq
    have same : s.text = text := by rw [Strategy.text, exported]; rfl
    exact ⟨same ▸ exported, same ▸ rfl, rfl⟩

end Store

/-! ## What a request does -/

namespace Service

variable {s : Settings} {st st' : Store} {r : Request} {response : Response} {o : Json.Object}

/-- A body that a text can denote, with finite numbers only. -/
def Request.Sound (r : Request) : Prop := ∀ v, r.body = some v → v.WellFormed ∧ v.isFinite

/-- What a request asks for, and by which method. -/
def Request.Asks (r : Request) (verb : String) (resource : Resource) : Prop :=
  r.verb = verb ∧ Resource.find r.path = .ok (some resource)

theorem Request.asks_iff (r : Request) (verb : String) (resource : Resource) :
    r.Asks verb resource ↔
      r.verb = verb ∧ (Resource.find r.path).toOption = some (some resource) := by
  apply and_congr_right
  intro _
  cases Resource.find r.path <;> simp [Except.toOption]

instance (r : Request) (verb : String) (resource : Resource) : Decidable (r.Asks verb resource) :=
  decidable_of_iff _ (r.asks_iff verb resource).symm

/-- Requests to compile a strategy and keep it. -/
def Request.Compiles (r : Request) : Prop :=
  ∃ slug, r.Asks "POST" (.strategy slug) ∧ withoutBreak slug = "compilar"

/-- Requests to remove what is under a slug. -/
def Request.Removes (r : Request) (slug : String) : Prop := r.Asks "DELETE" (.strategy slug)

/-- A member of the body of a response. -/
def Response.field (response : Response) (key : String) : Json :=
  Json.Object.at response.body.members key

@[simp] theorem status_sent (response : Response) : (sent response).status = response.status := by
  unfold sent
  split
  next same => exact same.symm
  · rfl

/-- A key that is not hidden shows what is under it. -/
theorem get?_shownMembers {key : String} (h : isHidden key = false) (ms : Json.Object) :
    Members.get? (shownMembers ms) key = (Members.get? ms key).map shown := by
  induction ms with
  | nil => rfl
  | cons kv ms ih =>
      obtain ⟨k, v⟩ := kv
      rw [shownMembers, Members.get?_cons]
      split
      next hidden =>
        have other : k ≠ key := by
          rintro rfl
          rw [h] at hidden
          cases hidden
        rw [ih, if_neg other]
      next =>
        rw [Members.get?_cons, ih]
        split <;> rfl

theorem field_sent_success {key : String} (h : isHidden key = false) (fields : Json.Object) :
    (sent (success fields)).field key =
      shown (Json.Object.at (("success", .bool true) :: fields) key) := by
  have body : (sent (success fields)).body.members =
      shownMembers (("success", .bool true) :: fields) := rfl
  rw [Response.field, body, Json.Object.at, get?_shownMembers h, Json.Object.at]
  cases Members.get? (("success", .bool true) :: fields) key <;> rfl

/-- What a request does to a store, with the response to it: nothing if it is refused, nothing if it
asks for no change, and else what it asks for. What is kept is the artifact of a strategy, and the
response names its slug. -/
inductive Effect (st : Store) (r : Request) : Store × Response → Prop where
  | refused {response : Response} (h : 400 ≤ response.status) : Effect st r (st, response)
  | looked {response : Response} (compiles : ¬ r.Compiles) (removes : ∀ slug, ¬ r.Removes slug) :
    Effect st r (st, response)
  | kept {response : Response} {t : Strategy} (asks : r.Compiles) (status : response.status = 200)
    (exportable : t.Exportable) (slug : response.field "slug" = .str t.slug)
    (text : response.field "artifact" = .str t.text)
    (metadata : response.field "metadata" = shown (.obj t.metadata.toObject)) :
    Effect st r (st.put t t.text, response)
  | removed {response : Response} {slug : String} (asks : r.Removes slug)
    (status : response.status = 200) (found : (st.artifact? slug).isSome) :
    Effect st r ((st.remove slug).1, response)

/-- A request whose body is refused does nothing. -/
theorem effect_withBody {body : Except (List BodyIssue) Json.Object}
    {answer : Json.Object → Store × Response}
    (h : ∀ o, body = .ok o → Effect st r ((answer o).1, sent (answer o).2)) :
    Effect st r ((withBody st body answer).1, sent (withBody st body answer).2) := by
  cases body with
  | ok o => exact h o rfl
  | error issues => exact .refused (by simp [withBody, invalidBody])

theorem status_failure (e : Error) : 400 ≤ (failure e).status := by
  unfold failure
  split <;> simp

theorem effect_failure (e : Error) : Effect st r (st, sent (failure e)) :=
  .refused (by rw [status_sent]; exact status_failure e)

/-! ### Compiling and removing -/

/-- The fields that describe a strategy that was kept. -/
def keptFields (t : Strategy) : Json.Object :=
  Store.strategySummary t ++
    [("fileName", .str (Strategy.fileName t.name)), ("metadata", .obj t.metadata.toObject),
     ("artifact", .str t.text)]

/-- A payload is kept by compiling it and keeping its artifact. -/
theorem eq_of_compile (h : compile st o = .ok (st', response)) : ∃ t,
    Strategy.compile (.obj o) = .ok t ∧ t.exportText = .ok t.text ∧ st' = st.put t t.text ∧
      response = success (keptFields t) := by
  obtain ⟨t, compiled, h⟩ := bind_eq_ok.mp h
  obtain ⟨⟨st₁, summary⟩, saved, h⟩ := bind_eq_ok.mp h
  obtain ⟨text, exported, h⟩ := bind_eq_ok.mp h
  obtain ⟨exported', rfl, rfl⟩ := Store.eq_of_result_save saved
  cases exported.symm.trans exported'
  cases h
  exact ⟨t, compiled, exported', rfl, rfl⟩

/-- The fields of a body that passes a check are those of the object in it. -/
theorem eq_of_checkedBody {issues : Json.Object → List BodyIssue} {fault : BodyFault}
    {body : Option Json} (h : checkedBody issues fault body = .ok o) : body = some (.obj o) := by
  unfold checkedBody at h
  split at h
  · cases h
  · cases h
  next v _ =>
    split at h
    · cases h
    next fields object =>
      split at h
      · cases h
        rw [Json.eq_obj_of_asObject? object]
      · cases h

theorem effect_postCompile (asks : r.Compiles) (sound : r.Sound) (st : Store) :
    Effect st r ((postCompile st r.body).1, sent (postCompile st r.body).2) := by
  refine effect_withBody fun o checked => ?_
  have formed := (sound (.obj o) (eq_of_checkedBody checked)).1
  cases outcome : compile st o with
  | error e => exact effect_failure e
  | ok answer =>
      obtain ⟨st', response⟩ := answer
      obtain ⟨t, compiled, exported, rfl, rfl⟩ := eq_of_compile outcome
      have exportable := Strategy.exportable_of_exportText (.compiled formed compiled) exported
      refine .kept asks rfl exportable ?_ ?_ ?_
      · exact field_sent_success rfl _
      · exact field_sent_success rfl _
      · exact field_sent_success rfl _

/-- Removing a slug that is not in use is refused. -/
theorem deleteStrategy_eq (st : Store) (slug : String) : deleteStrategy st slug =
    if (st.artifact? slug).isSome then ((st.remove slug).1, success [("slug", .str slug)])
    else (st, noStrategy slug) := by
  have wasThere := st.remove_snd slug
  unfold deleteStrategy
  split
  next st' eq =>
    rw [eq] at wasThere
    rw [if_pos wasThere.symm, eq]
  next st' eq =>
    rw [eq] at wasThere
    have absent : st.artifact? slug = none :=
      Option.isNone_iff_eq_none.mp (Option.isSome_eq_false_iff.mp wasThere.symm)
    have same := Store.remove_of_artifact?_eq_none absent
    rw [eq] at same
    rw [absent, ← same]
    rfl

theorem effect_deleteStrategy {slug : String} (asks : r.Removes slug) (st : Store) :
    Effect st r ((deleteStrategy st slug).1, sent (deleteStrategy st slug).2) := by
  rw [deleteStrategy_eq]
  split
  next found => exact .removed asks rfl found
  next => exact .refused (show 400 ≤ 404 by decide)

/-! ### Any request -/

/-- Requests for anything but a strategy ask for no change. -/
theorem looked_of_resource {resource : Resource}
    (found : Resource.find r.path = .ok (some resource))
    (other : ∀ slug, resource ≠ .strategy slug) (st : Store) (response : Response) :
    Effect st r (st, response) := by
  refine .looked ?_ ?_
  · rintro ⟨slug, ⟨-, eq⟩, -⟩
    cases found.symm.trans eq
    exact other slug rfl
  · rintro slug ⟨-, eq⟩
    cases found.symm.trans eq
    exact other slug rfl

theorem effect_strategy {slug : String} (found : Resource.find r.path = .ok (some (.strategy slug)))
    (sound : r.Sound) (s : Settings) (st : Store) :
    Effect st r ((serve s st r.verb r.body (.strategy slug)).1,
      sent (serve s st r.verb r.body (.strategy slug)).2) := by
  have only : ∀ {verb other}, r.Asks verb (.strategy other) → other = slug := by
    rintro verb other ⟨-, eq⟩
    cases found.symm.trans eq
    rfl
  have looked : ∀ response, r.verb ≠ "DELETE" →
      ¬(r.verb = "POST" ∧ withoutBreak slug = "compilar") → Effect st r (st, response) := by
    intro response noDelete noCompile
    refine .looked ?_ fun other removes => noDelete removes.1
    rintro ⟨other, asks, word⟩
    cases only asks
    exact noCompile ⟨asks.1, word⟩
  simp only [serve]
  split
  next get => exact looked _ (by simp [get]) (by simp [get])
  next =>
    split
    next delete => exact effect_deleteStrategy ⟨delete, found⟩ st
    next noDelete =>
      split
      next preview =>
        have other : ¬(r.verb = "POST" ∧ withoutBreak slug = "compilar") := by simp [preview.2]
        exact effect_withBody fun o _ => looked _ noDelete other
      next =>
        split
        next compiles => exact effect_postCompile ⟨slug, ⟨compiles.1, found⟩, compiles.2⟩ sound st
        next noCompile => exact looked _ noDelete noCompile

/-- What any request does to any store. -/
theorem effect_handle (sound : r.Sound) (s : Settings) (st : Store) :
    Effect st r (handle s st r) := by
  unfold handle
  split
  next resource found =>
    cases resource with
    | strategy slug => exact effect_strategy found sound s st
    | signal slug =>
        simp only [serve, postSignal]
        split
        · exact effect_withBody fun o _ => looked_of_resource found (by simp) st _
        · exact looked_of_resource found (by simp) st _
    | root | ping | health | templates | template slug | strategies =>
        simp only [serve]
        split
        all_goals exact looked_of_resource found (by simp) st _
  next => exact .refused (by decide)

/-! ## Runs of requests -/

theorem Effect.intact {outcome : Store × Response} (effect : Effect st r outcome)
    (intact : st.Intact) : outcome.1.Intact := by
  cases effect with
  | refused => exact intact
  | looked => exact intact
  | kept _ _ exportable => exact intact.put exportable
  | removed => exact intact.remove _

theorem intact_fresh : fresh.Intact := by
  intro slug text found
  cases found

theorem run_cons (s : Settings) (st : Store) (r : Request) (rs : List Request) :
    (run s st (r :: rs)).1 = (run s (handle s st r).1 rs).1 := by
  rw [run]

/-- By induction on the requests to come. -/
theorem intact_run {rs : List Request} (sound : ∀ r ∈ rs, r.Sound) (intact : st.Intact) :
    (run s st rs).1.Intact := by
  induction rs generalizing st with
  | nil => exact intact
  | cons r rs ih =>
      obtain ⟨first, rest⟩ := List.forall_mem_cons.mp sound
      rw [run_cons]
      exact ih rest ((effect_handle first s st).intact intact)

/-- After any run of requests, what is kept can be loaded, and a further request leaves it as it was
if it is refused or asks for no change. One that compiles and is answered sets one entry, under the
slug that is returned; one that removes and is answered takes away that entry. -/
theorem content_run (s : Settings) {rs : List Request} (sound : ∀ r ∈ rs, r.Sound)
    (next : r.Sound) :
    ∃ st st' response, (run s fresh rs).1 = st ∧ handle s st r = (st', response) ∧
      st.Intact ∧ st'.Intact ∧
      (400 ≤ response.status → st' = st) ∧
      (st' ≠ st → response.status = 200 ∧ (r.Compiles ∨ ∃ slug, r.Removes slug)) ∧
      (r.Compiles → response.status < 400 → ∃ slug text metadata,
        response.field "slug" = .str slug ∧ response.field "artifact" = .str text ∧
          response.field "metadata" = shown metadata ∧ st' = st.overwrite slug text metadata) ∧
      (∀ slug, r.Removes slug → response.status < 400 →
        (st.artifact? slug).isSome ∧ st' = (st.remove slug).1) := by
  have intact : (run s fresh rs).1.Intact := intact_run sound intact_fresh
  generalize (run s fresh rs).1 = st at intact
  have effect := effect_handle next s st
  cases outcome : handle s st r with | mk st' response =>
  rw [outcome] at effect
  refine ⟨st, st', response, rfl, outcome, intact, effect.intact intact, ?_⟩
  cases effect with
  | refused refused =>
      exact ⟨fun _ => rfl, fun change => absurd rfl change, fun _ ok => absurd ok (by omega),
        fun _ _ ok => absurd ok (by omega)⟩
  | looked compiles removes =>
      exact ⟨fun _ => rfl, fun change => absurd rfl change, fun asks => absurd asks compiles,
        fun slug asks => absurd asks (removes slug)⟩
  | kept asks status _ slug text metadata =>
      refine ⟨fun refused => absurd refused (by omega), fun _ => ⟨status, .inl asks⟩, ?_, ?_⟩
      · exact fun _ _ => ⟨_, _, _, slug, text, metadata, st.put_eq_overwrite _ _⟩
      · exact fun slug removes => absurd (removes.1.symm.trans asks.choose_spec.1.1) (by decide)
  | @removed response slug asks status found =>
      refine ⟨fun refused => absurd refused (by omega), fun _ => ⟨status, .inr ⟨_, asks⟩⟩, ?_, ?_⟩
      · rintro ⟨other, compiles, -⟩
        exact absurd (compiles.1.symm.trans asks.1) (by decide)
      · intro other removes _
        have same : slug = other := by
          have eq := asks.2.symm.trans removes.2
          cases eq
          rfl
        subst same
        exact ⟨found, rfl⟩

def compileRedRun : Request := ⟨"POST", "/api/estrategias/compilar", some (.obj redRun)⟩

/-- Sent on to the path without the slash at its end. -/
def removeRedRun : Request := ⟨"delete", "/api/estrategias/red-run/", none⟩

theorem sound_compileRedRun : compileRedRun.Sound := by
  rintro v ⟨⟩
  exact ⟨wellFormed_redRun, rfl⟩

theorem content_run_redRun :
    (∀ r ∈ [compileRedRun], r.Sound) ∧ removeRedRun.Sound ∧ compileRedRun.Compiles ∧
    removeRedRun.Removes redRunStrategy.slug ∧
    ∃ st st' response, (run {} fresh [compileRedRun]).1 = st ∧
      handle {} st removeRedRun = (st', response) ∧ st.Intact ∧ st'.Intact ∧
      (400 ≤ response.status → st' = st) ∧
      (st' ≠ st → response.status = 200 ∧
        (removeRedRun.Compiles ∨ ∃ slug, removeRedRun.Removes slug)) ∧
      (removeRedRun.Compiles → response.status < 400 → ∃ slug text metadata,
        response.field "slug" = .str slug ∧ response.field "artifact" = .str text ∧
          response.field "metadata" = shown metadata ∧ st' = st.overwrite slug text metadata) ∧
      (∀ slug, removeRedRun.Removes slug → response.status < 400 →
        (st.artifact? slug).isSome ∧ st' = (st.remove slug).1) := by
  have sound : ∀ r ∈ [compileRedRun], r.Sound := by
    simpa only [List.mem_singleton, forall_eq] using sound_compileRedRun
  have next : removeRedRun.Sound := by
    rintro v ⟨⟩
  have compiles : compileRedRun.Asks "POST" (.strategy "compilar") := by decide +kernel
  have removes : removeRedRun.Asks "DELETE" (.strategy redRunStrategy.slug) := by decide +kernel
  exact ⟨sound, next, ⟨_, compiles, by decide +kernel⟩, removes, content_run {} sound next⟩

end Service
end RouletteStrategy
