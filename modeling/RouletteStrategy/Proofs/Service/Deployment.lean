import RouletteStrategy.Proofs.Service.Content
import RouletteStrategy.Proofs.Service.Preview

/-!
# Previews and deployed strategies

A preview evaluates a body without keeping it. A deployed strategy was compiled from the body, kept
as text and is read back for each signal. Asked with the same history, both report the same
evaluation (`signal_eq_preview`).
-/

namespace RouletteStrategy.Service

/-! ## Requests that are answered -/

variable {s : Settings} {st st' : Store} {r : Request} {slug : String}
  {body given whole : Json.Object}

/-- Requests to evaluate a body without keeping it. -/
def Request.Previews (r : Request) : Prop :=
  ∃ slug, r.Asks "POST" (.strategy slug) ∧ withoutBreak slug = "avaliar"

theorem handle_of_asks {verb : String} {resource : Resource} (asks : r.Asks verb resource)
    (s : Settings) (st : Store) : handle s st r =
      ((serve s st verb r.body resource).1, sent (serve s st verb r.body resource).2) := by
  unfold handle
  rw [asks.1, asks.2]

theorem serve_preview (word : withoutBreak slug = "avaliar") (s : Settings) (st : Store)
    (body : Option Json) : serve s st "POST" body (.strategy slug) = postPreview s st body := by
  simp [serve, word]

theorem serve_compile (word : withoutBreak slug = "compilar") (s : Settings) (st : Store)
    (body : Option Json) : serve s st "POST" body (.strategy slug) = postCompile st body := by
  simp [serve, word]

theorem serve_signal (s : Settings) (st : Store) (body : Option Json) (slug : String) :
    serve s st "POST" body (.signal slug) = postSignal s st slug body := by
  simp [serve]

/-- An answer to a body that passes its check. -/
theorem withBody_of_status_ok {issues : Json.Object → List BodyIssue} {fault : BodyFault}
    {o : Json.Object} {answer : Json.Object → Store × Response} (hbody : r.body = some (.obj o))
    (ok : (withBody st (checkedBody issues fault r.body) answer).2.status = 200) :
    withBody st (checkedBody issues fault r.body) answer = answer o := by
  cases checked : checkedBody issues fault r.body with
  | error issues =>
      rw [checked] at ok
      exact absurd ok (by simp [withBody, invalidBody])
  | ok fields =>
      cases (eq_of_checkedBody checked).symm.trans hbody
      rfl

theorem exists_of_respond {x : Except Error Response} (ok : (respond x).status = 200) :
    ∃ response, x = .ok response := by
  cases x with
  | ok response => exact ⟨response, rfl⟩
  | error e =>
      have status := status_failure e
      rw [respond] at ok
      omega

theorem evaluateFor_eq_ok {g : Graph} {o : Json.Object} {history : History} {e : Evaluation} :
    evaluateFor s g o = .ok (history, e) ↔ requestHistory s o = .ok history ∧
      g.evaluate (historyJson history) (requestContext o) = .ok e := by
  simp only [evaluateFor, bind_eq_ok]
  constructor
  · rintro ⟨h, read, e', evaluate, eq⟩
    cases eq
    exact ⟨read, evaluate⟩
  · rintro ⟨read, evaluate⟩
    exact ⟨history, read, e, evaluate, rfl⟩

theorem eq_of_preview {o : Json.Object} {response : Response} (h : preview s o = .ok response) :
    ∃ g history e, Graph.read (.obj (previewGraph o)) = .ok g ∧
      evaluateFor s g o = .ok (history, e) ∧
      response = success (("history", historyJson history) :: e.full) := by
  unfold preview at h
  split at h
  · cases h
  · obtain ⟨g, read, h⟩ := bind_eq_ok.mp h
    obtain ⟨⟨history, e⟩, evaluate, h⟩ := bind_eq_ok.mp h
    cases h
    exact ⟨g, history, e, read, evaluate, rfl⟩

theorem eq_of_strategySignal {o : Json.Object} {t : Strategy} {response : Response}
    (fetched : st.fetch slug = .ok (some t)) (h : strategySignal s st slug o = .ok response) :
    ∃ history e, evaluateFor s t.graph o = .ok (history, e) ∧
      response = success (("slug", .str slug) :: e.full) := by
  obtain ⟨found, eq, h⟩ := bind_eq_ok.mp h
  cases fetched.symm.trans eq
  obtain ⟨⟨history, e⟩, evaluate, h⟩ := bind_eq_ok.mp h
  cases h
  exact ⟨history, e, evaluate, rfl⟩

theorem eq_of_previews {o : Json.Object} (previews : r.Previews) (hbody : r.body = some (.obj o))
    (ok : (handle s st r).2.status = 200) : ∃ g history e,
      Graph.read (.obj (previewGraph o)) = .ok g ∧ evaluateFor s g o = .ok (history, e) ∧
        handle s st r = (st, sent (success (("history", historyJson history) :: e.full))) := by
  obtain ⟨slug, asks, word⟩ := previews
  rw [handle_of_asks asks, serve_preview word, status_sent] at ok
  have answer := withBody_of_status_ok hbody ok
  rw [handle_of_asks asks, serve_preview word]
  unfold postPreview at ok ⊢
  rw [answer] at ok ⊢
  obtain ⟨response, answered⟩ := exists_of_respond ok
  obtain ⟨g, history, e, read, evaluate, rfl⟩ := eq_of_preview answered
  refine ⟨g, history, e, read, evaluate, ?_⟩
  rw [answered]
  rfl

theorem eq_of_compiles {o : Json.Object} (compiles : r.Compiles) (hbody : r.body = some (.obj o))
    (ok : (handle s st r).2.status = 200) : ∃ t, Strategy.compile (.obj o) = .ok t ∧
      t.exportText = .ok t.text ∧
        handle s st r = (st.put t t.text, sent (success (keptFields t))) := by
  obtain ⟨slug, asks, word⟩ := compiles
  rw [handle_of_asks asks, serve_compile word, status_sent] at ok
  have answer := withBody_of_status_ok hbody ok
  rw [handle_of_asks asks, serve_compile word]
  unfold postCompile at ok ⊢
  rw [answer] at ok ⊢
  cases outcome : compile st o with
  | error e =>
      rw [outcome] at ok
      have status := status_failure e
      dsimp only at ok
      omega
  | ok answered =>
      obtain ⟨st', response⟩ := answered
      obtain ⟨t, compiled, exported, rfl, rfl⟩ := eq_of_compile outcome
      exact ⟨t, compiled, exported, rfl⟩

theorem eq_of_signal {o : Json.Object} {t : Strategy} (asks : r.Asks "POST" (.signal slug))
    (hbody : r.body = some (.obj o)) (fetched : st.fetch slug = .ok (some t))
    (ok : (handle s st r).2.status = 200) : ∃ history e,
      evaluateFor s t.graph o = .ok (history, e) ∧
        handle s st r = (st, sent (success (("slug", .str slug) :: e.full))) := by
  rw [handle_of_asks asks, serve_signal, status_sent] at ok
  have answer := withBody_of_status_ok hbody ok
  rw [handle_of_asks asks, serve_signal]
  unfold postSignal at ok ⊢
  rw [answer] at ok ⊢
  obtain ⟨response, answered⟩ := exists_of_respond ok
  obtain ⟨history, e, evaluate, rfl⟩ := eq_of_strategySignal fetched answered
  refine ⟨history, e, evaluate, ?_⟩
  rw [answered]
  rfl

/-! ## A preview, a compilation and a signal -/

/-- The fields of a report on an evaluation. -/
def reportFields : List String := ["shouldActivate", "numbers", "confidence", "reason", "metadata"]

/-- A report behind another field that is none of its own. -/
theorem field_report {key first : String} (field : key ∈ reportFields) (ne : first ≠ key)
    (value : Json) (e : Evaluation) :
    (sent (success ((first, value) :: e.full))).field key = shown (Json.Object.at e.full key) := by
  have visible : ∀ key ∈ reportFields, isHidden key = false := by decide
  have other : ∀ key ∈ reportFields, "success" ≠ key := by decide
  rw [field_sent_success (visible key field), Json.Object.at, Members.get?_cons,
    if_neg (other key field), Members.get?_cons, if_neg ne, Json.Object.at]

/-- A preview of a body with a history, and the signal of the strategy compiled from that body with
the same history, report the same evaluation. -/
theorem signal_eq_preview {preview compile signal : Request} {r₁ r₂ r₃ : Response}
    (previews : preview.Previews) (whole_eq : preview.body = some (.obj whole))
    (compiles : compile.Compiles) (body_eq : compile.body = some (.obj body))
    (signals : signal.Asks "POST" (.signal slug)) (given_eq : signal.body = some (.obj given))
    (formed : (Json.obj body).WellFormed) (formed' : (Json.obj whole).WellFormed)
    (h : WithHistory body given whole) (flat : (body.at "graph").asObject? = none)
    (finite : (Json.obj body).isFinite)
    (ordered : ∀ t, Strategy.compile (.obj body) = .ok t →
      ∀ n ∈ t.graph.nodes, ∀ kv ∈ n.config, kv.2.sorted = kv.2)
    (answers : run s st [preview, compile, signal] = (st', [r₁, r₂, r₃]))
    (ok : r₁.status = 200 ∧ r₂.status = 200 ∧ r₃.status = 200)
    (returned : r₂.field "slug" = .str slug) :
    ∃ e : Evaluation, ∀ key ∈ reportFields,
      r₁.field key = shown (Json.Object.at e.full key) ∧ r₃.field key = r₁.field key := by
  obtain ⟨ok₁, ok₂, ok₃⟩ := ok
  simp only [run, Prod.mk.injEq, List.cons.injEq, and_true] at answers
  obtain ⟨-, rfl, rfl, rfl⟩ := answers
  -- the preview leaves the store as it was
  obtain ⟨g, history, e, read, evaluate, shownFirst⟩ := eq_of_previews previews whole_eq ok₁
  rw [shownFirst] at ok₂ ok₃ returned ⊢
  dsimp only at ok₂ ok₃ returned ⊢
  -- the strategy is kept under the slug that is returned
  obtain ⟨t, compiled, exported, kept⟩ := eq_of_compiles compiles body_eq ok₂
  rw [kept] at ok₃ returned ⊢
  dsimp only at ok₃ returned ⊢
  have exportable := Strategy.exportable_of_exportText (.compiled formed compiled) exported
  have named : (sent (success (keptFields t))).field "slug" = .str t.slug :=
    field_sent_success rfl _
  have same : slug = t.slug := Json.str.inj (returned.symm.trans named)
  have fetched := Store.fetch_put exportable st
  rw [← same] at fetched
  obtain ⟨history', e', evaluate', shownLast⟩ := eq_of_signal signals given_eq fetched ok₃
  rw [shownLast]
  obtain ⟨hhistory, he⟩ := evaluateFor_eq_ok.mp evaluate
  obtain ⟨hhistory', he'⟩ := evaluateFor_eq_ok.mp evaluate'
  -- both evaluate the same history
  rw [h.requestHistory_eq s, hhistory'] at hhistory
  cases hhistory
  rw [evaluate_stored_eq_preview formed formed' h flat finite read compiled
    (ordered t compiled) (historyJson history), he] at he'
  cases he'
  have others : ∀ key ∈ reportFields, "history" ≠ key ∧ "slug" ≠ key := by decide
  refine ⟨e, fun key field => ?_⟩
  obtain ⟨noHistory, noSlug⟩ := others key field
  rw [field_report field noHistory, field_report field noSlug]
  exact ⟨rfl, rfl⟩

/-! ### An instance -/

/-- A history of three red numbers. -/
def redHistory : Json.Object := [("history", .arr [.int 1, .int 3, .int 5])]

def previewRedRun : Request :=
  ⟨"POST", "/api/estrategias/avaliar", some (.obj (redHistory ++ redRun))⟩

def signalRedRun : Request := ⟨"POST", "/api/estrategias/red-run/sinal", some (.obj redHistory)⟩

theorem withHistory_redRun : WithHistory redRun redHistory (redHistory ++ redRun) where
  elsewhere key other := by
    have ne : "history" ≠ key := by
      rintro rfl
      exact other (by decide)
    rw [redHistory, List.singleton_append, Members.get?_cons, if_neg ne]
  history key field := by
    simp only [historyFields, List.mem_cons, List.not_mem_nil, or_false] at field
    rcases field with rfl | rfl <;> rfl
  only key other := by
    have ne : "history" ≠ key := by
      rintro rfl
      exact other (by decide)
    rw [redHistory, Members.get?_cons, if_neg ne, Members.get?_nil]

/-- A payload is kept if it is compiled and exported, and the name that was there can be read. -/
theorem compile_of_nameAt {t : Strategy} {previous : Json}
    (compiled : Strategy.compile (.obj body) = .ok t) (exportable : t.Exportable)
    (name : st.nameAt t.slug = .ok previous) :
    compile st body = .ok (st.put t t.text, success (keptFields t)) := by
  refine bind_eq_ok.mpr ⟨t, compiled, ?_⟩
  rw [Store.save_of_nameAt exportable name]
  refine bind_eq_ok.mpr ⟨_, rfl, ?_⟩
  rw [exportable.exported]
  rfl

theorem asks_compileRedRun : compileRedRun.Asks "POST" (.strategy "compilar") := by decide +kernel

theorem asks_previewRedRun : previewRedRun.Asks "POST" (.strategy "avaliar") := by decide +kernel

theorem asks_signalRedRun : signalRedRun.Asks "POST" (.signal redRunStrategy.slug) := by
  decide +kernel

theorem handle_compileRedRun : handle {} fresh compileRedRun =
    (fresh.put redRunStrategy redRunStrategy.text, sent (success (keptFields redRunStrategy))) := by
  have kept : compile fresh redRun = _ :=
    compile_of_nameAt compile_redRun Store.exportable_redRunStrategy rfl
  have checked : checkedBody (fun _ => []) .notObject compileRedRun.body = .ok redRun := rfl
  rw [handle_of_asks asks_compileRedRun, serve_compile (by decide +kernel), postCompile, checked,
    withBody, kept]

theorem status_signalRedRun : (handle {} (fresh.put redRunStrategy redRunStrategy.text)
    signalRedRun).2.status = 200 := by
  have fetched := Store.fetch_put Store.exportable_redRunStrategy fresh
  have checked : checkedBody historyIssues .notFields signalRedRun.body = .ok redHistory := rfl
  have evaluated : (evaluateFor {} redRunStrategy.stored.graph redHistory).isOk := by decide +kernel
  obtain ⟨⟨history, e⟩, evaluate⟩ := exists_of_isOk evaluated
  rw [handle_of_asks asks_signalRedRun, status_sent, serve_signal, postSignal, checked, withBody,
    strategySignal, fetched]
  show (respond (evaluateFor {} redRunStrategy.stored.graph redHistory >>= _)).status = 200
  rw [evaluate]
  rfl

theorem wellFormed_redHistory : (Json.obj (redHistory ++ redRun)).WellFormed := by
  have short : ∀ n < 2 ^ 53, (Json.ofNat n).WellFormed := fun n h => .ofNat h
  have spins : (Json.arr [.int 1, .int 3, .int 5]).WellFormed := by
    refine .arr ?_
    simp only [List.forall_mem_cons]
    exact ⟨short 1 (by decide), short 3 (by decide), short 5 (by decide), by simp⟩
  have members := wellFormed_redRun.members
  exact .obj (by decide) (List.forall_mem_append.mpr ⟨List.forall_mem_singleton.mpr spins, members⟩)

theorem signal_eq_preview_redRun : ∃ r₁ r₂ r₃ st',
    run {} fresh [previewRedRun, compileRedRun, signalRedRun] = (st', [r₁, r₂, r₃]) ∧
      (r₁.status = 200 ∧ r₂.status = 200 ∧ r₃.status = 200) ∧
      r₂.field "slug" = .str redRunStrategy.slug ∧
      ∃ e : Evaluation, ∀ key ∈ reportFields,
        r₁.field key = shown (Json.Object.at e.full key) ∧ r₃.field key = r₁.field key := by
  have previews : previewRedRun.Previews := ⟨_, asks_previewRedRun, by decide +kernel⟩
  have compiles : compileRedRun.Compiles := ⟨_, asks_compileRedRun, by decide +kernel⟩
  have ordered : ∀ t, Strategy.compile (.obj redRun) = .ok t →
      ∀ n ∈ t.graph.nodes, ∀ kv ∈ n.config, kv.2.sorted = kv.2 := by
    intro t compiled
    cases compile_redRun.symm.trans compiled
    simp only [redRunStrategy, List.forall_mem_cons]
    exact ⟨⟨rfl, by simp⟩, by simp, by simp⟩
  have preview : (handle {} fresh previewRedRun).2.status = 200 := by decide +kernel
  have unchanged : (handle {} fresh previewRedRun).1 = fresh := by
    obtain ⟨g, history, e, -, -, answer⟩ := eq_of_previews previews rfl preview
    rw [answer]
  have returned : (handle {} fresh compileRedRun).2.field "slug" = .str redRunStrategy.slug := by
    rw [handle_compileRedRun]
    exact field_sent_success rfl _
  have statuses : (handle {} fresh previewRedRun).2.status = 200 ∧
      (handle {} fresh compileRedRun).2.status = 200 ∧
      (handle {} (handle {} fresh compileRedRun).1 signalRedRun).2.status = 200 := by
    refine ⟨preview, ?_, ?_⟩
    · rw [handle_compileRedRun]
      rfl
    · rw [handle_compileRedRun]
      exact status_signalRedRun
  have answers : run {} fresh [previewRedRun, compileRedRun, signalRedRun] =
      ((handle {} (handle {} fresh compileRedRun).1 signalRedRun).1,
        [(handle {} fresh previewRedRun).2, (handle {} fresh compileRedRun).2,
          (handle {} (handle {} fresh compileRedRun).1 signalRedRun).2]) := by
    simp only [run, unchanged]
  exact ⟨_, _, _, _, answers, statuses, returned,
    signal_eq_preview previews rfl compiles rfl asks_signalRedRun rfl wellFormed_redRun
      wellFormed_redHistory withHistory_redRun rfl rfl ordered answers statuses returned⟩

end RouletteStrategy.Service
