import RouletteStrategy.Proofs.Condition.Contribution
import RouletteStrategy.Proofs.Evaluation.Inactive
import RouletteStrategy.Proofs.Gating.Merging

/-!
# Evaluations that give a result

On any list of spins and with any overrides an evaluation gives a result, unless it has to read an
integer beyond every float as a number (`Graph.failsIff_evaluate`). Settings out of bounds are moved
to the nearest bound and settings of another kind give way to defaults, kinds of conditions that are
not known match nothing, and without a signal or without spins there are no numbers
(`Graph.exists_evaluate`).
-/

namespace RouletteStrategy

namespace Graph

variable {g : Graph} {spins : History}

/-- A rule of the graph, a rule in force or a setting of a condition that is read as a number is an
integer beyond every float. -/
inductive HasHugeNumber (g : Graph) (overrides : Json.Object) : Prop where
  | own (h : GatingRules.HasHugeCount g.gating)
  | given (h : GatingRules.HasHugeCount (GatingRules.given g.gating overrides))
  | setting (h : ∃ n ∈ g.nodesOf .condition, n.HasHugeSetting)

theorem failsIff_evaluateHistory (g : Graph) (spins : History) (ctx : Context) :
    FailsIff .numberTooLarge (g.HasHugeNumber ctx.gating) (g.evaluateHistory spins ctx) := by
  have rules : FailsIff .numberTooLarge (GatingRules.HasHugeCount g.gating) g.rules :=
    GatingRules.failsIff_ofObject g.gating
  have merged : ∀ own, g.rules = .ok own → FailsIff .numberTooLarge
      (GatingRules.HasHugeCount (GatingRules.given g.gating ctx.gating))
      (own.merge ctx.gating) := by
    intro own read
    rw [GatingRules.merge_eq_ofObject read]
    exact GatingRules.failsIff_ofObject _
  refine (rules.bind fun own read => (merged own read).bind fun rules _ =>
    (g.failsIff_conditionRecords spins).bind fun records _ => FailsIff.ok _).congr ?_
  rw [or_false]
  constructor
  · rintro (own | given | setting)
    · exact .own own
    · exact .given given
    · exact .setting setting
  · intro huge
    cases huge with
    | own h => exact .inl h
    | given h => exact .inr (.inl h)
    | setting h => exact .inr (.inr h)

end Graph

/-! ## What is made of settings -/

/-- What an evaluation records of a condition node. Its settings give a condition with its numbers
in bounds, any of them read as the nearest number within bounds or as a default. -/
structure Node.Judged (n : Node) (spins : History) (r : ConditionRecord) : Prop where
  id : r.nodeId = n.id
  outcome : ∃ c, Condition.read (n.subtype.getD "") (.obj n.config) = .ok c ∧ c.InBounds ∧
    r.outcome = c.evaluate spins
  counts : ∀ names default low high k, low ≤ high →
    Config.count (.obj n.config) names default low high = .ok k →
    (n.config.setting names).Clamped low high default k
  shares : ∀ names default x, Config.share (.obj n.config) names default = .ok x →
    (n.config.setting names).ClampedShare default x
  unknown : Condition.Kind.ofSubtype (n.subtype.getD "") = .unknown → r.outcome.passed = false

theorem Node.judged_record {n : Node} (small : ¬n.HasHugeSetting) (spins : History) :
    n.Judged spins (n.record spins) := by
  obtain ⟨c, read⟩ := (Condition.reads_read n.config (n.subtype.getD "")).fails.exists_ok small
  have outcome : (n.record spins).outcome = c.evaluate spins := by
    rw [Node.record, Node.outcome, read]
  refine ⟨rfl, ⟨c, read, Condition.inBounds_read read, outcome⟩, ?_, ?_, fun unknown => ?_⟩
  · intro names default low high k bounds h
    exact Config.clamped_of_count bounds h
  · intro names default x h
    exact Config.clampedShare_of_share h
  · rw [outcome]
    exact Condition.passed_of_unknown read unknown spins

/-- What an evaluation makes of the rules and overrides, of the settings of conditions, and of a
graph without a signal or a history without spins. -/
structure Evaluation.Tolerant (g : Graph) (overrides : Json.Object) (spins : History)
    (e : Evaluation) : Prop where
  rules : e.trace.applied.rules.EntriesRead (GatingRules.given g.gating overrides)
  records : List.Forall₂ (Node.Judged · spins) (g.nodesOf .condition) e.trace.records
  noSignal : g.nodesOf .signal = [] → e.Inactive
  noSpins : spins = [] → (∀ n ∈ g.nodesOf .condition, ∀ w,
    Condition.read (n.subtype.getD "") (.obj n.config) = .ok (.timeWindow w) → w.first ≠ 0) →
    g.Affirmative → e.Inactive

namespace Graph

variable {g : Graph} {p : Json} {origin : Pairs.Origin}

theorem tolerant_of_concluded (valid : g.Valid) {overrides : Json.Object} {e : Evaluation}
    {t : Terms} (he : e.Concluded g t) (small : ¬g.HasHugeNumber overrides)
    (rules : GatingRules.ofObject (GatingRules.given g.gating overrides) = .ok t.rules) :
    e.Tolerant g overrides t.spins := by
  constructor
  case rules =>
    have applied := congrArg (·.applied.rules) he.selection
    rw [← applied.symm.trans Gating.rules_applied_select] at rules
    exact GatingRules.entriesRead_ofObject rules
  case records =>
    rw [he.records, List.forall₂_map_right_iff, List.forall₂_same]
    intro n hn
    exact n.judged_record (fun huge => small (.setting ⟨n, hn, huge⟩)) t.spins
  case noSignal =>
    intro none
    refine inactive_of_not_reached valid he fun s hs => ?_
    rw [none] at hs
    cases hs
  case noSpins =>
    intro empty later affirmative
    refine inactive_of_silent valid he affirmative fun n hn => ?_
    rw [empty, ← Bool.not_eq_true, Node.passes_nil_iff]
    rintro ⟨w, read, first⟩
    exact later n hn w read first

/-- On any list of spins, with any overrides, an evaluation gives a result, unless it has to read an
integer beyond every float as a number. -/
theorem exists_evaluate (hread : readFrom origin p = .ok g) (spins : Option (List Json))
    (ctx : Option Json.Object) (small : ¬g.HasHugeNumber ((ctx.getD []).at "gating").members) :
    ∃ tokens e, History.read (.ofOption .arr spins) = .ok tokens ∧
      g.evaluate (.ofOption .arr spins) (.ofOption .obj ctx) = .ok e ∧
      e.Tolerant g ((ctx.getD []).at "gating").members tokens := by
  have hspins : History.read (.ofOption .arr spins) =
      .ok ((spins.getD []).filterMap Token.read?) := by
    cases spins <;> rfl
  have hctx : Context.read (.ofOption .obj ctx) = .ok (.ofObject (ctx.getD [])) := by
    cases ctx <;> rfl
  have parts : g.evaluate (.ofOption .arr spins) (.ofOption .obj ctx) =
      g.evaluateHistory ((spins.getD []).filterMap Token.read?) (.ofObject (ctx.getD [])) := by
    rw [evaluate, hspins, hctx]
    rfl
  obtain ⟨e, h⟩ := (g.failsIff_evaluateHistory _ (.ofObject (ctx.getD []))).exists_ok small
  have valid := valid_of_readFrom hread
  obtain ⟨t, hterms, he⟩ := concluded_of_evaluate valid (parts.trans h)
  obtain ⟨overrides, own, tokens, hoverrides, hown, merged, -⟩ := terms_eq_ok.mp hterms
  cases hctx.symm.trans hoverrides
  rw [GatingRules.merge_eq_ofObject hown] at merged
  exact ⟨t.spins, e, tokens, parts.trans h, tolerant_of_concluded valid he small merged⟩

/-- Rules and settings out of bounds or of another kind than a number, and a kind of condition that
is not known. -/
def strayRun : Json.Object :=
  [("gating", .obj [("maxNumbersAuto", .int 99), ("maxNumbersHybrid", .str "many"),
     ("minManualHybrid", .arr [])]),
   ("nodes", .arr [
     .obj [("id", .str "red"), ("type", .str "condition"), ("subtype", .str "repetition"),
       ("config", .obj [("evento", .str "red"), ("ocorrencias", .int (-3))])],
     .obj [("id", .str "share"), ("type", .str "condition"), ("subtype", .str "trend"),
       ("config", .obj [("janela", .bool true), ("frequenciaMinima", .int 7)])],
     .obj [("id", .str "moon"), ("type", .str "condition"), ("subtype", .str "moon-phase")],
     .obj [("id", .str "bet"), ("type", .str "signal")]]),
   ("connections", .arr [.obj [("source", .str "red"), ("target", .str "bet")]])]

def straySpins : List Json := [.null, .int 99, .obj [("value", .str "7")], .str "Red"]

def strayOverrides : Json.Object :=
  [("gating", .obj [("maxNumbersAuto", .null), ("minManualHybrid", .int 0)])]

theorem exists_evaluate_strayRun : ∃ g, Graph.read (.obj strayRun) = .ok g ∧
    ¬g.HasHugeNumber (strayOverrides.at "gating").members ∧
    ∃ tokens e, History.read (.arr straySpins) = .ok tokens ∧
      g.evaluate (.arr straySpins) (.obj strayOverrides) = .ok e ∧
      e.Tolerant g (strayOverrides.at "gating").members tokens := by
  have accepted : (Graph.read (.obj strayRun) >>= fun g =>
      (g.evaluateHistory [] (.ofObject strayOverrides)).map (·.numbers)) = .ok [] := by rfl
  obtain ⟨g, hread, h⟩ := bind_eq_ok.mp accepted
  obtain ⟨e, h, -⟩ := map_eq_ok.mp h
  -- a run on no spins reads the same numbers, and it gave a result
  have small : ¬g.HasHugeNumber (strayOverrides.at "gating").members := fun huge =>
    nomatch h.symm.trans ((g.failsIff_evaluateHistory _ _ _).mpr ⟨rfl, huge⟩)
  exact ⟨g, hread, small, exists_evaluate hread (some straySpins) (some strayOverrides) small⟩

/-- A window over the length of the history that begins at zero, and numbers set by hand. -/
def openingRun : Json.Object :=
  [("nodes", .arr [
     .obj [("id", .str "opening"), ("type", .str "condition"), ("subtype", .str "time-window"),
       ("config", .obj [("inicio", .int 0), ("fim", .int 10)])],
     .obj [("id", .str "bet"), ("type", .str "signal"),
       ("config", .obj [("numbers", .arr [.int 5, .int 7])])]]),
   ("connections", .arr [.obj [("source", .str "opening"), ("target", .str "bet")]])]

/-- An empty history lies within that window. -/
theorem active_openingRun : ∃ g e, Graph.read (.obj openingRun) = .ok g ∧
    History.read (.arr []) = .ok [] ∧
    g.evaluate (.arr []) (.obj [("selectionMode", .str "manual")]) = .ok e ∧
    e.trace.signalActive = true ∧ e.numbers = [5, 7] ∧ ¬e.Inactive := by
  have accepted : (Graph.read (.obj openingRun) >>= fun g =>
      (g.evaluate (.arr []) (.obj [("selectionMode", .str "manual")])).map fun e =>
        (e.trace.signalActive, e.numbers)) = .ok (true, [5, 7]) := by rfl
  obtain ⟨g, hread, h⟩ := bind_eq_ok.mp accepted
  obtain ⟨e, h, told⟩ := map_eq_ok.mp h
  obtain ⟨active, numbers⟩ := Prod.mk.inj told
  exact ⟨g, e, hread, rfl, h, active, numbers,
    fun off => Bool.false_ne_true (off.signalActive.symm.trans active)⟩

end Graph
end RouletteStrategy
