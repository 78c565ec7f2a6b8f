import RouletteStrategy.Proofs.Condition.NoSpins
import RouletteStrategy.Proofs.Evaluation.Activation
import RouletteStrategy.Proofs.Evaluation.Bounds

/-!
# Evaluations without an active signal

A signal stays inactive where no condition matches, for only a negation holds by itself
(`Graph.not_holds`). Without spins that leaves windows over the length of the history that begin at
zero, and negations of conditions (`Graph.inactive_evaluate`).
-/

namespace RouletteStrategy

/-- Without an active signal there are no numbers. -/
structure Evaluation.Inactive (e : Evaluation) : Prop where
  signalActive : e.trace.signalActive = false
  numbers : e.numbers = []
  shouldActivate : e.shouldActivate = false

/-- A conjunction or disjunction of false inputs is false. -/
theorem Operator.combine_eq_false {op : Operator} {bs : List Bool} (positive : op ≠ .not ∨ bs = [])
    (silent : ∀ b ∈ bs, b = false) : op.combine bs = false := by
  cases bs with
  | nil => rfl
  | cons b bs =>
      have affirms : op ≠ .not := positive.resolve_right (List.cons_ne_nil b bs)
      obtain ⟨rfl, rest⟩ := List.forall_mem_cons.mp silent
      cases op with
      | and => rfl
      | or => simpa [combine] using rest
      | not => exact absurd rfl affirms

namespace Node

variable {n : Node}

/-- Without spins a condition that matches is a window over the length of the history. -/
theorem passes_nil_iff : n.passes [] ↔ ∃ w,
    Condition.read (n.subtype.getD "") (.obj n.config) = .ok (.timeWindow w) ∧ w.first = 0 := by
  unfold passes outcome
  split
  next c read =>
    rw [Condition.passed_nil_iff (Condition.inBounds_read read)]
    simp only [read, Except.ok.injEq]
  next e failed =>
    simp [failed]

/-- A time window comes from a subtype of that kind. -/
theorem kind_of_read_timeWindow {w : Condition.TimeWindow}
    (h : Condition.read (n.subtype.getD "") (.obj n.config) = .ok (.timeWindow w)) :
    Condition.Kind.ofSubtype (n.subtype.getD "") = .timeWindow :=
  (Condition.kind_read h).symm

end Node

namespace Graph

variable {g : Graph} {spins : History} {n : Node}

/-- A graph whose negations have no conditions to negate. -/
def Affirmative (g : Graph) : Prop :=
  ∀ n ∈ g.nodesOf .logic, n.operator = .not → g.conditionSources n.id = []

/-- Where no condition matches and none is negated, nothing holds. -/
theorem not_holds (affirmative : g.Affirmative)
    (silent : ∀ n ∈ g.nodesOf .condition, n.passes spins = false) (hn : n ∈ g.nodes) :
    ¬g.Holds spins n := by
  intro holds
  cases holds with
  | condition kind passes =>
      exact Bool.false_ne_true ((silent n (mem_nodesOf.mpr ⟨hn, kind⟩)).symm.trans passes)
  | logic kind flat combined =>
      -- only a negation makes something true of inputs that are false
      have positive : n.operator ≠ .not ∨ (g.conditionSources n.id).map (·.passes spins) = [] := by
        by_cases negation : n.operator = .not
        · have bare := affirmative n (mem_nodesOf.mpr ⟨hn, kind⟩) negation
          exact .inr (by rw [bare, List.map_nil])
        · exact .inl negation
      have off := Operator.combine_eq_false positive ?_
      · exact Bool.false_ne_true (off.symm.trans combined)
      · refine List.forall_mem_map.mpr fun m hm => ?_
        obtain ⟨source, kind⟩ := mem_conditionSources.mp hm
        exact silent m (mem_nodesOf.mpr ⟨mem_nodes_of_mem_sources source, kind⟩)

/-- A signal that no node reaches is not active, and nothing is selected. -/
theorem inactive_of_not_reached (valid : g.Valid) {e : Evaluation} {t : Terms}
    (he : e.Concluded g t) (h : ∀ s ∈ g.nodesOf .signal, ¬g.Reached t.spins s) : e.Inactive := by
  have off : e.trace.signalActive = false := by
    rw [he.signalActive, ← Bool.not_eq_true, valid.active_signalAt_iff]
    rintro ⟨s, hs, reached⟩
    exact h s hs reached
  have none : e.numbers = [] := by
    have selected := he.selection
    rw [off] at selected
    exact (congrArg Gating.Selection.numbers selected).symm
  refine ⟨off, none, ?_⟩
  rw [Evaluation.shouldActivate, none]
  rfl

theorem inactive_of_silent (valid : g.Valid) {e : Evaluation} {t : Terms} (he : e.Concluded g t)
    (affirmative : g.Affirmative)
    (silent : ∀ n ∈ g.nodesOf .condition, n.passes t.spins = false) : e.Inactive := by
  refine inactive_of_not_reached valid he fun s hs => ?_
  rintro ⟨n, hn, -, holds⟩
  exact not_holds affirmative silent hn holds

variable {history ctx p : Json} {e : Evaluation} {origin : Pairs.Origin}

/-- Without spins no condition matches and the signal is inactive, in a graph without windows over
the length of the history and without negations. -/
theorem inactive_evaluate (hread : readFrom origin p = .ok g)
    (noWindow : ∀ n ∈ g.nodesOf .condition,
      Condition.Kind.ofSubtype (n.subtype.getD "") ≠ .timeWindow)
    (noNegation : ∀ n ∈ g.nodesOf .logic, n.operator ≠ .not)
    (noSpins : History.read history = .ok []) (h : g.evaluate history ctx = .ok e) :
    (e.trace.records.map (·.nodeId) = (g.nodesOf .condition).map (·.id) ∧
      ∀ r ∈ e.trace.records, r.outcome.passed = false) ∧ e.Inactive := by
  have valid := valid_of_readFrom hread
  obtain ⟨t, hterms, he⟩ := concluded_of_evaluate valid h
  obtain ⟨-, -, hspins, -⟩ := terms_eq_ok.mp hterms
  have empty : t.spins = [] := Except.ok.inj (hspins.symm.trans noSpins)
  have silent : ∀ n ∈ g.nodesOf .condition, n.passes t.spins = false := by
    intro n hn
    rw [empty, ← Bool.not_eq_true, Node.passes_nil_iff]
    rintro ⟨w, read, -⟩
    exact noWindow n hn (Node.kind_of_read_timeWindow read)
  refine ⟨⟨?_, ?_⟩, ?_⟩
  · rw [he.records, List.map_map]
    rfl
  · rw [he.records]
    exact List.forall_mem_map.mpr silent
  · refine inactive_of_silent valid he (fun n hn negation => ?_) silent
    exact absurd negation (noNegation n hn)

/-- Conditions that next to any spin matches, a disjunction of them and numbers set by hand. -/
def eagerRun : Json.Object :=
  let condition (id subtype : String) (config : Json.Object) : Json :=
    .obj [("id", .str id), ("type", .str "condition"), ("subtype", .str subtype),
      ("config", .obj config)]
  [("nodes", .arr [
     condition "near" "neighbors" [("numero", .int 17), ("raio", .int 99)],
     condition "sector" "sector" [("auto", .bool true), ("minRatio", .int (-1))],
     condition "pair" "sequence" [("sequencia", .arr [.int 1, .int 2]), ("tolerancia", .int 2)],
     condition "red" "absence" [("spins", .int 0)],
     .obj [("id", .str "any"), ("type", .str "logic"), ("config", .obj [("operator", .str "or")])],
     .obj [("id", .str "bet"), ("type", .str "signal"),
       ("config", .obj [("numbers", .arr [.int 5, .int 7])])]]),
   ("connections", .arr [
     .obj [("source", .str "near"), ("target", .str "any")],
     .obj [("source", .str "sector"), ("target", .str "any")],
     .obj [("source", .str "pair"), ("target", .str "any")],
     .obj [("source", .str "red"), ("target", .str "any")],
     .obj [("source", .str "any"), ("target", .str "bet")]])]

/-- None of these is a spin. -/
def noTokens : Json := .arr [.null, .str " ", .int 37, .obj [("value", .bool true)]]

theorem inactive_evaluate_eagerRun : ∃ g e, Graph.read (.obj eagerRun) = .ok g ∧
    g.evaluate noTokens (.obj [("selectionMode", .str "hybrid")]) = .ok e ∧
    e.trace.mode = .hybrid ∧ e.trace.manualNumbers = [5, 7] ∧
    (e.trace.records.map (·.nodeId) = (g.nodesOf .condition).map (·.id) ∧
      ∀ r ∈ e.trace.records, r.outcome.passed = false) ∧ e.Inactive := by
  have accepted : (Graph.read (.obj eagerRun) >>= fun g =>
      (g.evaluate noTokens (.obj [("selectionMode", .str "hybrid")])).map fun e =>
        (e.trace.mode, e.trace.manualNumbers, decide ((∀ n ∈ g.nodesOf .condition,
          Condition.Kind.ofSubtype (n.subtype.getD "") ≠ .timeWindow) ∧
          ∀ n ∈ g.nodesOf .logic, n.operator ≠ .not))) = .ok (.hybrid, [5, 7], true) := by rfl
  obtain ⟨g, hread, h⟩ := bind_eq_ok.mp accepted
  obtain ⟨e, h, told⟩ := map_eq_ok.mp h
  obtain ⟨mode, told⟩ := Prod.mk.inj told
  obtain ⟨manual, told⟩ := Prod.mk.inj told
  obtain ⟨noWindow, noNegation⟩ := of_decide_eq_true told
  exact ⟨g, e, hread, h, mode, manual, inactive_evaluate hread noWindow noNegation rfl h⟩

end Graph
end RouletteStrategy
