import RouletteStrategy.Evaluation.Report
import RouletteStrategy.Proofs.Evaluation.Stored
import RouletteStrategy.Proofs.Strategy.Artifact

/-!
# Export and load

A compiled strategy that is exported can be loaded again: with the same metadata, nodes and
connections, and with the same text when it is exported again. It evaluates as before where its
configurations have sorted keys and finite numbers.
-/

namespace RouletteStrategy

/-- The three reports on an evaluation. -/
def Evaluation.views (e : Evaluation) : Json.Object × Json.Object × Json.Object :=
  (e.check, e.signal, e.full)

/-! ## A strategy that is exported -/

/-- A payload with one condition that is connected to the signal. -/
def redRun : Json.Object :=
  [("name", .str "Red run"),
   ("nodes", .arr [
     .obj [("id", .str "run"), ("type", .str "condition"), ("subtype", .str "repetition"),
       ("config", .obj [("evento", .str "red")])],
     .obj [("id", .str "bet"), ("type", .str "signal")]]),
   ("connections", .arr [.obj [("source", .str "run"), ("target", .str "bet")]])]

/-- The strategy of that payload. -/
def redRunStrategy : Strategy where
  metadata :=
    { name := "Red run"
      description := "Estratégia criada via Builder"
      version := Schema.defaultVersion
      author := "SOFIA Builder"
      category := "dynamic"
      minSpins := .int 10
      maxNumbers := .int 6
      confidenceThreshold := .float (Binary64.ofRatio false 6 10)
      priority := .int 1
      mode := .automatic
      gating := GatingRules.default
      schemaVersion := Schema.currentSchema }
  graph :=
    { name := "Red run"
      description := "Estratégia criada via Builder"
      version := Schema.defaultVersion
      mode := .automatic
      gating := GatingRules.default.toObject
      schemaVersion := Schema.currentSchema
      nodes := [
        ⟨"run", .condition, some "repetition", [("evento", .str "red")], none⟩,
        ⟨"bet", .signal, none, [], none⟩]
      connections := [⟨"run->bet", "run", "bet", .success⟩] }

/-- The text of its artifact. -/
def redRunText : String :=
  let metadata := .obj redRunStrategy.metadata.toObject
  let graph := .obj redRunStrategy.graph.body
  let digest := Sha256.hexDigest (Text.toPlain (Artifact.digestText metadata graph))
  (Artifact.value metadata graph digest).pretty

theorem wellFormed_redRun : (Json.obj redRun).WellFormed := by
  have config : (Json.obj [("evento", .str "red")]).WellFormed :=
    .obj (by decide) (by simpa using .str "red")
  have run : (Json.obj [("id", .str "run"), ("type", .str "condition"),
      ("subtype", .str "repetition"), ("config", .obj [("evento", .str "red")])]).WellFormed := by
    refine .obj (by decide) ?_
    simp only [List.forall_mem_cons]
    exact ⟨.str _, .str _, .str _, config, by simp⟩
  have bet : (Json.obj [("id", .str "bet"), ("type", .str "signal")]).WellFormed := by
    refine .obj (by decide) ?_
    simp only [List.forall_mem_cons]
    exact ⟨.str _, .str _, by simp⟩
  have link : (Json.obj [("source", .str "run"), ("target", .str "bet")]).WellFormed := by
    refine .obj (by decide) ?_
    simp only [List.forall_mem_cons]
    exact ⟨.str _, .str _, by simp⟩
  refine .obj (by decide) ?_
  simp only [redRun, List.forall_mem_cons]
  exact ⟨.str _, .arr (by simpa using ⟨run, bet⟩), .arr (by simpa using link), by simp⟩

theorem compile_redRun : Strategy.compile (.obj redRun) = .ok redRunStrategy := by rfl

theorem exportText_redRun : redRunStrategy.exportText = .ok redRunText := by
  refine Strategy.exportText_eq_ok.mpr
    ⟨?_, _, Artifact.checksum_eq_ok.mpr ⟨by decide, ?_, rfl⟩, rfl⟩
  · simp only [redRunStrategy, List.forall_mem_cons]
    exact ⟨rfl, rfl, by simp⟩
  · simp only [Text.halfRun?, Text.points, Artifact.digestText, Json.canonical, Json.render,
      String.toList_ofList, Artifact.digestBody, redRunStrategy, Metadata.toObject, Graph.body]
    -- sorting does not reduce by itself
    simp only [Members.sorted, GatingRules.toObject, Json.sortedMembers, Json.sorted,
      List.mergeSort, List.length_cons, List.length_nil, Nat.reduceAdd, Nat.reduceDiv,
      List.MergeSort.Internal.splitInTwo, zero_add, List.splitAt_eq, List.take_succ_cons,
      List.take_zero, List.drop_succ_cons, List.drop_zero, List.mergeSort_singleton,
      String.reduceLE, decide_true, List.cons_merge_cons_pos, List.nil_merge, decide_false,
      Bool.false_eq_true, not_false_eq_true, List.cons_merge_cons_neg, List.merge_right,
      List.map_cons, Node.toJson, Json.ofOption, Json.Object.written, Members.overlay, Json.finite,
      List.map_nil, List.foldl_cons, Members.set, List.foldl_nil, Json.sortedItems,
      List.mergeSort_nil, Connection.toJson]
    decide +kernel

namespace Strategy

variable {p : Json} {o : Json.Object} {s : Strategy} {text : String}

/-- What was exported is loaded with the same metadata, slug, nodes and connections but for the
order of keys, and exported as the same text. -/
theorem exportText_roundTrip (formed : p.WellFormed) (h : compile p = .ok s)
    (hexport : s.exportText = .ok text) :
    ∃ t, Artifact.load text = .ok t ∧
      (Json.obj t.metadata.toObject).Alike (.obj s.metadata.toObject) ∧ t.slug = s.slug ∧
      (∃ dump dump', s.graph.writeBody = .ok dump ∧ t.graph.writeBody = .ok dump' ∧
        (Json.obj dump').Alike (.obj dump)) ∧
      t.exportText = .ok text := by
  cases formed with
  | obj distinct members =>
      have hexport' := exportText_stored hexport
      have dump := Graph.writeBody_eq_ok.mpr ⟨(exportText_eq_ok.mp hexport).1, rfl⟩
      have dump' := Graph.writeBody_eq_ok.mpr ⟨(exportText_eq_ok.mp hexport').1, rfl⟩
      exact ⟨s.stored, load_exportText members h hexport, s.alike_metadata, rfl,
        ⟨_, _, dump, dump', s.alike_body⟩, hexport'⟩
  | _ => cases h

theorem exportText_roundTrip_redRun : ∃ t, Artifact.load redRunText = .ok t ∧
    (Json.obj t.metadata.toObject).Alike (.obj redRunStrategy.metadata.toObject) ∧
    t.slug = redRunStrategy.slug ∧
    (∃ dump dump', redRunStrategy.graph.writeBody = .ok dump ∧ t.graph.writeBody = .ok dump' ∧
      (Json.obj dump').Alike (.obj dump)) ∧
    t.exportText = .ok redRunText :=
  exportText_roundTrip wellFormed_redRun compile_redRun exportText_redRun

/-! ## Evaluation -/

/-- Without a graph inside the payload, the graph of a strategy has the mode of the metadata. -/
theorem mode_of_flat (flat : (o.at "graph").asObject? = none) (h : compile (.obj o) = .ok s) :
    s.graph.mode = s.metadata.mode := by
  obtain ⟨forms, -, fields⟩ := fieldsRead_graph h
  have mode : Json.Object.at (s.graphSource o) "selectionMode" = .str s.metadata.mode.name := by
    rw [Json.Object.at, get?_graphSource s o (by decide), Schema.nested?_of_flat flat]
    rfl
  rw [← fields.mode, mode]
  exact SelectionMode.read_name (compileFields_eq_ok.mp h).1.filled.mode _

theorem gating_of_flat (flat : (o.at "graph").asObject? = none) (h : compile (.obj o) = .ok s) :
    s.graph.gating = s.metadata.gating.toObject := by
  obtain ⟨forms, -, fields⟩ := fieldsRead_graph h
  have gating : Json.Object.at (s.graphSource o) "gating" = .obj s.metadata.gating.toObject := by
    rw [Json.Object.at, get?_graphSource s o (by decide), Schema.nested?_of_flat flat]
    rfl
  rw [← fields.gating, gating, Json.members]

theorem steady_config (formed : (Json.obj o).WellFormed) (h : compile (.obj o) = .ok s)
    (configs : ∀ n ∈ s.graph.nodes, ∀ kv ∈ n.config, kv.2.isFinite ∧ kv.2.sorted = kv.2) :
    ∀ n ∈ s.graph.nodes, n.config.Steady := by
  obtain ⟨entries, -, -, read⟩ := compileFields_eq_ok.mp h
  have fields := formed.members.overlay (Metadata.wellFormed_graphFields entries.filled)
  intro n hn
  cases Graph.wellFormed_config fields read n hn with
  | obj distinct _ => exact ⟨distinct, fun kv hkv => (configs n hn kv hkv).1,
      fun kv hkv => (configs n hn kv hkv).2⟩

/-- The stored strategy evaluates as the strategy itself. -/
theorem evaluate_stored (flat : (o.at "graph").asObject? = none) (h : compile (.obj o) = .ok s)
    (steady : ∀ n ∈ s.graph.nodes, n.config.Steady) : s.stored.evaluate = s.evaluate := by
  have graph : s.stored.graph.evaluate = s.graph.withStoredNodes.evaluate := by
    refine Graph.evaluate_congr ?_ (mode_of_flat flat h).symm rfl rfl
    have rules : s.graph.rules = GatingRules.ofObject s.graph.gating := rfl
    exact (rules.trans (congrArg _ (gating_of_flat flat h))).symm
  funext history ctx
  rw [evaluate, evaluate, graph, Graph.evaluate_withStoredNodes steady]

/-- A loaded strategy evaluates every history as the exported one does, with the same errors and the
same reports, if no numbers of the configurations are lost in writing and no keys inside them are
reordered. -/
theorem evaluate_load_exportText (formed : (Json.obj o).WellFormed)
    (flat : (o.at "graph").asObject? = none) (h : compile (.obj o) = .ok s)
    (configs : ∀ n ∈ s.graph.nodes, ∀ kv ∈ n.config, kv.2.isFinite ∧ kv.2.sorted = kv.2)
    (hexport : s.exportText = .ok text) :
    ∃ t, Artifact.load text = .ok t ∧ ∀ history ctx,
      t.evaluate history ctx = s.evaluate history ctx ∧
      (t.evaluate history ctx).map Evaluation.views =
        (s.evaluate history ctx).map Evaluation.views := by
  have evaluate := evaluate_stored flat h (steady_config formed h configs)
  refine ⟨s.stored, load_exportText formed.members h hexport, fun history ctx => ?_⟩
  rw [evaluate]
  exact ⟨rfl, rfl⟩

theorem evaluate_load_exportText_redRun : ∃ t, Artifact.load redRunText = .ok t ∧ ∀ history ctx,
    t.evaluate history ctx = redRunStrategy.evaluate history ctx ∧
    (t.evaluate history ctx).map Evaluation.views =
      (redRunStrategy.evaluate history ctx).map Evaluation.views := by
  refine evaluate_load_exportText wellFormed_redRun rfl compile_redRun ?_ exportText_redRun
  simp only [redRunStrategy, List.forall_mem_cons]
  exact ⟨⟨⟨rfl, rfl⟩, by simp⟩, by simp, by simp⟩

end Strategy
end RouletteStrategy
