import RouletteStrategy.Proofs.Condition.Settings
import RouletteStrategy.Proofs.Evaluation.Evaluate
import RouletteStrategy.Proofs.Graph.Stored

/-!
# Evaluation of graphs that were read back

An evaluation sees the nodes, the connections, the mode and the rules of a graph
(`Graph.evaluate_congr`), and of a configuration only its settings under plain keys.
-/

namespace RouletteStrategy

namespace Graph

variable {g h : Graph}

theorem conditionRecords_congr (nodes : g.nodes = h.nodes) (history : History) :
    g.conditionRecords history = h.conditionRecords history := by
  simp only [conditionRecords, nodesOf, nodes]

theorem conclude_congr (nodes : g.nodes = h.nodes) (connections : g.connections = h.connections) :
    g.conclude = h.conclude := by
  funext history mode rules records
  simp only [conclude, logicResults, logicResult, conditionInputs, hasLogicSource, resolveSignal,
    signalInputs, wiring, sources, incoming, node?, nodesOf, nodes, connections]

/-- The name, the texts and the form of the gating have no influence. -/
theorem evaluate_congr (rules : g.rules = h.rules) (mode : g.mode = h.mode)
    (nodes : g.nodes = h.nodes) (connections : g.connections = h.connections) :
    g.evaluate = h.evaluate := by
  funext history ctx
  simp only [evaluate, evaluateHistory, rules, mode, conditionRecords_congr nodes,
    conclude_congr nodes connections]

/-! ## Nodes that are read back -/

/-- The graph with its nodes as they are read back. -/
def withStoredNodes (g : Graph) : Graph := { g with nodes := g.nodes.map Node.stored }

theorem nodesOf_withStoredNodes (g : Graph) (kind : NodeKind) :
    g.withStoredNodes.nodesOf kind = (g.nodesOf kind).map Node.stored := by
  simp only [nodesOf, withStoredNodes, List.filter_map]
  rfl

theorem node?_withStoredNodes (g : Graph) (id : String) :
    g.withStoredNodes.node? id = (g.node? id).map Node.stored := by
  simp only [node?, withStoredNodes, ← List.map_reverse, List.find?_map]
  rfl

theorem sources_withStoredNodes (g : Graph) (id : String) :
    g.withStoredNodes.sources id = (g.sources id).map Node.stored := by
  have incoming : g.withStoredNodes.incoming id = g.incoming id := rfl
  simp only [sources, incoming, node?_withStoredNodes, List.map_filterMap]

theorem conditionInputs_withStoredNodes (g : Graph) (conditions : Verdicts) (id : String) :
    g.withStoredNodes.conditionInputs conditions id = g.conditionInputs conditions id := by
  simp only [conditionInputs, sources_withStoredNodes, List.filter_map, List.map_map]
  rfl

theorem hasLogicSource_withStoredNodes (g : Graph) (id : String) :
    g.withStoredNodes.hasLogicSource id = g.hasLogicSource id := by
  simp only [hasLogicSource, sources_withStoredNodes, List.any_map]
  rfl

theorem signalInputs_withStoredNodes (g : Graph) (conditions logic : Verdicts) (id : String) :
    g.withStoredNodes.signalInputs conditions logic id = g.signalInputs conditions logic id := by
  simp only [signalInputs, sources_withStoredNodes, List.filterMap_map]
  rfl

theorem resolveSignal_withStoredNodes (g : Graph) (conditions logic : Verdicts) :
    g.withStoredNodes.resolveSignal conditions logic =
      { g.resolveSignal conditions logic with
        node := (g.resolveSignal conditions logic).node.map Node.stored } := by
  have active : ((fun n : Node => (g.signalInputs conditions logic n.id).any id) ∘ Node.stored) =
      fun n => (g.signalInputs conditions logic n.id).any id := rfl
  simp only [resolveSignal, nodesOf_withStoredNodes, signalInputs_withStoredNodes, List.find?_map,
    active]
  cases (g.nodesOf .signal).find? fun n => (g.signalInputs conditions logic n.id).any id with
  | none => simp [List.head?_map]
  | some n => rfl

theorem wiring_withStoredNodes (g : Graph) : g.withStoredNodes.wiring = g.wiring := by
  have connections : g.withStoredNodes.connections = g.connections := rfl
  have length : g.withStoredNodes.nodes.length = g.nodes.length := List.length_map _
  simp only [wiring, nodesOf_withStoredNodes, node?_withStoredNodes, connections, length,
    List.length_map, List.map_map, Option.isSome_map]
  rfl

end Graph

namespace Node

theorem agree_stored {n : Node} (steady : n.config.Steady) :
    Config.Agree (.obj n.stored.config) (.obj n.config) := by
  intro key plain
  simp only [Config.lookup?, stored, steady.get?_stored plain]

theorem at_stored {n : Node} (steady : n.config.Steady) {key : String}
    (plain : Text.Utf8.Plain key) : n.stored.config.at key = n.config.at key := by
  simp only [Json.Object.at, stored, steady.get?_stored plain]

theorem operator_stored {n : Node} (steady : n.config.Steady) : n.stored.operator = n.operator := by
  have plain : Text.Utf8.Plain "operador" ∧ Text.Utf8.Plain "operator" := by decide
  simp only [operator, at_stored steady plain.1, at_stored steady plain.2]

theorem manualNumbers_stored {n : Node} (steady : n.config.Steady) :
    n.stored.manualNumbers = n.manualNumbers := by
  have plain : Text.Utf8.Plain "numeros" ∧ Text.Utf8.Plain "numbers" := by decide
  have given : Members.get? n.stored.config "numeros" = Members.get? n.config "numeros" :=
    steady.get?_stored plain.1
  simp only [manualNumbers, given, at_stored steady plain.2]

end Node

namespace Graph

variable {g : Graph} (steady : ∀ n ∈ g.nodes, n.config.Steady)
include steady

theorem conditionRecords_withStoredNodes (history : History) :
    g.withStoredNodes.conditionRecords history = g.conditionRecords history := by
  rw [conditionRecords, conditionRecords, nodesOf_withStoredNodes, List.mapM_map]
  refine mapM_congr fun n hn => ?_
  have condition := Condition.read_congr (Node.agree_stored (steady n (List.mem_of_mem_filter hn)))
  have id : n.stored.id = n.id := rfl
  have subtype : n.stored.subtype = n.subtype := rfl
  simp only [Function.comp_apply, id, subtype, condition]

theorem logicResults_withStoredNodes (conditions : Verdicts) :
    g.withStoredNodes.logicResults conditions = g.logicResults conditions := by
  rw [logicResults, logicResults, nodesOf_withStoredNodes, List.foldl_map]
  refine List.foldl_ext _ _ _ fun results n hn => ?_
  have operator := Node.operator_stored (steady n (List.mem_of_mem_filter hn))
  have result : g.withStoredNodes.logicResult conditions n.stored = g.logicResult conditions n := by
    simp only [logicResult, operator, conditionInputs_withStoredNodes,
      hasLogicSource_withStoredNodes]
    rfl
  rw [result]
  rfl

/-- The numbers set by hand at the signal in charge. -/
theorem manualNumbers_resolveSignal (conditions logic : Verdicts) :
    ((g.resolveSignal conditions logic).node.map Node.stored).map Node.manualNumbers =
      (g.resolveSignal conditions logic).node.map Node.manualNumbers := by
  rw [Option.map_map]
  refine Option.map_congr fun n hn => Node.manualNumbers_stored (steady n ?_)
  exact (mem_nodesOf.mp (mem_nodesOf_of_resolveSignal hn)).1

theorem conclude_withStoredNodes : g.withStoredNodes.conclude = g.conclude := by
  funext history mode rules records
  have manual := manualNumbers_resolveSignal steady
  simp only [conclude, logicResults_withStoredNodes steady, resolveSignal_withStoredNodes,
    wiring_withStoredNodes, Signal.manualNumbers, manual, Option.map_map]
  rfl

theorem evaluate_withStoredNodes : g.withStoredNodes.evaluate = g.evaluate := by
  funext history ctx
  have rules : g.withStoredNodes.rules = g.rules := rfl
  have mode : g.withStoredNodes.mode = g.mode := rfl
  simp only [evaluate, evaluateHistory, rules, mode, conditionRecords_withStoredNodes steady,
    conclude_withStoredNodes steady]

end Graph
end RouletteStrategy
