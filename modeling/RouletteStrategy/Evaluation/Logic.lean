import RouletteStrategy.Graph.Basic

/-!
# Logic and signal nodes

A logic node combines the conditions connected to it. It does not combine other logic nodes: one
that has such a source is false. A signal is active when a condition or logic node connected to
it is true.
-/

namespace RouletteStrategy

/-- Nothing follows from no inputs, and a negation looks at the first input only. -/
def Operator.combine : Operator → List Bool → Bool
  | _, [] => false
  | .and, bs => bs.all id
  | .or, bs => bs.any id
  | .not, b :: _ => !b

/-- Truth values of nodes by their ids; a node without one is false. -/
abbrev Verdicts := Members Bool

def Verdicts.of (vs : Verdicts) (id : String) : Bool := (vs.get? id).getD false

structure LogicResult where
  nodeId : String
  operator : Operator
  inputs : List Bool
  result : Bool
  /-- Whether another logic node is connected to the node. -/
  nested : Bool
deriving DecidableEq, Repr

def LogicResult.toJson (r : LogicResult) : Json :=
  .obj ([("nodeId", .str r.nodeId), ("operator", .str r.operator.name),
    ("inputs", .ofBools r.inputs), ("result", .bool r.result)] ++
    if r.nested then [("nestedLogic", .bool true)] else [])

/-- The signal node in charge: the first active one, or else the first one. -/
structure Signal where
  active : Bool
  node : Option Node
  inputs : List Bool

def Signal.manualNumbers (s : Signal) : List Int := (s.node.map Node.manualNumbers).getD []

namespace Graph

/-- The verdicts on the conditions connected to a node, in order of the connections. -/
def conditionInputs (g : Graph) (conditions : Verdicts) (id : String) : List Bool :=
  ((g.sources id).filter (·.kind == .condition)).map fun n => conditions.of n.id

def hasLogicSource (g : Graph) (id : String) : Bool := (g.sources id).any (·.kind == .logic)

def logicResult (g : Graph) (conditions : Verdicts) (n : Node) : LogicResult :=
  let inputs := g.conditionInputs conditions n.id
  let nested := g.hasLogicSource n.id
  ⟨n.id, n.operator, inputs, !nested && n.operator.combine inputs, nested⟩

/-- The results of the logic nodes by their ids, in node order. -/
def logicResults (g : Graph) (conditions : Verdicts) : Members LogicResult :=
  (g.nodesOf .logic).foldl (fun rs n => rs.set n.id (g.logicResult conditions n)) []

def logicVerdicts (rs : Members LogicResult) : Verdicts := rs.map fun kr => (kr.1, kr.2.result)

/-- The verdicts on the conditions and logic nodes connected to a signal. -/
def signalInputs (g : Graph) (conditions logic : Verdicts) (id : String) : List Bool :=
  (g.sources id).filterMap fun n =>
    match n.kind with
    | .condition => some (conditions.of n.id)
    | .logic => some (logic.of n.id)
    | .trigger | .signal => none

def resolveSignal (g : Graph) (conditions logic : Verdicts) : Signal :=
  let signals := g.nodesOf .signal
  match signals.find? fun n => (g.signalInputs conditions logic n.id).any id with
  | some n => ⟨true, some n, g.signalInputs conditions logic n.id⟩
  | none => ⟨false, signals.head?, []⟩

end Graph
end RouletteStrategy
