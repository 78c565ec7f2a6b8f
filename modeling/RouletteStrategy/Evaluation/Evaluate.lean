import RouletteStrategy.Condition.Evaluate
import RouletteStrategy.Evaluation.Logic
import RouletteStrategy.Gating.Selection

/-!
# Evaluation of a graph against a history

Conditions are evaluated first, then logic, the signal and the selection of numbers. The trace
records what each step used.
-/

namespace RouletteStrategy

/-- What a caller may override: the selection mode and gating rules. -/
structure Context where
  mode : Json
  gating : Json.Object

def Context.ofObject (o : Json.Object) : Context := ⟨o.at "selectionMode", (o.at "gating").members⟩

def Context.read (v : Json) : Except Error Context := Context.ofObject <$> GatingRules.objectIn v

/-- The outcome of the condition at a node. -/
structure ConditionRecord where
  nodeId : String
  subtype : Option String
  outcome : Condition.Outcome

/-- The numbers that a condition contributed. -/
structure Contribution where
  nodeId : String
  kind : Condition.Kind
  reason : String
  numbers : List Int
  params : Json.Object

/-- A condition contributes if it matched and has numbers to contribute. -/
def ConditionRecord.contribution? (r : ConditionRecord) : Option Contribution :=
  if r.outcome.passed && !r.outcome.numbers.isEmpty then
    some ⟨r.nodeId, Condition.Kind.ofSubtype (r.subtype.getD ""), r.outcome.reason,
      r.outcome.numbers, r.outcome.params⟩
  else none

/-- Counts of nodes and connections, and the ids connected to signals. -/
structure Wiring where
  nodes : Nat
  connections : Nat
  conditions : Nat
  logic : Nat
  signals : Nat
  signalInputs : List String
deriving DecidableEq, Repr

def Graph.wiring (g : Graph) : Wiring :=
  let signals := ((g.nodesOf .signal).map (·.id)).eraseDups
  { nodes := g.nodes.length
    connections := g.connections.length
    conditions := (g.nodesOf .condition).length
    logic := (g.nodesOf .logic).length
    signals := signals.length
    signalInputs :=
      ((g.connections.filter fun c => signals.contains c.target && (g.node? c.source).isSome).map
        (·.source)).mergeSort fun a b => decide (a ≤ b) }

structure Trace where
  mode : SelectionMode
  records : List ConditionRecord
  logic : List LogicResult
  contributions : List Contribution
  applied : Gating.Applied
  historyLength : Nat
  lastNumber : Option Int
  manualNumbers : List Int
  signalNode : Option String
  signalActive : Bool
  signalInputs : List Bool
  wiring : Wiring
  derivedCount : Nat

structure Evaluation where
  numbers : List Int
  derived : List Int
  halted : Bool
  trace : Trace

namespace Evaluation

def shouldActivate (e : Evaluation) : Bool := !e.numbers.isEmpty

/-- Confidence in a strategy that gives numbers. -/
def activeConfidence : Binary64 := Binary64.ofRatio false 8 10

/-- Confidence in a strategy that gives none. -/
def inactiveConfidence : Binary64 := Binary64.ofRatio false 1 10

def confidence (e : Evaluation) : Binary64 :=
  if e.shouldActivate then activeConfidence else inactiveConfidence

def reason (e : Evaluation) : String :=
  if e.shouldActivate then "Lógica satisfeita"
  else if e.halted then "Mínimo de números manuais não atingido"
  else "Lógica não satisfeita"

end Evaluation

namespace Graph

/-- The outcome of every condition node, in node order. -/
def conditionRecords (g : Graph) (h : History) : Except Error (List ConditionRecord) :=
  (g.nodesOf .condition).mapM fun n => do
    let c ← Condition.read (n.subtype.getD "") (.obj n.config)
    return ⟨n.id, n.subtype, c.evaluate h⟩

def verdicts (rs : List ConditionRecord) : Verdicts :=
  rs.foldl (fun vs r => vs.set r.nodeId r.outcome.passed) []

/-- The evaluation once the conditions are known. -/
def conclude (g : Graph) (h : History) (mode : SelectionMode) (rules : GatingRules)
    (records : List ConditionRecord) : Evaluation :=
  let conditions := verdicts records
  let logic := g.logicResults conditions
  let signal := g.resolveSignal conditions (logicVerdicts logic)
  let contributions := records.filterMap ConditionRecord.contribution?
  let derived := Wheel.normalize (contributions.flatMap (·.numbers))
  let selection :=
    Gating.select derived signal.manualNumbers mode rules signal.active h.lastNumber?
  { numbers := selection.numbers
    derived := derived
    halted := selection.halted
    trace :=
      { mode := mode
        records := records
        logic := logic.map (·.2)
        contributions := contributions
        applied := selection.applied
        historyLength := h.length
        lastNumber := h.lastNumber?
        manualNumbers := signal.manualNumbers
        signalNode := signal.node.map (·.id)
        signalActive := signal.active
        signalInputs := signal.inputs
        wiring := g.wiring
        derivedCount := derived.length } }

def evaluateHistory (g : Graph) (h : History) (ctx : Context) : Except Error Evaluation := do
  let rules ← (← g.rules).merge ctx.gating
  let records ← g.conditionRecords h
  return g.conclude h (SelectionMode.read ctx.mode g.mode) rules records

/-- The evaluation of a graph on a raw history, with overrides. -/
def evaluate (g : Graph) (history ctx : Json) : Except Error Evaluation := do
  let h ← History.read history
  g.evaluateHistory h (← Context.read ctx)

end Graph
end RouletteStrategy
