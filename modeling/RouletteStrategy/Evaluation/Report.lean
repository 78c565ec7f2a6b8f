import RouletteStrategy.Evaluation.Evaluate

/-! # Reports on an evaluation: the check, the signal and both together -/

namespace RouletteStrategy

def ConditionRecord.toJson (r : ConditionRecord) : Json :=
  .obj [("nodeId", .str r.nodeId), ("subtype", .ofOption .str r.subtype),
    ("passed", .bool r.outcome.passed), ("numbers", .ofInts r.outcome.numbers),
    ("params", .obj r.outcome.params)]

def Contribution.toJson (c : Contribution) : Json :=
  .obj [("nodeId", .str c.nodeId), ("subtype", .str c.kind.name), ("reason", .str c.reason),
    ("numbers", .ofInts c.numbers), ("params", .obj c.params)]

def Wiring.toJson (w : Wiring) : Json :=
  .obj [("nodes", .ofNat w.nodes), ("connections", .ofNat w.connections),
    ("conditions", .ofNat w.conditions), ("logic", .ofNat w.logic), ("signals", .ofNat w.signals),
    ("signalInputs", .ofStrings w.signalInputs)]

namespace Trace

/-- The entry of the active signal after those of the logic nodes. -/
def signalEntry (t : Trace) : List Json :=
  if t.signalActive then
    [.obj [("nodeId", .ofOption .str t.signalNode), ("type", .str "signal"),
      ("inputs", .ofBools t.signalInputs), ("result", .bool true)]]
  else []

def toJson (t : Trace) : Json :=
  .obj [
    ("selectionModeEvaluated", .str t.mode.name),
    ("conditionResults", .arr (t.records.map ConditionRecord.toJson)),
    ("logicTrace", .arr (t.logic.map LogicResult.toJson ++ t.signalEntry)),
    ("derivedBy", .arr (t.contributions.map Contribution.toJson)),
    ("graphWiring", t.wiring.toJson),
    ("inputs", .obj [
      ("historyLength", .ofNat t.historyLength), ("lastNumber", .ofOption .int t.lastNumber),
      ("manualNumbers", .ofInts t.manualNumbers), ("signalNodeId", .ofOption .str t.signalNode)]),
    ("gatingApplied", t.applied.toJson),
    ("decisionTrace", .obj [
      ("signalActive", .bool t.signalActive), ("producedCount", .ofNat t.derivedCount),
      ("gating", .obj [("gated", .bool t.applied.gated), ("reasons", t.applied.reasonNames)])]),
    ("signalActive", .bool t.signalActive),
    ("derivedCount", .ofNat t.derivedCount)]

end Trace

namespace Evaluation

def metadata (e : Evaluation) : Json :=
  .obj [("selectionMode", .str e.trace.mode.name), ("gatingApplied", e.trace.applied.toJson),
    ("telemetry", e.trace.toJson)]

/-- Whether to activate, and why. -/
def check (e : Evaluation) : Json.Object :=
  [("shouldActivate", .bool e.shouldActivate), ("confidence", .float e.confidence),
   ("reason", .str e.reason), ("telemetry", e.trace.toJson)]

/-- The numbers to play. -/
def signal (e : Evaluation) : Json.Object :=
  [("numbers", .ofInts e.numbers), ("confidence", .float e.confidence), ("metadata", e.metadata)]

def full (e : Evaluation) : Json.Object :=
  [("shouldActivate", .bool e.shouldActivate), ("numbers", .ofInts e.numbers),
   ("confidence", .float e.confidence), ("reason", .str e.reason), ("metadata", e.metadata)]

end Evaluation
end RouletteStrategy
