import RouletteStrategy.Gating.Rules
import RouletteStrategy.Json.Writable
import RouletteStrategy.Wheel.Numbers

/-! # Strategy graphs: nodes, connections and the queries on them -/

namespace RouletteStrategy

inductive NodeKind where
  | trigger | condition | logic | signal
deriving DecidableEq, Repr

namespace NodeKind

def name : NodeKind → String
  | .trigger => "trigger"
  | .condition => "condition"
  | .logic => "logic"
  | .signal => "signal"

def all : List NodeKind := [.trigger, .condition, .logic, .signal]

def ofName? (name : String) : Option NodeKind := all.find? (·.name == name)

end NodeKind

inductive Operator where
  | and | or | not
deriving DecidableEq, Repr

namespace Operator

def name : Operator → String
  | .and => "AND"
  | .or => "OR"
  | .not => "NOT"

/-- Any name but those of the other operators is a conjunction. -/
def ofName (name : String) : Operator :=
  if name = "OR" then .or else if name = "NOT" then .not else .and

/-- The operator that a value names without regard to the case of ASCII letters. -/
def read (v : Json) : Operator :=
  ofName (String.ofList ((Text.strip v.display).toList.map Char.toUpper))

end Operator

structure Node where
  id : String
  kind : NodeKind
  subtype : Option String
  config : Json.Object
  label : Option String

namespace Node

/-- The operator of a logic node. -/
def operator (n : Node) : Operator :=
  Operator.read (((n.config.at "operador").orElse (n.config.at "operator")).orElse (.str "AND"))

/-- The numbers set by hand at a signal node. -/
def manualNumbers (n : Node) : List Int :=
  Wheel.readNumbers ((n.config.get? "numeros").getD (n.config.at "numbers")).items

def toJson (n : Node) : Json :=
  .obj [("id", .str n.id), ("type", .str n.kind.name), ("subtype", .ofOption .str n.subtype),
    ("config", .obj n.config.written), ("label", .ofOption .str n.label)]

end Node

inductive ConnectionKind where
  | success | failure | condition
deriving DecidableEq, Repr

namespace ConnectionKind

def name : ConnectionKind → String
  | .success => "success"
  | .failure => "failure"
  | .condition => "condition"

def all : List ConnectionKind := [.success, .failure, .condition]

/-- The kind that a value names without regard to case, success for any other value. -/
def read (v : Json) : ConnectionKind :=
  (all.find? (·.name == Text.fold v.displayIfSet)).getD .success

end ConnectionKind

structure Connection where
  id : String
  source : String
  target : String
  kind : ConnectionKind
deriving DecidableEq, Repr

def Connection.toJson (c : Connection) : Json :=
  .obj [("id", .str c.id), ("source", .str c.source), ("target", .str c.target),
    ("kind", .str c.kind.name)]

structure Graph where
  name : String
  description : String
  version : String
  mode : SelectionMode
  gating : Json.Object
  schemaVersion : String
  nodes : List Node
  connections : List Connection

namespace Graph

def nodeIds (g : Graph) : List String := g.nodes.map (·.id)

/-- The node of an id, the last one if there are several. -/
def node? (g : Graph) (id : String) : Option Node := g.nodes.reverse.find? (·.id == id)

def nodesOf (g : Graph) (kind : NodeKind) : List Node := g.nodes.filter (·.kind == kind)

/-- The connections that end at a node, in order. -/
def incoming (g : Graph) (id : String) : List Connection := g.connections.filter (·.target == id)

/-- The nodes at the other ends of the incoming connections. -/
def sources (g : Graph) (id : String) : List Node :=
  (g.incoming id).filterMap fun c => g.node? c.source

/-- The gating rules in force. -/
def rules (g : Graph) : Except Error GatingRules := GatingRules.ofObject g.gating

/-- The fields besides nodes and connections. -/
def header (g : Graph) : Json.Object :=
  [("name", .str g.name), ("description", .str g.description), ("version", .str g.version),
   ("selectionMode", .str g.mode.name), ("gating", .obj g.gating),
   ("schemaVersion", .str g.schemaVersion)]

/-- Nodes and connections. -/
def body (g : Graph) : Json.Object :=
  [("nodes", .arr (g.nodes.map Node.toJson)),
   ("connections", .arr (g.connections.map Connection.toJson))]

/-- Nodes and connections, unless there is an obstacle in a configuration. -/
def writeBody (g : Graph) : Except Error Json.Object :=
  match g.nodes.findSome? (·.config.obstacle?) with
  | some e => .error e
  | none => .ok g.body

/-- The whole graph, unless there is an obstacle in its gating or in a configuration. -/
def write (g : Graph) : Except Error Json :=
  match g.gating.obstacle? with
  | some e => .error e
  | none =>
    g.writeBody.map fun body => .obj ({ g with gating := g.gating.written }.header ++ body)

end Graph
end RouletteStrategy
