import RouletteStrategy.Graph.Basic

/-! # Templates: complete strategies, ready to compile -/

namespace RouletteStrategy

structure Template where
  name : String
  slug : String
  description : String
  category : String
  tags : List String
  nodes : List Json
  /-- Source, target and kind of each connection. -/
  connections : List (String × String × ConnectionKind)

namespace Template

/-- The fields shown in the list of templates. -/
def summary (t : Template) : Json.Object :=
  [("slug", .str t.slug), ("name", .str t.name), ("description", .str t.description),
   ("category", .str t.category), ("tags", .ofStrings t.tags),
   ("selectionMode", .str SelectionMode.automatic.name)]

/-- Connections are numbered from one on. -/
def connectionsJson (t : Template) : Json :=
  .arr ((t.connections.zipIdx 1).map fun ((source, target, kind), i) =>
    .obj [("id", .str ("e" ++ toString i)), ("source", .str source), ("target", .str target),
      ("type", .str kind.name)])

def toJson (t : Template) : Json :=
  .obj (t.summary ++ [("nodes", .arr t.nodes), ("connections", t.connectionsJson),
    ("schemaVersion", .str "1.0.0"), ("version", .str "1.0.0"), ("gating", .obj [])])

end Template

namespace Catalog

def node (id : String) (kind : NodeKind) (fields : Json.Object) : Json :=
  .obj ([("id", .str id), ("type", .str kind.name)] ++ fields)

def trigger (window : Nat) : Json :=
  node "trigger_1" .trigger [("data", .obj [("label", .str "Analisar Janela"),
    ("config", .obj [("janela", .ofNat window)])])]

def condition (id subtype label : String) (config : Json.Object) : Json :=
  node id .condition [("subtype", .str subtype), ("data", .obj [("label", .str label),
    ("conditionType", .str subtype), ("config", .obj config)])]

def logic (id : String) (operator : Operator) (label : String) : Json :=
  node id .logic [("data", .obj [("label", .str label),
    ("config", .obj [("operador", .str operator.name)])])]

def signal (id label message : String) : Json :=
  node id .signal [("data", .obj [("label", .str label),
    ("config", .obj [("acao", .str "emitir_sinal"), ("mensagem", .str message),
      ("prioridade", .str "normal"), ("numeros", .arr [])])])]

end Catalog
end RouletteStrategy
