import RouletteStrategy.Graph.Check
import RouletteStrategy.Graph.Pairs

/-!
# Reading graphs

Nodes come flat, or with label, subtype and configuration under `data`. All issues of a payload
are collected in the order of its fields.
-/

namespace RouletteStrategy

/-- A value, or every issue found on the way to it. -/
abbrev Checked (α : Type) := Except (List Issue) α

namespace Checked

variable {α β γ : Type}

def fail (path : Path) (fault : FieldFault) : Checked α := .error [.field path fault]

/-- Both values, or the issues of the first before those of the second. -/
def and (a : Checked α) (b : Checked β) : Checked (α × β) :=
  match a, b with
  | .ok x, .ok y => .ok (x, y)
  | .ok _, .error f => .error f
  | .error e, .ok _ => .error e
  | .error e, .error f => .error (e ++ f)

def all : List (Checked α) → Checked (List α)
  | [] => .ok []
  | a :: as => (and a (all as)).map fun p => p.1 :: p.2

end Checked

namespace Schema

/-- A node before its fields are checked. -/
inductive NodeForm where
  | notObject
  | badPairs (entry : Pairs.BadEntry)
  /-- The fields in flat form, and the keys of the configuration that are no texts. -/
  | fields (o : Json.Object) (badKeys : List String)

/-- The settings that may stand beside a configuration instead of in it. -/
def liftedKeys : List String := ["operador", "operator", "numeros"]

/-- The configuration of a node with settings that stand beside it. -/
def liftSettings (data : Json.Object) (es : Pairs.Entries) : Pairs.Entries :=
  liftedKeys.foldl
    (fun es key =>
      match data.get? key with
      | some v =>
        if es.any fun e => e.1.asString? == some key then es else es ++ [(.str key, v)]
      | none => es)
    es

/-- The fields of a node in flat form, given the entries of the configuration under `data`. Fields
of the node itself win. -/
def flatten (o data : Json.Object) (es : Pairs.Entries) : NodeForm :=
  let es := liftSettings data es
  let badKeys := if o.has "config" then [] else Pairs.otherKeys es
  let o : Json.Object := o.setDefault "config" (.obj (Pairs.textMembers es))
  let o : Json.Object := o.setDefault "label" (data.at "label")
  let o :=
    if (o.at "subtype").isSet then o
    else o.set "subtype" ((data.at "conditionType").orElse (data.at "subtype"))
  .fields o badKeys

/-- The flat form of the fields of a node. -/
def objectForm (origin : Pairs.Origin) (o : Json.Object) : Except Error NodeForm :=
  match (o.at "data").asObject? with
  | none => .ok (.fields o [])
  | some data => do
    match ← Pairs.read origin (data.at "config") with
    | .error entry => return .badPairs entry
    | .ok es => return flatten o data es

def nodeForm (origin : Pairs.Origin) (v : Json) : Except Error NodeForm :=
  match v.asObject? with
  | none => .ok .notObject
  | some o => objectForm origin o

/-- A required text; other values than null are written out. -/
def requiredText (path : Path) (o : Json.Object) (key : String) : Checked String :=
  match o.get? key with
  | none => Checked.fail (path ++ [key]) .missing
  | some .null => Checked.fail (path ++ [key]) .notText
  | some v => .ok v.display

def optionalText (path : Path) (o : Json.Object) (key : String) : Checked (Option String) :=
  match o.at key with
  | .null => .ok none
  | .str s => .ok (some s)
  | _ => Checked.fail (path ++ [key]) .notText

def readKind (path : Path) (o : Json.Object) : Checked NodeKind :=
  match o.get? "type" with
  | none => Checked.fail (path ++ ["type"]) .missing
  | some (.str s) =>
    match NodeKind.ofName? s with
    | some k => .ok k
    | none =>
      Checked.fail (path ++ ["type"])
        (if (Text.halfRun? s).isSome then .notCharacters else .unknownNodeKind)
  | some _ => Checked.fail (path ++ ["type"]) .unknownNodeKind

def readConfig (path : Path) (o : Json.Object) (badKeys : List String) : Checked Json.Object :=
  if badKeys.isEmpty then .ok (o.at "config").members
  else .error (badKeys.map fun key => .field (path ++ ["config", key, "[key]"]) .notText)

def readNode (index : Nat) (form : NodeForm) : Checked Node :=
  let path := ["nodes", toString index]
  match form with
  | .notObject => Checked.fail path .notNode
  | .badPairs entry => Checked.fail path (.notPair entry.index entry.length)
  | .fields o badKeys =>
    (Checked.and (requiredText path o "id") (Checked.and (readKind path o)
      (Checked.and (optionalText path o "subtype") (Checked.and (readConfig path o badKeys)
        (optionalText path o "label"))))).map
      fun (id, kind, subtype, config, label) => ⟨id, kind, subtype, config, label⟩

/-- The id of a connection without one: its ends and an arrow. -/
def defaultConnectionId (o : Json.Object) : String :=
  (o.at "source").display ++ "->" ++ (o.at "target").display

/-- The kind of a connection, under either name; `type` wins. -/
def connectionKind (o : Json.Object) : ConnectionKind :=
  ConnectionKind.read ((o.get? "type").getD (o.at "kind"))

def readConnection (key : String) (index : Nat) (v : Json) : Checked Connection :=
  let path := [key, toString index]
  match v.asObject? with
  | none => Checked.fail path .notConnection
  | some o =>
    let id := if (o.at "id").isSet then (o.at "id").display else defaultConnectionId o
    (Checked.and (requiredText path o "source") (requiredText path o "target")).map
      fun (source, target) => ⟨id, source, target, connectionKind o⟩

/-- A text field with a default. -/
def readText (o : Json.Object) (key default : String) : Checked String :=
  match o.get? key with
  | none => .ok default
  | some (.str s) => .ok s
  | some _ => Checked.fail [key] .notText

/-- A version: a text, or a number or truth value written out. -/
def readVersion (o : Json.Object) (key default : String) : Checked String :=
  match o.get? key with
  | none => .ok default
  | some (.str s) => .ok s
  | some (.int i) => .ok (Json.int i).display
  | some (.float x) => .ok (Json.float x).display
  | some (.bool b) => .ok (Json.bool b).display
  | some _ => Checked.fail [key] .notText

/-- The items of a list field; a missing field is an empty list. -/
def readItems (o : Json.Object) (key : String) : Checked (List Json) :=
  match o.get? key with
  | none => .ok []
  | some (.arr vs) => .ok vs
  | some _ => Checked.fail [key] .notList

/-- The list of connections stands under either name; `edges` wins. -/
def connectionsKey (o : Json.Object) : String :=
  if o.has "edges" then "edges" else "connections"

def defaultName : String := "Estrategia_Sem_Nome"

def defaultVersion : String := "1.0.0"

def currentSchema : String := "v1"

/-- The nodes of their flat forms. -/
def readNodes (forms : Checked (List NodeForm)) : Checked (List Node) :=
  forms.bind fun forms => Checked.all (forms.zipIdx.map fun (f, i) => readNode i f)

def readConnections (o : Json.Object) : Checked (List Connection) :=
  let key := connectionsKey o
  (readItems o key).bind fun vs => Checked.all (vs.zipIdx.map fun (v, i) => readConnection key i v)

/-- A graph from its fields, given the nodes in flat form. -/
def readFields (o : Json.Object) (forms : Checked (List NodeForm)) : Checked Graph :=
  let mode := SelectionMode.read (o.at "selectionMode") .automatic
  let gating := (o.at "gating").members
  (Checked.and (readText o "name" defaultName) (Checked.and (readText o "description" "")
    (Checked.and (readVersion o "version" defaultVersion)
      (Checked.and (readVersion o "schemaVersion" currentSchema)
        (Checked.and (readNodes forms) (readConnections o)))))).map
    fun (name, description, version, schemaVersion, nodes, connections) =>
      ⟨name, description, version, mode, gating, schemaVersion, nodes, connections⟩

/-- The fields of a payload with those of a graph inside it, which win. -/
def unnest (o : Json.Object) : Json.Object :=
  match (o.at "graph").asObject? with
  | some inner => (o.erase "graph").overlay inner
  | none => o

/-- Flat forms of the nodes, unless the field is no list. -/
def nodeForms (origin : Pairs.Origin) (o : Json.Object) :
    Except Error (Checked (List NodeForm)) :=
  match readItems o "nodes" with
  | .ok vs => (vs.mapM (nodeForm origin)).map .ok
  | .error issues => .ok (.error issues)

end Schema

namespace Graph

/-- A graph from its fields, or what is wrong with them. -/
def ofObject (origin : Pairs.Origin) (o : Json.Object) : Except Error (Checked Graph) := do
  return Schema.readFields o (← Schema.nodeForms origin o)

/-- A graph from a payload with its fields on top, without the structural check. -/
def readLoose (payload : Json) : Except Error Graph :=
  match payload.asObject? with
  | none => .error (.malformedGraph [.notObject])
  | some o => do
    match ← ofObject .values o with
    | .ok g => return g
    | .error issues => throw (.malformedGraph issues)

/-- A graph from a payload with its fields on top or nested, without the structural check. -/
def readUnchecked (origin : Pairs.Origin) (payload : Json) : Except Error Graph :=
  match payload.asObject? with
  | none => .error .graphNotObject
  | some o => do
    match ← ofObject origin (Schema.unnest o) with
    | .ok g => return g
    | .error issues => throw (.invalidGraph issues)

/-- A valid graph from a payload of an origin. -/
def readFrom (origin : Pairs.Origin) (payload : Json) : Except Error Graph := do
  (← readUnchecked origin payload).check

/-- A valid graph from a payload. -/
def read (payload : Json) : Except Error Graph := readFrom .values payload

end Graph
end RouletteStrategy
