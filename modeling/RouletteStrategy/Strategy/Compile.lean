import RouletteStrategy.Evaluation.Report
import RouletteStrategy.Graph.Schema
import RouletteStrategy.Text.Slug

/-!
# Compiled strategies

A strategy is a valid graph with its metadata. Compiling fills in defaults and refuses unknown
schema versions, long names and invalid graphs.
-/

namespace RouletteStrategy

structure Metadata where
  name : String
  description : String
  version : String
  author : String
  category : String
  minSpins : Json
  maxNumbers : Json
  confidenceThreshold : Json
  priority : Json
  mode : SelectionMode
  gating : GatingRules
  schemaVersion : String

namespace Metadata

/-- The text of a field, or a default where it is not set. -/
def textOr (o : Json.Object) (key default : String) : String :=
  ((o.at key).orElse (.str default)).display

def ofObject (o : Json.Object) : Except Error Metadata := do
  let gating ← GatingRules.ofObject (o.at "gating").members
  return {
    name := textOr o "name" Schema.defaultName
    description := textOr o "description" "Estratégia criada via Builder"
    version := textOr o "version" Schema.defaultVersion
    author := textOr o "author" "SOFIA Builder"
    category := textOr o "category" "dynamic"
    minSpins := (o.at "min_spins").orElse (.int 10)
    maxNumbers := (o.at "max_numbers").orElse (.int 6)
    confidenceThreshold := (o.at "confidence_threshold").orElse
      (.float (Binary64.ofRatio false 6 10))
    priority := (o.at "priority").orElse (.int 1)
    mode := SelectionMode.read (o.at "selectionMode") .automatic
    gating := gating
    schemaVersion := textOr o "schemaVersion" Schema.currentSchema }

/-- The entries that the graph takes over. -/
def graphFields (m : Metadata) : Json.Object :=
  [("name", .str m.name), ("description", .str m.description), ("version", .str m.version),
   ("selectionMode", .str m.mode.name), ("gating", .obj m.gating.toObject),
   ("schemaVersion", .str m.schemaVersion)]

def toObject (m : Metadata) : Json.Object :=
  [("name", .str m.name), ("description", .str m.description), ("version", .str m.version),
   ("author", .str m.author), ("category", .str m.category), ("min_spins", m.minSpins),
   ("max_numbers", m.maxNumbers), ("confidence_threshold", m.confidenceThreshold),
   ("priority", m.priority), ("selectionMode", .str m.mode.name),
   ("gating", .obj m.gating.toObject), ("schemaVersion", .str m.schemaVersion)]

def issues (m : Metadata) : List Issue :=
  (if m.schemaVersion ∈ supportedVersions then [] else [.unsupportedVersion m.schemaVersion]) ++
  (if maxNameLength < Text.size m.name then [.nameTooLong] else [])

end Metadata

structure Strategy where
  graph : Graph
  metadata : Metadata

namespace Strategy

def name (s : Strategy) : String := s.metadata.name

/-- The slug of a name without slug characters. -/
def fallbackSlug : String := "estrategia"

/-- The slug under which a strategy of a name is kept. -/
def slugOfName (name : String) : String :=
  let s := Text.slug name
  if s = "" then fallbackSlug else s

def slug (s : Strategy) : String := slugOfName s.name

/-- The name of the file for the artifact of a strategy. -/
def fileName (name : String) : String := slugOfName name ++ ".strategy.json"

/-- The name and size of a strategy. -/
def inspect (s : Strategy) : String :=
  "CompiledStrategy(name=" ++ Text.quoted s.name ++ ", nodes=" ++ toString s.graph.nodes.length ++
    ")"

/-- Metadata and graph, unless the graph is too deep to be written. -/
def write (s : Strategy) : Except Error Json.Object := do
  return [("metadata", .obj s.metadata.toObject), ("graph", .obj (← s.graph.writeBody))]

def evaluate (s : Strategy) (history ctx : Json) : Except Error Evaluation :=
  s.graph.evaluate history ctx

/-- How many lists and objects may be open at one place of a payload that is copied. Of a thousand
calls inside one another, each of them takes two. -/
def maxCopied : Nat := 497

/-- A copy of the fields of a payload, unless values are too far inside one another. -/
def copied (o : Json.Object) : Except Error Json.Object :=
  if maxCopied < (Json.obj o).height then .error .tooDeepToRead else .ok o

/-- Compiles the fields of a payload. Metadata take the place of the fields of the same names in a
copy of them. -/
def compileFields (origin : Pairs.Origin) (o : Json.Object) : Except Error Strategy := do
  let metadata ← Metadata.ofObject o
  if metadata.issues.isEmpty then
    let fields ← copied o
    let graph ← Graph.readFrom origin (.obj (fields.overlay metadata.graphFields))
    return ⟨graph, metadata⟩
  else throw (.invalidStrategy metadata.issues)

def compile (payload : Json) : Except Error Strategy :=
  match payload.asObject? with
  | none => .error .strategyNotObject
  | some o => compileFields .values o

end Strategy
end RouletteStrategy
