import RouletteStrategy.Digest.Sha256
import RouletteStrategy.Json.Parser
import RouletteStrategy.Json.Printer
import RouletteStrategy.Strategy.Compile

/-!
# Artifacts: strategies as text with a checksum

Metadata and graph are written with sorted keys beside the digest of their canonical text. A text
is loaded only if the digest agrees, by compiling the metadata and graph in it.
-/

namespace RouletteStrategy

namespace Artifact

def format : String := "strategy-artifact"

/-- What is digested: metadata and graph together. -/
def digestBody (metadata graph : Json) : Json := .obj [("metadata", metadata), ("graph", graph)]

/-- The text that stands for metadata and graph up to the order of keys. -/
def digestText (metadata graph : Json) : String := Json.canonical (digestBody metadata graph)

/-- The digest of metadata and graph. Values too far inside one another have no text, and a text
with halves of pairs has no bytes to digest. -/
def checksum (metadata graph : Json) : Except Error String :=
  if Json.Parser.maxOpen < (digestBody metadata graph).height then .error .tooDeepToRead
  else
    let text := digestText metadata graph
    match Text.halfRun? text with
    | none => .ok (Sha256.hexDigest (Text.toPlain text))
    | some run => .error (.notEncodable run)

def ofParts (metadata graph : Json) : Except Error Json := do
  return .obj [("format", .str format), ("metadata", metadata), ("graph", graph),
    ("checksum", .str (← checksum metadata graph))]

/-- The fields to compile: those of the graph win. -/
def merged (metadata graph : Json.Object) : Json.Object := metadata.overlay graph

/-- Compiles the two parts; an invalid strategy makes an invalid artifact. -/
def compileParts (metadata graph : Json.Object) : Except Error Strategy :=
  match Strategy.compileFields .text (merged metadata graph) with
  | .error (.invalidGraph issues) | .error (.invalidStrategy issues) =>
    .error (.artifact (.invalidGraph issues))
  | r => r

/-- The two parts of an artifact whose format, checksum and schema version are right. -/
def verifiedParts (v : Json) : Except Error (Json.Object × Json.Object) := do
  let o := v.members
  if (o.at "format").asString? ≠ some format then throw (.artifact .unknownFormat)
  match (o.at "metadata").asObject?, (o.at "graph").asObject? with
  | some metadata, some graph =>
    let sum ← checksum (.obj metadata) (.obj graph)
    if (o.at "checksum").asString? ≠ some sum then throw (.artifact .checksumMismatch)
    let version := metadata.at "schemaVersion"
    if version.asString?.any (· ∈ supportedVersions) then return (metadata, graph)
    else throw (.artifact (.incompatibleVersion version))
  | _, _ => throw (.artifact .missingParts)

/-- The strategy in the value of an artifact. -/
def ofJson (v : Json) : Except Error Strategy := do
  let (metadata, graph) ← verifiedParts v
  compileParts metadata graph

/-- The strategy that an artifact holds. -/
def load (text : String) : Except Error Strategy :=
  match Json.Parser.parse text with
  | .error .malformed => .error (.artifact .notJson)
  | .error .tooDeep => .error .tooDeepToRead
  | .ok v => ofJson v

/-- The strategy in a field; a field that holds no text holds no artifact. -/
def loadValue (v : Json) : Except Error Strategy :=
  match v.asString? with
  | some text => load text
  | none => .error (.artifact .notJson)

end Artifact

/-- The value of a strategy's artifact. -/
def Strategy.artifact (s : Strategy) : Except Error Json := do
  Artifact.ofParts (.obj s.metadata.toObject) (.obj (← s.graph.writeBody))

/-- The artifact of a strategy as text. -/
def Strategy.exportText (s : Strategy) : Except Error String := do return (← s.artifact).pretty

end RouletteStrategy
