import RouletteStrategy.HostName.Fault
import RouletteStrategy.Json.Display

/-! # What can be wrong with a graph, a strategy or an artifact -/

namespace RouletteStrategy

/-- The names and indexes that lead to a field. -/
abbrev Path := List String

/-- What is wrong with one field. -/
inductive FieldFault where
  | missing
  | notText
  | notList
  | notNode
  | notConnection
  | unknownNodeKind
  /-- A name with halves of pairs. -/
  | notCharacters
  /-- An entry of a list of pairs that does not have two items. -/
  | notPair (index length : Nat)
deriving DecidableEq, Repr

inductive Issue where
  | notObject
  | field (path : Path) (fault : FieldFault)
  | duplicateId (id : String)
  | unknownSource (connection source : String)
  | unknownTarget (connection target : String)
  | unsupportedVersion (version : String)
  | nameTooLong
deriving DecidableEq, Repr

/-- What is wrong with the text of an artifact. -/
inductive ArtifactFault where
  | notJson
  | unknownFormat
  | missingParts
  | checksumMismatch
  | incompatibleVersion (version : Json)
  | invalidGraph (issues : List Issue)

inductive Error where
  | graphNotObject
  /-- The fields of a graph do not have the form that they need. -/
  | malformedGraph (issues : List Issue)
  | strategyNotObject
  | invalidGraph (issues : List Issue)
  | invalidStrategy (issues : List Issue)
  | artifact (fault : ArtifactFault)
  /-- A graph to evaluate has no nodes. -/
  | noNodes
  /-- A value of another type was needed. -/
  | wrongType
  /-- An object was needed and something else was given. -/
  | notAnObject
  /-- A key that an object does not have. -/
  | noSuchKey
  /-- An index beyond the ends of a list. -/
  | noSuchIndex
  /-- An integer beyond the largest finite float. -/
  | numberTooLarge
  /-- Values inside one another beyond the depth that can be written. -/
  | tooDeep
  /-- Values inside one another beyond the depth that can be read, digested or copied. -/
  | tooDeepToRead
  /-- Text with halves of pairs, which has no bytes. -/
  | notEncodable (run : Text.HalfRun)
  /-- A number to send that is not finite. -/
  | notFinite
  /-- An address that leads nowhere. -/
  | badAddress
  /-- A host whose name cannot be read back. -/
  | hostName (fault : HostName.Fault)
  /-- A host that cannot be written in ASCII. -/
  | hostNotPlain
  /-- An address with a scheme by which nothing can be asked for. -/
  | unknownScheme
  /-- An address with a scheme of connections that stay open. -/
  | otherProtocol
  /-- An address that sends its client on too often. -/
  | tooManyRedirections
  /-- An address that sends its client on to one that is too long. -/
  | tooLongRedirection
  /-- An answer without a body, where one was to be read. -/
  | noBody

/-- The schema versions that strategies may have. -/
def supportedVersions : List String := ["v1", "1.0.0"]

/-- Names of strategies have at most this many characters. -/
def maxNameLength : Nat := 128

def FieldFault.message : FieldFault → String
  | .missing => "Field required"
  | .notText => "Input should be a valid string"
  | .notList => "Input should be a valid list"
  | .notNode => "Input should be a valid dictionary or instance of Node"
  | .notConnection => "Input should be a valid dictionary or instance of Connection"
  | .unknownNodeKind => "Input should be 'trigger', 'condition', 'logic' or 'signal'"
  | .notCharacters =>
    "Input should be a valid string, unable to parse raw data as a unicode string"
  | .notPair i n =>
    "Value error, dictionary update sequence element #" ++ toString i ++ " has length " ++
      toString n ++ "; 2 is required"

def Issue.message : Issue → String
  | .notObject => "payload não é um objeto JSON"
  | .field path fault => ".".intercalate path ++ ": " ++ fault.message
  | .duplicateId id => "ID de nó duplicado: " ++ id
  | .unknownSource connection source =>
    "Conexão " ++ connection ++ ": origem inexistente '" ++ source ++ "'"
  | .unknownTarget connection target =>
    "Conexão " ++ connection ++ ": destino inexistente '" ++ target ++ "'"
  | .unsupportedVersion version =>
    "schemaVersion '" ++ version ++ "' não suportada (suportadas: " ++
      ", ".intercalate supportedVersions ++ ")"
  | .nameTooLong => "Nome da estratégia excede " ++ toString maxNameLength ++ " caracteres"

def ArtifactFault.message : ArtifactFault → String
  | .notJson => "Artefato não é um JSON válido"
  | .unknownFormat => "Formato de artefato desconhecido"
  | .missingParts => "Artefato sem 'metadata' ou 'graph'"
  | .checksumMismatch => "Checksum do artefato não confere (arquivo alterado ou corrompido)"
  | .incompatibleVersion version => "schemaVersion incompatível: " ++ version.display
  | .invalidGraph issues =>
    "Grafo do artefato inválido: " ++ "; ".intercalate (issues.map Issue.message)

namespace Error

/-- The explanation of halves of pairs in a text. -/
def halfMessage (run : Text.HalfRun) : String :=
  let part :=
    if run.length = 1 then
      "character '" ++ String.ofList (Text.unitEscape run.first) ++ "' in position " ++
        toString run.start
    else
      "characters in position " ++ toString run.start ++ "-" ++
        toString (run.start + run.length - 1)
  "'utf-8' codec can't encode " ++ part ++ ": surrogates not allowed"

/-- The problems found one by one. -/
def issues : Error → List Issue
  | .graphNotObject | .strategyNotObject => [.notObject]
  | .malformedGraph issues | .invalidGraph issues | .invalidStrategy issues => issues
  | _ => []

/-- The explanation of an input that was refused; nothing for the other errors. -/
def message? : Error → Option String
  | .graphNotObject => some "Payload do grafo deve ser um objeto"
  | .strategyNotObject => some "Payload de compilação deve ser um objeto"
  | .malformedGraph _ | .invalidGraph _ => some "Grafo de estratégia inválido"
  | .invalidStrategy _ => some "Estratégia inválida"
  | .artifact fault => some fault.message
  | .noNodes => some "nodes required"
  | .tooDeep => some "Maximum serialization depth exceeded"
  | .notEncodable run => some (halfMessage run)
  | .notFinite => some "Out of range float values are not JSON compliant"
  | .wrongType | .notAnObject | .noSuchKey | .noSuchIndex | .numberTooLarge | .tooDeepToRead
  | .badAddress | .hostName _ | .hostNotPlain | .unknownScheme | .otherProtocol
  | .tooManyRedirections | .tooLongRedirection | .noBody => none

end Error
end RouletteStrategy
