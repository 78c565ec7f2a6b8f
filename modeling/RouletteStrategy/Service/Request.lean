import RouletteStrategy.Json.Printer
import RouletteStrategy.Service.Resource
import RouletteStrategy.Text.Upper

/-! # Requests, responses and the check of request bodies -/

namespace RouletteStrategy.Service

structure Request where
  method : String
  path : String
  body : Option Json

structure Response where
  status : Nat
  body : Json

/-- Why a body cannot be sent as text. Numbers are looked at before halves of pairs. -/
def bodyObstacle? (body : Json) : Option Error :=
  if body.isFinite then (Text.halfRun? (Json.render .compact body)).map .notEncodable
  else some .notFinite

/-- The method of a request; the case of its letters does not matter. -/
def Request.verb (r : Request) : String := Text.asciiUpper r.method

/-- Why a request that can be written down is not answered. -/
def sendingObstacle? (address : String) : Option Error :=
  (Address.ofString address).sendingObstacle?.or <|
    match Resource.find address with
    | .error e => some e
    | .ok _ => none

/-- Why there is no answer to read: a request cannot be sent, or is not answered, or it asks for an
answer without its body. -/
def Request.obstacle? (r : Request) : Option Error :=
  (((Address.obstacle? r.path).or (r.body.bind bodyObstacle?)).or (sendingObstacle? r.path)).or
    (if r.verb = "HEAD" then some .noBody else none)

/-- Members whose keys begin like this are hidden. -/
def hiddenStart : String := "_sa"

def isHidden (key : String) : Bool := hiddenStart.toList.isPrefixOf key.toList

mutual

/-- The value without hidden members at any depth. -/
def shown : Json → Json
  | .arr xs => .arr (shownItems xs)
  | .obj ms => .obj (shownMembers ms)
  | v => v

def shownItems : List Json → List Json
  | [] => []
  | x :: xs => shown x :: shownItems xs

def shownMembers : List (String × Json) → List (String × Json)
  | [] => []
  | (k, v) :: ms => if isHidden k then shownMembers ms else (k, shown v) :: shownMembers ms

end

/-- A step to a place in a request: a field or an index. -/
inductive Place where
  | field (name : String)
  | index (i : Nat)

def Place.toJson : Place → Json
  | .field name => .str name
  | .index i => .ofNat i

inductive BodyFault where
  | missing | notFields | notObject | notList | notText
deriving DecidableEq, Repr

namespace BodyFault

def code : BodyFault → String
  | .missing => "missing"
  | .notFields => "model_attributes_type"
  | .notObject => "dict_type"
  | .notList => "list_type"
  | .notText => "string_type"

def message : BodyFault → String
  | .missing => "Field required"
  | .notFields => "Input should be a valid dictionary or object to extract fields from"
  | .notObject => "Input should be a valid dictionary"
  | .notList => "Input should be a valid list"
  | .notText => "Input should be a valid string"

end BodyFault

/-- What is wrong with a request body, and where. -/
structure BodyIssue where
  fault : BodyFault
  place : List Place

def BodyIssue.toJson (i : BodyIssue) : Json :=
  .arr [.str i.fault.code, .arr (.str "body" :: i.place.map Place.toJson), .str i.fault.message]

def optionalTextIssues (o : Json.Object) (key : String) : List BodyIssue :=
  match o.at key with
  | .null | .str _ => []
  | _ => [⟨.notText, [.field key]⟩]

def optionalObjectIssues (o : Json.Object) (key : String) : List BodyIssue :=
  match o.at key with
  | .null | .obj _ => []
  | _ => [⟨.notObject, [.field key]⟩]

/-- A list field may be missing, but not null. -/
def listIssues (o : Json.Object) (key : String) : List BodyIssue :=
  match o.get? key with
  | none | some (.arr _) => []
  | some _ => [⟨.notList, [.field key]⟩]

/-- A list field whose items are objects. -/
def objectListIssues (o : Json.Object) (key : String) : List BodyIssue :=
  match o.get? key with
  | none => []
  | some (.arr vs) =>
    vs.zipIdx.filterMap fun (v, i) =>
      if v.asObject?.isSome then none else some ⟨.notObject, [.field key, .index i]⟩
  | some _ => [⟨.notList, [.field key]⟩]

/-- The fields of a history with overrides. -/
def historyIssues (o : Json.Object) : List BodyIssue :=
  listIssues o "history" ++ optionalTextIssues o "historyInput" ++
    optionalTextIssues o "selectionMode" ++ optionalObjectIssues o "gating"

/-- The fields of a graph with a history. -/
def previewIssues (o : Json.Object) : List BodyIssue :=
  historyIssues o ++ objectListIssues o "nodes" ++ objectListIssues o "connections" ++
    optionalTextIssues o "name"

/-- The fields of a body that pass a check. -/
def checkedBody (issues : Json.Object → List BodyIssue) (fault : BodyFault)
    (body : Option Json) : Except (List BodyIssue) Json.Object :=
  match body with
  | none | some .null => .error [⟨.missing, []⟩]
  | some v =>
    match v.asObject? with
    | none => .error [⟨fault, []⟩]
    | some o => if (issues o).isEmpty then .ok o else .error (issues o)

end RouletteStrategy.Service
