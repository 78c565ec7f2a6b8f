import RouletteStrategy.Catalog.Templates
import RouletteStrategy.Service.Request
import RouletteStrategy.Service.Settings
import RouletteStrategy.Store.Basic

/-!
# The service: previews, compiled strategies and templates

`handle` answers one request and gives the store after it.
-/

namespace RouletteStrategy.Service

def ok (fields : Json.Object) : Response := ⟨200, .obj fields⟩

def success (fields : Json.Object) : Response := ok (("success", .bool true) :: fields)

def detail (status : Nat) (text : String) : Response := ⟨status, .obj [("detail", .str text)]⟩

def notFound : Response := detail 404 "Not Found"

def methodNotAllowed : Response := detail 405 "Method Not Allowed"

def noStrategy (slug : String) : Response :=
  detail 404 ("Estratégia '" ++ slug ++ "' não encontrada")

def noTemplate (slug : String) : Response :=
  detail 404 ("Template '" ++ slug ++ "' não encontrado")

def invalidBody (issues : List BodyIssue) : Response := ⟨422, .arr (issues.map BodyIssue.toJson)⟩

/-- Refused inputs are explained, other errors are not. -/
def failure (e : Error) : Response :=
  match e.message? with
  | some message =>
    ⟨400, .obj [("error", .str "Bad Request"), ("message", .str message),
      ("problemas", .ofStrings (e.issues.map Issue.message))]⟩
  | none =>
    ⟨500, .obj [("error", .str "Internal Server Error"),
      ("message", .str "Erro interno do servidor")]⟩

def respond (r : Except Error Response) : Response :=
  match r with
  | .ok r => r
  | .error e => failure e

/-- The latest spins of a request: those of the text if there is one, else those of the list. -/
def requestHistory (s : Settings) (o : Json.Object) : Except Error History := do
  let text := o.at "historyInput"
  let h ← if text.isSet then History.readText text else History.read (.arr (o.at "history").items)
  return h.upTo s.maxHistory

def historyJson (h : History) : Json := .arr (h.map Token.toJson)

/-- The overrides of a request that are set. -/
def requestContext (o : Json.Object) : Json :=
  .obj (["selectionMode", "gating"].filterMap fun key =>
    if (o.at key).isSet then some (key, o.at key) else none)

/-- The fields of a preview that describe the graph. -/
def previewGraph (o : Json.Object) : Json.Object :=
  let given : Json.Object :=
    ((o.erase "history").erase "historyInput").filter fun kv => !kv.2.isNull
  given.setDefault "connections" (.arr [])

def evaluateFor (s : Settings) (g : Graph) (o : Json.Object) :
    Except Error (History × Evaluation) := do
  let h ← requestHistory s o
  return (h, ← g.evaluate (historyJson h) (requestContext o))

/-- Evaluates a graph without keeping it. -/
def preview (s : Settings) (o : Json.Object) : Except Error Response := do
  if (o.at "nodes").items.isEmpty then throw .noNodes
  let g ← Graph.read (.obj (previewGraph o))
  let (h, e) ← evaluateFor s g o
  return success (("history", historyJson h) :: e.full)

/-- Compiles and keeps a strategy. -/
def compile (st : Store) (o : Json.Object) : Except Error (Store × Response) := do
  let s ← Strategy.compile (.obj o)
  let (st, summary) ← (st.save s).result
  return (st, success (summary ++
    [("fileName", .str (Strategy.fileName s.name)), ("metadata", .obj s.metadata.toObject),
     ("artifact", .str (← s.exportText))]))

def listStrategies (st : Store) : Except Error Response := do
  let ss ← st.list
  return success [("total", .ofNat ss.length), ("estrategias", .arr (ss.map .obj))]

def showStrategy (st : Store) (slug : String) : Except Error Response := do
  match ← st.fetch slug with
  | none => return noStrategy slug
  | some s => return success (("slug", .str slug) :: (← s.write))

/-- Evaluates a kept strategy. -/
def strategySignal (s : Settings) (st : Store) (slug : String) (o : Json.Object) :
    Except Error Response := do
  match ← st.fetch slug with
  | none => return noStrategy slug
  | some strategy =>
    let (_, e) ← evaluateFor s strategy.graph o
    return success (("slug", .str slug) :: e.full)

def listTemplates : Response :=
  success [("total", .ofNat Catalog.templates.length),
    ("templates", .arr (Catalog.templates.map fun t => .obj t.summary))]

def showTemplate (slug : String) : Response :=
  match Catalog.find? slug with
  | none => noTemplate slug
  | some t => success [("template", t.toJson)]

def rootResponse (s : Settings) : Response :=
  ok [("app", .str s.appName), ("version", .str s.appVersion), ("status", .str "online"),
    ("environment", .str s.environment),
    ("endpoints", .obj [
      ("docs", .str "/docs"), ("health", .str "/health"),
      ("avaliar", .str "/api/estrategias/avaliar"),
      ("compilar", .str "/api/estrategias/compilar"),
      ("estrategias", .str "/api/estrategias"),
      ("sinal", .str "/api/estrategias/\x7bslug\x7d/sinal"),
      ("templates", .str "/api/templates")]),
    ("condicoes_disponiveis", .ofStrings Condition.Kind.names)]

def healthResponse (s : Settings) : Response :=
  ok [("status", .str "healthy"), ("storage", .str "memory"), ("version", .str s.appVersion)]

/-- The answer to a request whose body must pass a check. -/
def withBody (st : Store) (body : Except (List BodyIssue) Json.Object)
    (answer : Json.Object → Store × Response) : Store × Response :=
  match body with
  | .ok o => answer o
  | .error issues => (st, invalidBody issues)

def postPreview (s : Settings) (st : Store) (body : Option Json) : Store × Response :=
  withBody st (checkedBody previewIssues .notFields body) fun o => (st, respond (preview s o))

def postCompile (st : Store) (body : Option Json) : Store × Response :=
  withBody st (checkedBody (fun _ => []) .notObject body) fun o =>
    match compile st o with
    | .ok r => r
    | .error e => (st, failure e)

def postSignal (s : Settings) (st : Store) (slug : String) (body : Option Json) :
    Store × Response :=
  withBody st (checkedBody historyIssues .notFields body) fun o =>
    (st, respond (strategySignal s st slug o))

def deleteStrategy (st : Store) (slug : String) : Store × Response :=
  match st.remove slug with
  | (st', true) => (st', success [("slug", .str slug)])
  | (st', false) => (st', noStrategy slug)

/-- The answer of a resource to a method. -/
def serve (s : Settings) (st : Store) (method : String) (body : Option Json) :
    Resource → Store × Response
  | .root => if method = "GET" then (st, rootResponse s) else (st, methodNotAllowed)
  | .ping =>
    if method = "GET" then (st, ok [("message", .str "pong")]) else (st, methodNotAllowed)
  | .health => if method = "GET" then (st, healthResponse s) else (st, methodNotAllowed)
  | .templates => if method = "GET" then (st, listTemplates) else (st, methodNotAllowed)
  | .template slug => if method = "GET" then (st, showTemplate slug) else (st, methodNotAllowed)
  | .strategies =>
    if method = "GET" then (st, respond (listStrategies st)) else (st, methodNotAllowed)
  | .strategy slug =>
    if method = "GET" then (st, respond (showStrategy st slug))
    else if method = "DELETE" then deleteStrategy st slug
    else if method = "POST" ∧ withoutBreak slug = "avaliar" then postPreview s st body
    else if method = "POST" ∧ withoutBreak slug = "compilar" then postCompile st body
    else (st, methodNotAllowed)
  | .signal slug =>
    if method = "POST" then postSignal s st slug body else (st, methodNotAllowed)

/-- A response as it is sent: hidden members are left out of an answer. -/
def sent (r : Response) : Response := if r.status = 200 then ⟨200, shown r.body⟩ else r

/-- Answers a request and gives the store after it. -/
def handle (s : Settings) (st : Store) (r : Request) : Store × Response :=
  match Resource.find r.path with
  | .ok (some resource) =>
    let (st, response) := serve s st r.verb r.body resource
    (st, sent response)
  | _ => (st, notFound)

/-- The store after a run of requests, and the responses in order. -/
def run (s : Settings) (st : Store) : List Request → Store × List Response
  | [] => (st, [])
  | r :: rs =>
    let (st, response) := handle s st r
    let (st, responses) := run s st rs
    (st, response :: responses)

/-- Sends a run of requests to a service, unless one of them gets no answer that can be read. -/
def exchange (s : Settings) (st : Store) (rs : List Request) :
    Except Error (Store × List Response) :=
  match rs.findSome? Request.obstacle? with
  | some e => .error e
  | none => .ok (run s st rs)

/-- A fresh service keeps artifacts as texts. -/
def fresh : Store := .texts []

end RouletteStrategy.Service
