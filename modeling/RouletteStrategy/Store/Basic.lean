import RouletteStrategy.Strategy.Artifact

/-!
# Stores of strategies under their slugs

A text store keeps artifacts, a document store keeps metadata beside them. `artifact?` is the view
of either.
-/

namespace RouletteStrategy

/-- An artifact with the metadata kept beside it. -/
structure Document where
  metadata : Json
  artifact : String

inductive Store where
  | texts (entries : Members String)
  | documents (entries : Members Document)

namespace Store

/-- The text kept under a slug. -/
def artifact? : Store → String → Option String
  | .texts entries, slug => entries.get? slug
  | .documents entries, slug => (entries.get? slug).map (·.artifact)

/-- The slugs in use, ascending. -/
def slugs : Store → List String
  | .texts entries => entries.sorted.keys
  | .documents entries => entries.sorted.keys

/-- What a listing shows of a strategy. -/
def summary (slug : String) (metadata : Json.Object) : Json.Object :=
  ("slug", .str slug) ::
    ["name", "description", "version", "category", "selectionMode", "schemaVersion"].map
      fun key => (key, metadata.at key)

def strategySummary (s : Strategy) : Json.Object := summary s.slug s.metadata.toObject

/-- The metadata of a document; metadata that are not set count as an empty object. -/
def documentMetadata (d : Document) : Except Error Json.Object := GatingRules.objectIn d.metadata

/-- The name kept under a slug, or null. -/
def nameAt : Store → String → Except Error Json
  | .texts entries, slug =>
    match entries.get? slug with
    | none => .ok .null
    | some text => (Artifact.load text).map fun s => .str s.name
  | .documents entries, slug =>
    match entries.get? slug with
    | none => .ok .null
    | some d => (documentMetadata d).map (·.at "name")

/-- The warning that a strategy takes the place of one with another name. -/
def collisionWarning (s : Strategy) (previous : Json) : Option String :=
  if previous.isNull || previous.asString? == some s.name then none
  else
    some ("⚠️ Slug '" ++ s.slug ++ "' já pertencia a '" ++ previous.display ++
      "'; substituída por '" ++ s.name ++ "'")

/-- The store with an artifact under the slug of a strategy, and its metadata beside it. -/
def put : Store → Strategy → String → Store
  | .texts entries, s, text => .texts (entries.set s.slug text)
  | .documents entries, s, text =>
    .documents (entries.set s.slug ⟨.obj s.metadata.toObject, text⟩)

/-- What comes of saving a strategy: the store after it with the summary, or why it could not be
saved, and a warning if there is one. -/
structure Saved where
  result : Except Error (Store × Json.Object)
  warning : Option String

/-- Saves a strategy under its slug. A text store reads the name that is there before it writes the
artifact, so a warning may come before a failure; a document store writes the artifact first. -/
def save (st : Store) (s : Strategy) : Saved :=
  match st, st.nameAt s.slug, s.exportText with
  | .documents _, _, .error e => ⟨.error e, none⟩
  | _, .error e, _ => ⟨.error e, none⟩
  | _, .ok previous, text =>
    ⟨text.map fun text => (st.put s text, strategySummary s), collisionWarning s previous⟩

/-- The strategy under a slug. -/
def fetch (st : Store) (slug : String) : Except Error (Option Strategy) :=
  match st.artifact? slug with
  | none => .ok none
  | some text => (Artifact.load text).map some

/-- The summaries of all strategies, by slug. A text store reads them off the artifacts. -/
def list : Store → Except Error (List Json.Object)
  | .texts entries =>
    entries.sorted.mapM fun (slug, text) =>
      (Artifact.load text).map fun s => summary slug s.metadata.toObject
  | .documents entries =>
    entries.sorted.mapM fun (slug, d) => (documentMetadata d).map (summary slug)

/-- The store without a slug, and whether the slug was in use. -/
def remove : Store → String → Store × Bool
  | .texts entries, slug => (.texts (entries.erase slug), entries.has slug)
  | .documents entries, slug => (.documents (entries.erase slug), entries.has slug)

/-- Keeps a text under a slug, whatever it is. -/
def overwrite : Store → String → String → Json → Store
  | .texts entries, slug, text, _ => .texts (entries.set slug text)
  | .documents entries, slug, text, metadata => .documents (entries.set slug ⟨metadata, text⟩)

end Store
end RouletteStrategy
