import RouletteStrategy.Proofs.Json.RoundTrip
import RouletteStrategy.Proofs.Strategy.Compile
import RouletteStrategy.Strategy.Artifact

/-!
# Strategies loaded from their artifacts

A loader does not restore a strategy: it compiles the fields of the text anew. What comes back is
`Strategy.stored`, which is exported as the same text.
-/

namespace RouletteStrategy

/-! ## The two parts -/

namespace Artifact

variable {metadata graph metadata' graph' : Json}

theorem sorted_digestBody (metadata graph : Json) :
    (digestBody metadata graph).sorted = (digestBody metadata.sorted graph.sorted).sorted := by
  simp only [digestBody, Json.sorted, Json.sortedMembers, Json.sorted_sorted]

/-- The digest does not depend on the order of keys. -/
theorem checksum_congr (hm : metadata.Alike metadata') (hg : graph.Alike graph') :
    checksum metadata graph = checksum metadata' graph' := by
  have sorted : (digestBody metadata graph).sorted = (digestBody metadata' graph').sorted := by
    rw [sorted_digestBody, hm, hg, ← sorted_digestBody]
  have height : (digestBody metadata graph).height = (digestBody metadata' graph').height := by
    rw [← Json.height_sorted, sorted, Json.height_sorted]
  simp only [checksum, digestText, Json.canonical, sorted, height]

/-- The text whose bytes are digested. -/
def hashedText (metadata graph : Json) : String := Text.toPlain (digestText metadata graph)

/-- What has a text without halves has a digest. -/
theorem checksum_eq_ok {sum : String} : checksum metadata graph = .ok sum ↔
    (digestBody metadata graph).height ≤ Json.Parser.maxOpen ∧
      Text.halfRun? (digestText metadata graph) = none ∧
      Sha256.hexDigest (hashedText metadata graph) = sum := by
  simp only [checksum, hashedText]
  split
  next high => simp [Nat.not_le_of_lt high]
  next low =>
    split
    next whole => simp [Nat.le_of_not_lt low, whole]
    next half => simp [half]

/-- The value of an artifact with a checksum. -/
def value (metadata graph : Json) (sum : String) : Json :=
  .obj [("format", .str format), ("metadata", metadata), ("graph", graph), ("checksum", .str sum)]

theorem ofParts_eq_ok {v : Json} : ofParts metadata graph = .ok v ↔
    ∃ sum, checksum metadata graph = .ok sum ∧ value metadata graph sum = v := by
  rw [ofParts, bind_eq_ok]
  constructor
  · rintro ⟨sum, read, h⟩
    exact ⟨sum, read, Except.ok.inj h⟩
  · rintro ⟨sum, read, rfl⟩
    exact ⟨sum, read, rfl⟩

theorem distinct_value (metadata graph : Json) (sum : String) :
    (Members.keys (value metadata graph sum).members).Nodup :=
  show ["format", "metadata", "graph", "checksum"].Nodup by decide

theorem obj_sorted_value (metadata graph : Json) (sum : String) :
    Json.obj (value metadata graph sum).sorted.members = (value metadata graph sum).sorted :=
  Json.obj_members_sorted _

theorem at_sorted_value (metadata graph : Json) (sum key : String) :
    Json.Object.at (value metadata graph sum).sorted.members key =
      (Json.Object.at (value metadata graph sum).members key).sorted :=
  Json.at_members_sorted (distinct_value metadata graph sum) key

theorem height_value (metadata graph : Json) (sum : String) :
    (value metadata graph sum).height = (digestBody metadata graph).height := by
  simp [value, digestBody, Json.height, Json.heightOfMembers]

theorem wellFormed_value (hm : metadata.WellFormed) (hg : graph.WellFormed) (sum : String) :
    (value metadata graph sum).WellFormed := by
  refine .obj (distinct_value metadata graph sum) ?_
  simp only [List.forall_mem_cons]
  exact ⟨.str _, hm, hg, .str _, by simp⟩

theorem sorted_value_congr (hm : metadata.Alike metadata') (hg : graph.Alike graph')
    (sum : String) :
    (value metadata graph sum).sorted = (value metadata' graph' sum).sorted := by
  have hm : metadata.sorted = metadata'.sorted := hm
  have hg : graph.sorted = graph'.sorted := hg
  simp only [value, Json.sorted, Json.sortedMembers, hm, hg]

/-- What is checked in an artifact: its format, its checksum, and the version of its schema. -/
structure Verified (o mo go : Json.Object) : Prop where
  format : (o.at "format").asString? = some format
  metadata : (o.at "metadata").asObject? = some mo
  graph : (o.at "graph").asObject? = some go
  checksum : ∃ sum, checksum (.obj mo) (.obj go) = .ok sum ∧
    (o.at "checksum").asString? = some sum
  version : (mo.at "schemaVersion").asString?.any (· ∈ supportedVersions)

theorem verifiedParts_eq_ok {v : Json} {mo go : Json.Object} :
    verifiedParts v = .ok (mo, go) ↔ Verified v.members mo go := by
  unfold verifiedParts
  constructor
  · intro h
    simp only at h
    split at h
    · cases h
    next format =>
      split at h
      next hmetadata hgraph =>
        obtain ⟨sum, check, h⟩ := bind_eq_ok.mp h
        split at h
        · cases h
        next same =>
          split at h
          next version =>
            cases h
            exact ⟨not_not.mp format, hmetadata, hgraph, ⟨sum, check, not_not.mp same⟩, version⟩
          · cases h
      next => cases h
  · rintro ⟨format, hmetadata, hgraph, ⟨sum, check, same⟩, version⟩
    simp only [format, hmetadata, hgraph, check, ne_eq, not_true_eq_false, if_false]
    exact bind_eq_ok.mpr ⟨sum, rfl, by rw [if_neg (not_not_intro same), if_pos version]; rfl⟩

section Load

variable {o mo go : Json.Object} {text : String} {s : Strategy}

theorem compileParts_eq_ok : compileParts mo go = .ok s ↔
    Strategy.compileFields .text (merged mo go) = .ok s := by
  unfold compileParts
  cases compiled : Strategy.compileFields .text (merged mo go) with
  | ok s' => rfl
  | error e => cases e <;> exact iff_of_false nofun nofun

theorem load_eq_bind (parse : Json.Parser.parse text = .ok (.obj o)) :
    load text = verifiedParts (.obj o) >>= fun parts => compileParts parts.1 parts.2 := by
  simp only [load, parse, ofJson]

theorem load_of_verified (parse : Json.Parser.parse text = .ok (.obj o))
    (verified : Verified o mo go) : load text = compileParts mo go := by
  have parts : verifiedParts (.obj o) = .ok (mo, go) := verifiedParts_eq_ok.mpr verified
  rw [load_eq_bind parse, parts]
  rfl

/-- A text is loaded exactly if it denotes an artifact that passes the checks and is compiled. -/
theorem load_eq_ok : load text = .ok s ↔ ∃ o mo go, Json.Parser.parse text = .ok (.obj o) ∧
    Verified o mo go ∧ Strategy.compileFields .text (merged mo go) = .ok s := by
  constructor
  · intro h
    cases parse : Json.Parser.parse text with
    | error fault => cases fault <;> simp only [load, parse] at h <;> cases h
    | ok v =>
        cases v with
        | obj o =>
            rw [load_eq_bind parse] at h
            obtain ⟨⟨mo, go⟩, parts, compiled⟩ := bind_eq_ok.mp h
            exact ⟨o, mo, go, rfl, verifiedParts_eq_ok.mp parts, compileParts_eq_ok.mp compiled⟩
        | _ =>
            simp only [load, parse] at h
            cases h
  · rintro ⟨o, mo, go, parse, verified, compiled⟩
    rw [load_of_verified parse verified]
    exact compileParts_eq_ok.mpr compiled

end Load

/-- The parts of an artifact come back with sorted keys. -/
theorem verifiedParts_sorted {mo go : Json.Object} {sum version : String}
    (distinct : (Members.keys mo).Nodup) (hversion : mo.at "schemaVersion" = .str version)
    (supported : version ∈ supportedVersions) (h : checksum (.obj mo) (.obj go) = .ok sum) :
    verifiedParts (value (.obj mo) (.obj go) sum).sorted =
      .ok ((Json.obj mo).sorted.members, (Json.obj go).sorted.members) := by
  have lookup := at_sorted_value (.obj mo) (.obj go) sum
  have part : ∀ o : Json.Object,
      (Json.obj o).sorted.asObject? = some (Json.obj o).sorted.members := by
    intro o
    rw [Json.sorted_obj]
    rfl
  have check : checksum (.obj (Json.obj mo).sorted.members) (.obj (Json.obj go).sorted.members) =
      .ok sum := by
    rw [Json.obj_members_sorted, Json.obj_members_sorted, ← h]
    exact checksum_congr (Json.sorted_sorted _) (Json.sorted_sorted _)
  refine verifiedParts_eq_ok.mpr ⟨?_, ?_, ?_, ⟨sum, check, ?_⟩, ?_⟩
  · rw [lookup "format"]
    rfl
  · rw [lookup "metadata"]
    exact part mo
  · rw [lookup "graph"]
    exact part go
  · rw [lookup "checksum"]
    rfl
  · rw [Json.at_members_sorted distinct, hversion]
    exact decide_eq_true supported

end Artifact

/-! ## The strategy that comes back -/

namespace Graph

theorem issues_congr {g h : Graph} (ids : g.nodeIds = h.nodeIds)
    (connections : g.connections = h.connections) : g.issues = h.issues := by
  rw [issues, issues, ids, connections]

theorem distinct_body (g : Graph) : (Members.keys g.body).Nodup :=
  show ["nodes", "connections"].Nodup by decide

theorem wellFormed_body {g : Graph} (h : ∀ n ∈ g.nodes, n.config.WellFormed) :
    (Json.obj g.body).WellFormed := by
  refine .obj g.distinct_body ?_
  simp only [body, List.forall_mem_cons]
  exact ⟨.arr (List.forall_mem_map.mpr fun n hn => Node.wellFormed_toJson (h n hn)),
    .arr (List.forall_mem_map.mpr fun c _ => c.wellFormed_toJson), by simp⟩

theorem height_body_le {g : Graph} (free : ∀ n ∈ g.nodes, n.config.obstacle? = none) :
    (Json.obj g.body).height ≤ Json.maxHeight + 4 := by
  have nodes : (Json.arr (g.nodes.map Node.toJson)).height ≤ Json.maxHeight + 3 :=
    Json.height_arr_le_iff.mpr <| List.forall_mem_map.mpr fun n hn =>
      Node.height_toJson_le (free n hn)
  have connections : (Json.arr (g.connections.map Connection.toJson)).height ≤ 2 :=
    Json.height_arr_le_iff.mpr <| List.forall_mem_map.mpr fun c _ => c.height_toJson.le
  refine Json.height_obj_le_iff.mpr ?_
  simp only [body, List.forall_mem_cons]
  exact ⟨nodes, connections.trans (Nat.le_add_left _ _), by simp⟩

theorem writeBody_eq_ok {g : Graph} {body : Json.Object} : g.writeBody = .ok body ↔
    (∀ n ∈ g.nodes, n.config.obstacle? = none) ∧ g.body = body := by
  unfold writeBody
  split
  · next found =>
    obtain ⟨n, hn, obstacle⟩ := List.exists_of_findSome?_eq_some found
    constructor
    · intro h
      cases h
    · rintro ⟨free, -⟩
      rw [free n hn] at obstacle
      cases obstacle
  · next free =>
    rw [Except.ok.injEq, and_iff_right (List.findSome?_eq_none_iff.mp free)]

end Graph

namespace Strategy

variable {origin : Pairs.Origin} {o : Json.Object} {s : Strategy} {text : String}

/-- The strategy that is loaded from the artifact of a strategy. -/
def stored (s : Strategy) : Strategy where
  metadata := s.metadata.stored
  graph :=
    { name := s.metadata.name
      description := s.metadata.description
      version := s.metadata.version
      mode := s.metadata.mode
      gating := s.metadata.gating.toObject
      schemaVersion := s.metadata.schemaVersion
      nodes := s.graph.nodes.map Node.stored
      connections := s.graph.connections }

theorem issues_stored (s : Strategy) : s.stored.graph.issues = s.graph.issues := by
  refine Graph.issues_congr ?_ rfl
  simp only [Graph.nodeIds, stored, List.map_map]
  rfl

/-- The fields to compile when the artifact of a strategy is loaded. -/
def storedFields (s : Strategy) : Json.Object :=
  Artifact.merged (Json.obj s.metadata.toObject).sorted.members
    (Json.obj s.graph.body).sorted.members

theorem get?_storedFields (s : Strategy) (key : String) :
    Members.get? s.storedFields key =
      ((Members.get? s.graph.body key).or (Members.get? s.metadata.toObject key)).map
        Json.sorted := by
  have distinct : (Members.keys (Json.obj s.graph.body).sorted.members).Nodup := by
    rw [Json.sorted_obj, Json.members, Members.keys_map, Members.nodup_keys_sorted]
    exact s.graph.distinct_body
  rw [storedFields, Artifact.merged, Members.get?_overlay_of_nodup _ distinct,
    Json.get?_members_sorted s.graph.distinct_body,
    Json.get?_members_sorted s.metadata.distinct_toObject, Option.map_or]

theorem at_storedFields (s : Strategy) {key : String} (h : Members.get? s.graph.body key = none) :
    Json.Object.at s.storedFields key = (Json.Object.at s.metadata.toObject key).sorted := by
  rw [Json.Object.at, get?_storedFields, h, Option.none_or, Json.Object.at]
  cases Members.get? s.metadata.toObject key <;> rfl

theorem entriesRead_stored (h : Metadata.EntriesRead o s.metadata) :
    Metadata.EntriesRead s.storedFields s.metadata.stored := by
  refine Metadata.ofObject_eq_ok.mp (Metadata.ofObject_of_at h.filled fun key hkey => ?_)
  refine s.at_storedFields ?_
  have other : ∀ key ∈ ["name", "description", "version", "author", "category", "min_spins",
      "max_numbers", "confidence_threshold", "priority", "selectionMode", "gating",
      "schemaVersion"],
      key ∉ ["nodes", "connections"] := by decide
  exact Members.get?_eq_none_iff.mpr (other key hkey)

/-- The graph is read from the written nodes and connections under the entries of the metadata. -/
theorem readFrom_stored (h : compileFields origin o = .ok s) (origin' : Pairs.Origin) :
    Graph.readFrom origin'
      (.obj (Members.overlay s.storedFields s.metadata.stored.graphFields)) =
        .ok s.stored.graph := by
  obtain ⟨entries, -, -, read⟩ := compileFields_eq_ok.mp h
  have filled := entries.filled
  generalize hfields : Members.overlay s.storedFields s.metadata.stored.graphFields = fields
  have lookup : ∀ key, Members.get? fields key =
      (Members.get? s.metadata.stored.graphFields key).or
        (((Members.get? s.graph.body key).or (Members.get? s.metadata.toObject key)).map
          Json.sorted) := by
    intro key
    rw [← hfields, Members.get?_overlay_of_nodup _ s.metadata.stored.distinct_graphFields,
      get?_storedFields]
  have flat : Schema.unnest fields = fields := by
    refine Schema.unnest_of_flat ?_
    rw [Json.Object.at, lookup]
    rfl
  have nodes : Members.get? fields "nodes" =
      some (.arr (s.graph.nodes.map fun n => n.toJson.sorted)) := by
    have written : Members.get? fields "nodes" =
        some (Json.arr (s.graph.nodes.map Node.toJson)).sorted := lookup "nodes"
    rw [written, Json.sorted_arr, List.map_map]
    rfl
  have connections : Members.get? fields "connections" =
      some (.arr (s.graph.connections.map fun c => c.toJson.sorted)) := by
    have written : Members.get? fields "connections" =
        some (Json.arr (s.graph.connections.map Connection.toJson)).sorted := lookup "connections"
    rw [written, Json.sorted_arr, List.map_map]
    rfl
  have header : ∀ key v, Members.get? s.metadata.stored.graphFields key = some v →
      Members.get? fields key = some v := by
    intro key v h
    rw [lookup, h, Option.some_or]
  obtain ⟨forms, hforms, hnodes⟩ := Schema.readNodes_toJson origin' nodes
  have hconnections :=
    Schema.readConnections_toJson (Graph.id_ne_empty read) (lookup "edges") connections
  refine Graph.readFrom_eq_ok.mpr ⟨⟨forms, flat.symm ▸ hforms, ?_⟩, ?_⟩
  · rw [flat]
    exact {
      name := by simp only [Schema.readText, header "name" _ rfl]; rfl
      description := by simp only [Schema.readText, header "description" _ rfl]; rfl
      version := by simp only [Schema.readVersion, header "version" _ rfl]; rfl
      schemaVersion := by simp only [Schema.readVersion, header "schemaVersion" _ rfl]; rfl
      nodes := hnodes
      connections := hconnections
      mode := by
        rw [Json.Object.at, header "selectionMode" _ rfl]
        exact SelectionMode.read_name filled.mode _
      gating := by
        rw [Json.Object.at, header "gating" _ rfl]
        rfl }
  · rw [issues_stored]
    exact (Graph.readFrom_eq_ok.mp read).2

/-- What can be written of a strategy can be copied again. -/
theorem height_storedFields_le (h : compileFields origin o = .ok s)
    (free : ∀ n ∈ s.graph.nodes, n.config.obstacle? = none) :
    (Json.obj s.storedFields).height ≤ maxCopied := by
  obtain ⟨entries, -, low, -⟩ := compileFields_eq_ok.mp h
  refine Json.height_overlay_le ?_ ?_
  · rw [Json.obj_members_sorted, Json.height_sorted]
    exact Metadata.height_toObject_le entries low
  · rw [Json.obj_members_sorted, Json.height_sorted]
    exact (Graph.height_body_le free).trans (by decide)

/-- Compiling what was written of a strategy gives the stored one. -/
theorem compileFields_stored (h : compileFields origin o = .ok s)
    (free : ∀ n ∈ s.graph.nodes, n.config.obstacle? = none) (origin' : Pairs.Origin) :
    compileFields origin' s.storedFields = .ok s.stored := by
  obtain ⟨entries, valid, -⟩ := compileFields_eq_ok.mp h
  exact compileFields_eq_ok.mpr ⟨entriesRead_stored entries, valid, height_storedFields_le h free,
    readFrom_stored h origin'⟩

/-- What a strategy is exported as. -/
theorem exportText_eq_ok : s.exportText = .ok text ↔
    (∀ n ∈ s.graph.nodes, n.config.obstacle? = none) ∧ ∃ sum,
      Artifact.checksum (.obj s.metadata.toObject) (.obj s.graph.body) = .ok sum ∧
        (Artifact.value (.obj s.metadata.toObject) (.obj s.graph.body) sum).pretty = text := by
  rw [exportText, artifact, bind_eq_ok]
  constructor
  · rintro ⟨v, parts, h⟩
    obtain ⟨body, write, parts⟩ := bind_eq_ok.mp parts
    obtain ⟨free, rfl⟩ := Graph.writeBody_eq_ok.mp write
    obtain ⟨sum, check, rfl⟩ := Artifact.ofParts_eq_ok.mp parts
    exact ⟨free, sum, check, Except.ok.inj h⟩
  · rintro ⟨free, sum, check, rfl⟩
    refine ⟨_, bind_eq_ok.mpr ⟨_, Graph.writeBody_eq_ok.mpr ⟨free, rfl⟩, ?_⟩, rfl⟩
    exact Artifact.ofParts_eq_ok.mpr ⟨sum, check, rfl⟩

theorem wellFormed_metadata (ho : o.WellFormed) (h : compileFields origin o = .ok s) :
    (Json.obj s.metadata.toObject).WellFormed :=
  Metadata.wellFormed_toObject ho (compileFields_eq_ok.mp h).1

theorem wellFormed_body (ho : o.WellFormed) (h : compileFields origin o = .ok s) :
    (Json.obj s.graph.body).WellFormed := by
  obtain ⟨entries, -, -, read⟩ := compileFields_eq_ok.mp h
  have fields := ho.overlay (Metadata.wellFormed_graphFields entries.filled)
  exact Graph.wellFormed_body fun n hn => (Graph.wellFormed_config fields read n hn).members

/-- What was exported denotes the artifact with its checksum. -/
theorem parse_exportText (ho : o.WellFormed) (h : compileFields origin o = .ok s)
    (hexport : s.exportText = .ok text) :
    ∃ sum, Artifact.checksum (.obj s.metadata.toObject) (.obj s.graph.body) = .ok sum ∧
      Json.Parser.parse text =
        .ok (Artifact.value (.obj s.metadata.toObject) (.obj s.graph.body) sum).sorted := by
  obtain ⟨-, sum, check, rfl⟩ := exportText_eq_ok.mp hexport
  have low : (Artifact.value (.obj s.metadata.toObject) (.obj s.graph.body) sum).height ≤
      Json.Parser.maxOpen := by
    rw [Artifact.height_value]
    exact (Artifact.checksum_eq_ok.mp check).1
  have formed := Artifact.wellFormed_value (wellFormed_metadata ho h) (wellFormed_body ho h) sum
  exact ⟨sum, check, Json.Parser.parse_pretty formed low⟩

/-- What was exported is loaded as the stored strategy. -/
theorem load_exportText (ho : o.WellFormed) (h : compileFields origin o = .ok s)
    (hexport : s.exportText = .ok text) : Artifact.load text = .ok s.stored := by
  obtain ⟨-, valid, -⟩ := compileFields_eq_ok.mp h
  obtain ⟨sum, check, parse⟩ := parse_exportText ho h hexport
  have verified := Artifact.verifiedParts_sorted s.metadata.distinct_toObject rfl
    (Metadata.issues_eq_nil_iff.mp valid).1 check
  have compiled : Strategy.compileFields .text (Artifact.merged
      (Json.obj s.metadata.toObject).sorted.members (Json.obj s.graph.body).sorted.members) =
        .ok s.stored := compileFields_stored h (exportText_eq_ok.mp hexport).1 .text
  exact Artifact.load_eq_ok.mpr ⟨_, _, _, parse, Artifact.verifiedParts_eq_ok.mp verified, compiled⟩

/-- The parts of a stored strategy are those of the strategy but for the order of keys. -/
theorem alike_metadata (s : Strategy) :
    (Json.obj s.stored.metadata.toObject).Alike (.obj s.metadata.toObject) := by
  refine Json.alike_obj ?_
  simp only [stored, Metadata.stored, Metadata.toObject, Json.sortedMembers, Json.sorted_sorted]

theorem alike_body (s : Strategy) : (Json.obj s.stored.graph.body).Alike (.obj s.graph.body) := by
  have nodes : (s.stored.graph.nodes.map Node.toJson).map Json.sorted =
      (s.graph.nodes.map Node.toJson).map Json.sorted := by
    simp only [stored, List.map_map]
    exact List.map_congr_left fun n _ => n.sorted_toJson_stored
  have list : (Json.arr (s.stored.graph.nodes.map Node.toJson)).sorted =
      (Json.arr (s.graph.nodes.map Node.toJson)).sorted := by
    rw [Json.sorted_arr, Json.sorted_arr, nodes]
  have same : s.stored.graph.connections = s.graph.connections := rfl
  refine Json.alike_obj ?_
  simp only [Graph.body, Json.sortedMembers, list, same]

/-- A strategy whose configurations can be written is exported as any that is like it. -/
theorem exportText_of_alike {t : Strategy}
    (metadata : (Json.obj s.metadata.toObject).Alike (.obj t.metadata.toObject))
    (body : (Json.obj s.graph.body).Alike (.obj t.graph.body))
    (free : ∀ n ∈ t.graph.nodes, n.config.obstacle? = none) (h : s.exportText = .ok text) :
    t.exportText = .ok text := by
  obtain ⟨-, sum, check, rfl⟩ := exportText_eq_ok.mp h
  refine exportText_eq_ok.mpr ⟨free, sum, ?_, ?_⟩
  · rw [← check]
    exact (Artifact.checksum_congr metadata body).symm
  · rw [Json.pretty, Json.pretty, Artifact.sorted_value_congr metadata body]

/-- A stored strategy is exported as the same text. -/
theorem exportText_stored (h : s.exportText = .ok text) : s.stored.exportText = .ok text := by
  refine exportText_of_alike s.alike_metadata.symm s.alike_body.symm ?_ h
  refine List.forall_mem_map.mpr fun n hn => ?_
  exact Json.Object.obstacle?_stored ((exportText_eq_ok.mp h).1 n hn)

end Strategy
end RouletteStrategy
