import RouletteStrategy.Proofs.Graph.Spelled
import RouletteStrategy.Proofs.Strategy.RoundTrip

/-!
# Artifacts that were edited

The digested text denotes metadata and graph up to the order of keys, so an edited artifact with the
old checksum is accepted only if neither part has changed, or if the digests of two texts collide
(`Strategy.load_edited`).
-/

namespace RouletteStrategy

/-! ## Texts of metadata -/

theorem GatingRules.spelled_toObject (r : GatingRules) : (Json.obj r.toObject).Spelled := by
  refine Json.spelled_obj_of_keys (show ∀ key ∈ ["maxNumbersAuto", "maxNumbersHybrid",
    "minManualHybrid", "excludeZero"], Text.mark ∉ key.toList by decide) ?_
  simp only [toObject, List.forall_mem_cons]
  exact ⟨.int _, .int _, .int _, .bool _, by simp⟩

namespace Metadata

variable {o : Json.Object} {m : Metadata}

theorem spelled_textOr (ho : o.Spelled) (key : String) {default : String}
    (h : Text.mark ∉ default.toList) : Text.Spelled (textOr o key default).toList :=
  Json.spelled_display ((ho.valueAt key).orElse (.str (Text.spelled_of_notMem h)))

theorem spelled_toObject (ho : o.Spelled) (h : EntriesRead o m) :
    (Json.obj m.toObject).Spelled := by
  have name := h.name ▸ spelled_textOr ho "name" (by decide)
  have description := h.description ▸ spelled_textOr ho "description" (by decide)
  have version := h.version ▸ spelled_textOr ho "version" (by decide)
  have author := h.author ▸ spelled_textOr ho "author" (by decide)
  have category := h.category ▸ spelled_textOr ho "category" (by decide)
  have schemaVersion := h.schemaVersion ▸ spelled_textOr ho "schemaVersion" (by decide)
  have minSpins : m.minSpins.Spelled := h.minSpins ▸ (ho.valueAt "min_spins").orElse (.int 10)
  have maxNumbers : m.maxNumbers.Spelled :=
    h.maxNumbers ▸ (ho.valueAt "max_numbers").orElse (.int 6)
  have confidenceThreshold : m.confidenceThreshold.Spelled :=
    h.confidenceThreshold ▸ (ho.valueAt "confidence_threshold").orElse (.float _)
  have priority : m.priority.Spelled := h.priority ▸ (ho.valueAt "priority").orElse (.int 1)
  have modes : ∀ mode ∈ SelectionMode.known, Text.mark ∉ mode.name.toList := by decide
  have mode := Text.spelled_of_notMem (modes m.mode h.filled.mode)
  refine Json.spelled_obj_of_keys (show ∀ key ∈ ["name", "description", "version", "author",
    "category", "min_spins", "max_numbers", "confidence_threshold", "priority", "selectionMode",
    "gating", "schemaVersion"], Text.mark ∉ key.toList by decide) ?_
  simp only [toObject, List.forall_mem_cons]
  exact ⟨.str name, .str description, .str version, .str author, .str category, minSpins,
    maxNumbers, confidenceThreshold, priority, .str mode, m.gating.spelled_toObject,
    .str schemaVersion, by simp⟩

end Metadata

theorem Sha256.mark_notMem_hexDigest (s : String) : Text.mark ∉ (hexDigest s).toList := by
  have zero : Text.mark ≠ '0' := by decide
  rw [hexDigest, String.toList_ofList, List.mem_flatMap]
  rintro ⟨w, -, h⟩
  rcases List.mem_append.mp h with padding | digits
  · exact zero (List.eq_of_mem_replicate padding)
  · exact Text.mark_notMem_toDigits w.toNat digits

/-! ## What the digested text tells -/

theorem Json.Style.regular_compact : Json.Style.compact.Regular where
  newline _ _ h := absurd h List.not_mem_nil
  colon := ⟨[], rfl, fun _ h => absurd h List.not_mem_nil⟩

namespace Artifact

variable {metadata graph metadata' graph' : Json} {sum sum' : String}

theorem distinct_digestBody (metadata graph : Json) :
    (Members.keys (digestBody metadata graph).members).Nodup :=
  show ["metadata", "graph"].Nodup by decide

theorem wellFormed_digestBody (hm : metadata.WellFormed) (hg : graph.WellFormed) :
    (digestBody metadata graph).WellFormed := by
  refine .obj (distinct_digestBody metadata graph) ?_
  simp only [List.forall_mem_cons]
  exact ⟨hm, hg, by simp⟩

theorem spelled_digestBody (hm : metadata.Spelled) (hg : graph.Spelled) :
    (digestBody metadata graph).Spelled := by
  refine Json.spelled_obj_of_keys
    (show ∀ key ∈ ["metadata", "graph"], Text.mark ∉ key.toList by decide) ?_
  simp only [List.forall_mem_cons]
  exact ⟨hm, hg, by simp⟩

theorem alike_of_digestBody
    (h : (digestBody metadata graph).Alike (digestBody metadata' graph')) :
    metadata.Alike metadata' ∧ graph.Alike graph' := by
  have part : ∀ key, (Json.Object.at (digestBody metadata graph).members key).Alike
      (Json.Object.at (digestBody metadata' graph').members key) := by
    intro key
    rw [Json.Alike, ← Json.at_members_sorted (distinct_digestBody metadata graph),
      ← Json.at_members_sorted (distinct_digestBody metadata' graph')]
    exact congrArg (fun v => Json.Object.at v.members key) h
  exact ⟨part "metadata", part "graph"⟩

/-- The digested text denotes metadata and graph. -/
theorem parse_digestText (formed : (digestBody metadata graph).WellFormed)
    (low : (digestBody metadata graph).height ≤ Json.Parser.maxOpen) :
    Json.Parser.parse (digestText metadata graph) = .ok (digestBody metadata graph).sorted :=
  Json.Parser.parse_render Json.Style.regular_compact formed.sorted (by rwa [Json.height_sorted])

theorem spelled_digestText (h : (digestBody metadata graph).Spelled) :
    Text.Spelled (digestText metadata graph).toList :=
  Json.spelled_render Json.Style.regular_compact h.sorted

/-- A digest with the values that it stands for, which a text can denote. -/
structure Digested (metadata graph : Json) (sum : String) : Prop where
  formed : (digestBody metadata graph).WellFormed
  spelled : (digestBody metadata graph).Spelled
  check : checksum metadata graph = .ok sum

/-- One hashed text stands for one metadata and graph, up to the order of keys. -/
theorem Digested.alike_of_hashedText (d : Digested metadata graph sum)
    (d' : Digested metadata' graph' sum')
    (h : hashedText metadata graph = hashedText metadata' graph') :
    metadata.Alike metadata' ∧ graph.Alike graph' := by
  obtain ⟨low, whole, -⟩ := checksum_eq_ok.mp d.check
  obtain ⟨low', whole', -⟩ := checksum_eq_ok.mp d'.check
  have text : digestText metadata graph = digestText metadata' graph' :=
    Text.eq_of_toPlain (spelled_digestText d.spelled) (spelled_digestText d'.spelled) whole whole' h
  have parse := parse_digestText d.formed low
  rw [text, parse_digestText d'.formed low'] at parse
  exact alike_of_digestBody (Except.ok.inj parse).symm

/-- One digest stands for one metadata and graph, unless it is the digest of two texts. -/
theorem Digested.alike_or_collision (d : Digested metadata graph sum)
    (d' : Digested metadata' graph' sum) :
    (metadata.Alike metadata' ∧ graph.Alike graph') ∨
      (hashedText metadata graph ≠ hashedText metadata' graph' ∧
        Sha256.hexDigest (hashedText metadata graph) =
          Sha256.hexDigest (hashedText metadata' graph')) := by
  by_cases same : hashedText metadata graph = hashedText metadata' graph'
  · exact .inl (d.alike_of_hashedText d' same)
  · have digest := (checksum_eq_ok.mp d.check).2.2
    exact .inr ⟨same, digest.trans (checksum_eq_ok.mp d'.check).2.2.symm⟩

theorem digested_sorted (hm : metadata.WellFormed) (hg : graph.WellFormed) (sm : metadata.Spelled)
    (sg : graph.Spelled) (check : checksum metadata graph = .ok sum) :
    Digested metadata.sorted graph.sorted sum where
  formed := wellFormed_digestBody hm.sorted hg.sorted
  spelled := spelled_digestBody sm.sorted sg.sorted
  check := (checksum_congr (Json.sorted_sorted _) (Json.sorted_sorted _)).trans check

/-- Whatever is loaded has been digested with the checksum that it carries. -/
theorem exists_digested_of_load {text : String} {t : Json.Object}
    (parse : Json.Parser.parse text = .ok (.obj t)) (spelled : t.Spelled) (h : (load text).isOk) :
    ∃ sum, Digested (t.at "metadata") (t.at "graph") sum ∧
      (t.at "checksum").asString? = some sum := by
  obtain ⟨s, hs⟩ := exists_of_isOk h
  obtain ⟨_, mo, go, parse', parts, -⟩ := load_eq_ok.mp hs
  cases parse.symm.trans parse'
  obtain ⟨sum, check, carried⟩ := parts.checksum
  have formed := (Json.Parser.wellFormed_parse parse).members
  refine ⟨sum, ⟨?_, ?_, ?_⟩, carried⟩
  · exact wellFormed_digestBody (formed.valueAt "metadata") (formed.valueAt "graph")
  · exact spelled_digestBody (spelled.valueAt "metadata") (spelled.valueAt "graph")
  · rwa [show t.at "metadata" = .obj mo from Json.eq_obj_of_asObject? parts.metadata,
      show t.at "graph" = .obj go from Json.eq_obj_of_asObject? parts.graph]

end Artifact

/-! ## Accepted edits -/

namespace Strategy

variable {origin : Pairs.Origin} {o : Json.Object} {s : Strategy} {text : String}

theorem spelled_parts (ho : o.Spelled) (h : compileFields origin o = .ok s) :
    (Json.obj s.metadata.toObject).Spelled ∧ (Json.obj s.graph.body).Spelled := by
  obtain ⟨entries, -, -, read⟩ := compileFields_eq_ok.mp h
  have metadata := Metadata.spelled_toObject ho entries
  refine ⟨metadata, Graph.spelled_body (ho.overlay ?_) read⟩
  -- what the graph takes over is part of the metadata
  have part : ∀ kv ∈ s.metadata.graphFields, kv ∈ s.metadata.toObject := by
    simp [Metadata.graphFields, Metadata.toObject]
  exact fun kv hkv => Json.spelled_obj_iff.mp metadata kv (part kv hkv)

/-- An artifact that was edited under its old checksum is accepted only with the old metadata and
graph, up to the order of keys, or if two different texts have one digest. -/
theorem load_edited (formed : o.WellFormed) (spelled : o.Spelled)
    (h : compileFields origin o = .ok s) (hexport : s.exportText = .ok text) :
    ∃ a : Json.Object, Json.Parser.parse text = .ok (.obj a) ∧
      ∀ (edited : String) (t : Json.Object), Json.Parser.parse edited = .ok (.obj t) →
        (Json.obj t).Spelled → t.at "checksum" = a.at "checksum" → (Artifact.load edited).isOk →
        ((t.at "metadata").Alike (a.at "metadata") ∧ (t.at "graph").Alike (a.at "graph")) ∨
        (Artifact.hashedText (t.at "metadata") (t.at "graph") ≠
            Artifact.hashedText (a.at "metadata") (a.at "graph") ∧
          Sha256.hexDigest (Artifact.hashedText (t.at "metadata") (t.at "graph")) =
            Sha256.hexDigest (Artifact.hashedText (a.at "metadata") (a.at "graph"))) := by
  obtain ⟨sum, check, parse⟩ := parse_exportText formed h hexport
  have carried := Artifact.at_sorted_value (.obj s.metadata.toObject) (.obj s.graph.body) sum
  rw [← Artifact.obj_sorted_value] at parse
  refine ⟨_, parse, fun edited t read spelled_t kept accepted => ?_⟩
  obtain ⟨sum', digested', carried'⟩ :=
    Artifact.exists_digested_of_load read (Json.spelled_obj_iff.mp spelled_t) accepted
  obtain rfl : sum = sum' := by
    rw [kept, carried "checksum"] at carried'
    exact Option.some.inj carried'
  obtain ⟨spelled_metadata, spelled_body⟩ := spelled_parts spelled h
  have digested := Artifact.digested_sorted (wellFormed_metadata formed h)
    (wellFormed_body formed h) spelled_metadata spelled_body check
  rw [carried "metadata", carried "graph"]
  exact digested'.alike_or_collision digested

/-! ## An edit that changes neither part -/

/-- The parts of an artifact in another order, with a note beside them. -/
def notedRun : Json.Object :=
  let metadata := .obj redRunStrategy.metadata.toObject
  let graph := .obj redRunStrategy.graph.body
  ("note", .str "checked") ::
    (Artifact.value metadata graph (Sha256.hexDigest (Artifact.hashedText metadata graph))).members

theorem spelled_redRun : Json.Object.Spelled redRun := by
  have text : ∀ {s : String}, Text.mark ∉ s.toList → (Json.str s).Spelled := fun h =>
    .str (Text.spelled_of_notMem h)
  have config : (Json.obj [("evento", .str "red")]).Spelled :=
    Json.spelled_obj_of_keys (by decide) (by simpa using text (by decide))
  have run : (Json.obj [("id", .str "run"), ("type", .str "condition"),
      ("subtype", .str "repetition"), ("config", .obj [("evento", .str "red")])]).Spelled := by
    refine Json.spelled_obj_of_keys (by decide) ?_
    simp only [List.forall_mem_cons]
    exact ⟨text (by decide), text (by decide), text (by decide), config, by simp⟩
  have bet : (Json.obj [("id", .str "bet"), ("type", .str "signal")]).Spelled := by
    refine Json.spelled_obj_of_keys (by decide) ?_
    simp only [List.forall_mem_cons]
    exact ⟨text (by decide), text (by decide), by simp⟩
  have link : (Json.obj [("source", .str "run"), ("target", .str "bet")]).Spelled := by
    refine Json.spelled_obj_of_keys (by decide) ?_
    simp only [List.forall_mem_cons]
    exact ⟨text (by decide), text (by decide), by simp⟩
  refine Json.spelled_obj_iff.mp (Json.spelled_obj_of_keys (by decide) ?_)
  simp only [redRun, List.forall_mem_cons]
  exact ⟨text (by decide), .arr (by simpa using ⟨run, bet⟩), .arr (by simpa using link), by simp⟩

theorem wellFormed_notedRun : (Json.obj notedRun).WellFormed := by
  have metadata := wellFormed_metadata wellFormed_redRun.members compile_redRun
  have graph := wellFormed_body wellFormed_redRun.members compile_redRun
  refine .obj (show ["note", "format", "metadata", "graph", "checksum"].Nodup by decide) ?_
  simp only [notedRun, Artifact.value, Json.members, List.forall_mem_cons]
  exact ⟨.str _, .str _, metadata, graph, .str _, by simp⟩

theorem spelled_notedRun : (Json.obj notedRun).Spelled := by
  obtain ⟨metadata, graph⟩ := spelled_parts spelled_redRun compile_redRun
  refine Json.spelled_obj_of_keys (show ∀ key ∈ ["note", "format", "metadata", "graph",
    "checksum"], Text.mark ∉ key.toList by decide) ?_
  simp only [notedRun, Artifact.value, Json.members, List.forall_mem_cons]
  exact ⟨.str (Text.spelled_of_notMem (by decide)), .str (Text.spelled_of_notMem (by decide)),
    metadata, graph, .str (Text.spelled_of_notMem (Sha256.mark_notMem_hexDigest _)), by simp⟩

theorem load_edited_notedRun : ∃ a : Json.Object,
    Json.Parser.parse redRunText = .ok (.obj a) ∧
      (((notedRun.at "metadata").Alike (a.at "metadata") ∧
          (notedRun.at "graph").Alike (a.at "graph")) ∨
        (Artifact.hashedText (notedRun.at "metadata") (notedRun.at "graph") ≠
            Artifact.hashedText (a.at "metadata") (a.at "graph") ∧
          Sha256.hexDigest (Artifact.hashedText (notedRun.at "metadata") (notedRun.at "graph")) =
            Sha256.hexDigest (Artifact.hashedText (a.at "metadata") (a.at "graph")))) := by
  obtain ⟨sum, check, value⟩ :=
    parse_exportText wellFormed_redRun.members compile_redRun exportText_redRun
  obtain ⟨low, -, rfl⟩ := Artifact.checksum_eq_ok.mp check
  have read : Json.Parser.parse (Json.render .indented (.obj notedRun)) = .ok (.obj notedRun) :=
    Json.Parser.parse_render Json.Style.regular_indented wellFormed_notedRun low
  have verified : Artifact.verifiedParts (.obj notedRun) =
      .ok (redRunStrategy.metadata.toObject, redRunStrategy.graph.body) :=
    Artifact.verifiedParts_eq_ok.mpr ⟨rfl, rfl, rfl, ⟨_, check, rfl⟩, by decide⟩
  have accepted : (Artifact.load (Json.render .indented (.obj notedRun))).isOk := by
    simp only [Artifact.load, read, Artifact.ofJson, verified]
    rfl
  obtain ⟨a, parse, edited⟩ :=
    load_edited wellFormed_redRun.members spelled_redRun compile_redRun exportText_redRun
  have kept : notedRun.at "checksum" = a.at "checksum" := by
    have same := congrArg (fun v : Json => v.members.at "checksum")
      (Except.ok.inj (value.symm.trans parse))
    exact (Artifact.at_sorted_value _ _ _ "checksum").symm.trans same
  exact ⟨a, parse, edited _ notedRun read spelled_notedRun kept accepted⟩

end Strategy
end RouletteStrategy
