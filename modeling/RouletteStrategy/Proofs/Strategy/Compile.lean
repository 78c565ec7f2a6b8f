import RouletteStrategy.Proofs.Gating.Reading
import RouletteStrategy.Proofs.Graph.Configurations
import RouletteStrategy.Proofs.Graph.Stored
import RouletteStrategy.Strategy.Compile

/-!
# Metadata that was read, and strategies that were compiled

Every entry of metadata that was read is filled in (`Metadata.Filled`), so metadata are read back
from what they are written as; a strategy is compiled exactly if its metadata and its graph are
read.
-/

namespace RouletteStrategy

theorem Json.isSet_orElse {default : Json} (h : default.isSet) (v : Json) :
    (v.orElse default).isSet := by
  rw [orElse]
  split
  · assumption
  · exact h

theorem Json.orElse_of_isSet {v : Json} (h : v.isSet) (default : Json) : v.orElse default = v :=
  if_pos h

namespace Metadata

variable {o : Json.Object} {m : Metadata}

theorem textOr_ne_empty (o : Json.Object) (key : String) {default : String} (h : default ≠ "") :
    textOr o key default ≠ "" :=
  Json.display_ne_empty (Json.isSet_orElse (by simpa [Json.isSet] using h) (o.at key))

theorem textOr_of_at {key s : String} (h : o.at key = .str s) (set : s ≠ "") (default : String) :
    textOr o key default = s := by
  have isSet : (Json.str s).isSet := by simpa [Json.isSet] using set
  rw [textOr, h, Json.orElse_of_isSet isSet, Json.display]

theorem orElse_of_at {key : String} {v : Json} (h : o.at key = v.sorted) (isSet : v.isSet)
    (default : Json) : (o.at key).orElse default = v.sorted := by
  rw [h]
  exact Json.orElse_of_isSet ((Json.isSet_sorted v).trans isSet) default

/-- Texts are not empty, numbers are set, the mode is a known one, and rules are within bounds. -/
structure Filled (m : Metadata) : Prop where
  name : m.name ≠ ""
  description : m.description ≠ ""
  version : m.version ≠ ""
  author : m.author ≠ ""
  category : m.category ≠ ""
  minSpins : m.minSpins.isSet
  maxNumbers : m.maxNumbers.isSet
  confidenceThreshold : m.confidenceThreshold.isSet
  priority : m.priority.isSet
  mode : m.mode ∈ SelectionMode.known
  gating : m.gating.InBounds
  schemaVersion : m.schemaVersion ≠ ""

/-- Each entry of metadata is what is read from the field of the payload. -/
structure EntriesRead (o : Json.Object) (m : Metadata) : Prop where
  name : textOr o "name" Schema.defaultName = m.name
  description : textOr o "description" "Estratégia criada via Builder" = m.description
  version : textOr o "version" Schema.defaultVersion = m.version
  author : textOr o "author" "SOFIA Builder" = m.author
  category : textOr o "category" "dynamic" = m.category
  minSpins : (o.at "min_spins").orElse (.int 10) = m.minSpins
  maxNumbers : (o.at "max_numbers").orElse (.int 6) = m.maxNumbers
  confidenceThreshold : (o.at "confidence_threshold").orElse
    (.float (Binary64.ofRatio false 6 10)) = m.confidenceThreshold
  priority : (o.at "priority").orElse (.int 1) = m.priority
  mode : SelectionMode.read (o.at "selectionMode") .automatic = m.mode
  gating : GatingRules.ofObject (o.at "gating").members = .ok m.gating
  schemaVersion : textOr o "schemaVersion" Schema.currentSchema = m.schemaVersion

theorem ofObject_eq_ok : ofObject o = .ok m ↔ EntriesRead o m := by
  rw [ofObject, bind_eq_ok]
  constructor
  · rintro ⟨gating, read, h⟩
    cases h
    constructor
    all_goals dsimp only
    exact read
  · intro h
    refine ⟨m.gating, h.gating, ?_⟩
    rw [h.name, h.description, h.version, h.author, h.category, h.minSpins, h.maxNumbers,
      h.confidenceThreshold, h.priority, h.mode, h.schemaVersion]
    rfl

theorem EntriesRead.filled (h : EntriesRead o m) : m.Filled where
  name := h.name ▸ textOr_ne_empty o "name" (by decide)
  description := h.description ▸ textOr_ne_empty o "description" (by decide)
  version := h.version ▸ textOr_ne_empty o "version" (by decide)
  author := h.author ▸ textOr_ne_empty o "author" (by decide)
  category := h.category ▸ textOr_ne_empty o "category" (by decide)
  minSpins := h.minSpins ▸ Json.isSet_orElse (by decide) _
  maxNumbers := h.maxNumbers ▸ Json.isSet_orElse (by decide) _
  confidenceThreshold := h.confidenceThreshold ▸ Json.isSet_orElse (by decide) _
  priority := h.priority ▸ Json.isSet_orElse (by decide) _
  mode := h.mode ▸ SelectionMode.read_mem_known _ (by decide)
  gating := GatingRules.inBounds_ofObject h.gating
  schemaVersion := h.schemaVersion ▸ textOr_ne_empty o "schemaVersion" (by decide)

/-- The metadata that are read back from what metadata are written as. -/
def stored (m : Metadata) : Metadata :=
  { m with
    minSpins := m.minSpins.sorted
    maxNumbers := m.maxNumbers.sorted
    confidenceThreshold := m.confidenceThreshold.sorted
    priority := m.priority.sorted }

theorem distinct_toObject (m : Metadata) : (Members.keys m.toObject).Nodup :=
  show ["name", "description", "version", "author", "category", "min_spins", "max_numbers",
    "confidence_threshold", "priority", "selectionMode", "gating", "schemaVersion"].Nodup by decide

/-- Metadata are read back from fields with what they are written as under their keys. -/
theorem ofObject_of_at (filled : m.Filled) (h : ∀ key ∈ Members.keys m.toObject,
    o.at key = (Json.Object.at m.toObject key).sorted) : ofObject o = .ok m.stored := by
  have mem : ∀ {key}, key ∈ ["name", "description", "version", "author", "category", "min_spins",
      "max_numbers", "confidence_threshold", "priority", "selectionMode", "gating",
      "schemaVersion"] →
      o.at key = (Json.Object.at m.toObject key).sorted := fun hkey => h _ hkey
  refine ofObject_eq_ok.mpr {
    name := textOr_of_at (mem (by simp)) filled.name _
    description := textOr_of_at (mem (by simp)) filled.description _
    version := textOr_of_at (mem (by simp)) filled.version _
    author := textOr_of_at (mem (by simp)) filled.author _
    category := textOr_of_at (mem (by simp)) filled.category _
    schemaVersion := textOr_of_at (mem (by simp)) filled.schemaVersion _
    minSpins := orElse_of_at (v := m.minSpins) (mem (by simp)) filled.minSpins _
    maxNumbers := orElse_of_at (v := m.maxNumbers) (mem (by simp)) filled.maxNumbers _
    confidenceThreshold :=
      orElse_of_at (v := m.confidenceThreshold) (mem (by simp)) filled.confidenceThreshold _
    priority := orElse_of_at (v := m.priority) (mem (by simp)) filled.priority _
    mode := ?_
    gating := ?_ }
  · rw [mem (by simp)]
    exact SelectionMode.read_name filled.mode _
  · rw [mem (by simp)]
    exact GatingRules.ofObject_sorted filled.gating

theorem wellFormed_toObject (ho : o.WellFormed) (h : EntriesRead o m) :
    (Json.obj m.toObject).WellFormed := by
  have minSpins : m.minSpins.WellFormed :=
    h.minSpins ▸ (ho.valueAt "min_spins").orElse (.int (by decide))
  have maxNumbers : m.maxNumbers.WellFormed :=
    h.maxNumbers ▸ (ho.valueAt "max_numbers").orElse (.int (by decide))
  have confidenceThreshold : m.confidenceThreshold.WellFormed :=
    h.confidenceThreshold ▸ (ho.valueAt "confidence_threshold").orElse (.float _)
  have priority : m.priority.WellFormed :=
    h.priority ▸ (ho.valueAt "priority").orElse (.int (by decide))
  have gating : (Json.obj m.gating.toObject).WellFormed :=
    GatingRules.wellFormed_toObject h.filled.gating
  refine .obj m.distinct_toObject ?_
  simp only [toObject, List.forall_mem_cons]
  exact ⟨.str _, .str _, .str _, .str _, .str _, minSpins, maxNumbers, confidenceThreshold,
    priority, .str _, gating, .str _, by simp⟩

/-- Metadata are no higher than the payload that they are read from, unless for their rules. -/
theorem height_toObject_le {n : Nat} (h : EntriesRead o m) (low : (Json.obj o).height ≤ n + 2) :
    (Json.obj m.toObject).height ≤ n + 2 := by
  have entry {v default : Json} {key : String} (read : (o.at key).orElse default = v)
      (flat : default.height = 0) : v.height ≤ n + 1 := by
    rw [← read]
    refine Json.height_orElse_le ?_ (flat ▸ Nat.zero_le _)
    exact Nat.le_of_lt_succ ((Json.height_at_lt o key).trans_le low)
  have rules : (Json.obj m.gating.toObject).height = 1 := rfl
  refine Json.height_obj_le_iff.mpr ?_
  simp only [toObject, List.forall_mem_cons]
  exact ⟨Nat.zero_le _, Nat.zero_le _, Nat.zero_le _, Nat.zero_le _, Nat.zero_le _,
    entry h.minSpins rfl, entry h.maxNumbers rfl, entry h.confidenceThreshold rfl,
    entry h.priority rfl, Nat.zero_le _, rules ▸ Nat.le_add_left _ _, Nat.zero_le _, by simp⟩

theorem distinct_graphFields (m : Metadata) : (Members.keys m.graphFields).Nodup :=
  show ["name", "description", "version", "selectionMode", "gating", "schemaVersion"].Nodup by
    decide

theorem wellFormed_graphFields (filled : m.Filled) : Json.Object.WellFormed m.graphFields := by
  unfold Json.Object.WellFormed
  simp only [graphFields, List.forall_mem_cons]
  exact ⟨.str _, .str _, .str _, .str _, GatingRules.wellFormed_toObject filled.gating, .str _,
    by simp⟩

theorem issues_eq_nil_iff : m.issues = [] ↔
    m.schemaVersion ∈ supportedVersions ∧ Text.size m.name ≤ maxNameLength := by
  rw [issues, List.append_eq_nil_iff]
  split <;> split <;> simp_all

end Metadata

namespace Strategy

variable {origin : Pairs.Origin} {o : Json.Object} {s : Strategy}

theorem copied_eq_ok {fields : Json.Object} : copied o = .ok fields ↔
    (Json.obj o).height ≤ maxCopied ∧ o = fields := by
  unfold copied
  split
  next high => exact iff_of_false nofun fun h => Nat.not_le_of_lt high h.1
  next low => rw [Except.ok.injEq, and_iff_right (Nat.le_of_not_lt low)]

/-- A strategy is compiled exactly if its metadata are read and acceptable and its graph is read
from a copy of the fields with those of the metadata in their place. -/
theorem compileFields_eq_ok : compileFields origin o = .ok s ↔
    Metadata.EntriesRead o s.metadata ∧ s.metadata.issues = [] ∧
      (Json.obj o).height ≤ maxCopied ∧
      Graph.readFrom origin (.obj (Members.overlay o s.metadata.graphFields)) = .ok s.graph := by
  rw [compileFields, bind_eq_ok]
  constructor
  · rintro ⟨m, read, h⟩
    split at h
    · next empty =>
      obtain ⟨fields, copy, h⟩ := bind_eq_ok.mp h
      obtain ⟨low, rfl⟩ := copied_eq_ok.mp copy
      obtain ⟨g, graph, h⟩ := bind_eq_ok.mp h
      cases h
      exact ⟨Metadata.ofObject_eq_ok.mp read, List.isEmpty_iff.mp empty, low, graph⟩
    · cases h
  · rintro ⟨read, valid, low, graph⟩
    refine ⟨s.metadata, Metadata.ofObject_eq_ok.mpr read, ?_⟩
    rw [if_pos (List.isEmpty_iff.mpr valid)]
    refine bind_eq_ok.mpr ⟨o, copied_eq_ok.mpr ⟨low, rfl⟩, ?_⟩
    exact bind_eq_ok.mpr ⟨s.graph, graph, rfl⟩

/-- Fields of a graph inside the payload win over the metadata, and these over the payload. -/
theorem get?_unnest_overlay (m : Metadata) (o : Json.Object) {key : String} (ne : key ≠ "graph") :
    Members.get? (Schema.unnest (Members.overlay o m.graphFields)) key =
      (Schema.nested? o key).or ((Members.get? m.graphFields key).or (Members.get? o key)) := by
  have graph : (Members.get? m.graphFields "graph") = none := rfl
  have same : Json.Object.at (Members.overlay o m.graphFields) "graph" = o.at "graph" := by
    rw [Json.Object.at, Members.get?_overlay_of_nodup _ m.distinct_graphFields, graph,
      Option.none_or, Json.Object.at]
  rw [Schema.get?_unnest _ ne, Schema.nested?, same,
    Members.get?_overlay_of_nodup _ m.distinct_graphFields, Schema.nested?]

/-- Away from the entries of the metadata, the payload is read as it is. -/
theorem get?_unnest_overlay_other (m : Metadata) (o : Json.Object) {key : String}
    (ne : key ≠ "graph") (other : Members.get? m.graphFields key = none) :
    Members.get? (Schema.unnest (Members.overlay o m.graphFields)) key =
      Members.get? (Schema.unnest o) key := by
  rw [get?_unnest_overlay m o ne, other, Option.none_or, Schema.get?_unnest o ne]

/-- The fields that the graph of a strategy is read from. -/
def graphSource (s : Strategy) (o : Json.Object) : Json.Object :=
  Schema.unnest (Members.overlay o s.metadata.graphFields)

theorem get?_graphSource (s : Strategy) (o : Json.Object) {key : String} (ne : key ≠ "graph") :
    Members.get? (s.graphSource o) key = (Schema.nested? o key).or
      ((Members.get? s.metadata.graphFields key).or (Members.get? o key)) :=
  get?_unnest_overlay s.metadata o ne

theorem fieldsRead_graph (h : compileFields origin o = .ok s) : ∃ forms,
    Schema.nodeForms origin (s.graphSource o) = .ok forms ∧
      Schema.FieldsRead (s.graphSource o) forms s.graph :=
  (Graph.readFrom_eq_ok.mp (compileFields_eq_ok.mp h).2.2.2).1

end Strategy
end RouletteStrategy
