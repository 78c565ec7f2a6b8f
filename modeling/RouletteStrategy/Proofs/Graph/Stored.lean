import RouletteStrategy.Proofs.Graph.Reading
import RouletteStrategy.Proofs.Json.Height

/-!
# Nodes and connections read back from what they are written as

A node comes back with the configuration that is kept of its own (`Node.stored`), a connection with
an id comes back as it was.
-/

namespace RouletteStrategy

open Schema

namespace Node

/-- The node that is read back from what a node is written as. -/
def stored (n : Node) : Node := { n with config := n.config.stored }

theorem distinct_toJson (n : Node) : (Members.keys n.toJson.members).Nodup :=
  show ["id", "type", "subtype", "config", "label"].Nodup by decide

/-- What stands under a key of a written node. -/
theorem get?_toJson (n : Node) (key : String) :
    Members.get? n.toJson.sorted.members key =
      (Members.get? n.toJson.members key).map Json.sorted :=
  Json.get?_members_sorted n.distinct_toJson key

theorem at_toJson (n : Node) (key : String) :
    Json.Object.at n.toJson.sorted.members key = (Json.Object.at n.toJson.members key).sorted :=
  Json.at_members_sorted n.distinct_toJson key

theorem nodeForm_toJson (origin : Pairs.Origin) (n : Node) :
    nodeForm origin n.toJson.sorted = .ok (.fields n.toJson.sorted.members []) := by
  have object : n.toJson.sorted.asObject? = some n.toJson.sorted.members := by
    rw [toJson, Json.sorted_obj]
    rfl
  have flat : (Json.Object.at n.toJson.sorted.members "data").asObject? = none := by
    rw [at_toJson]
    rfl
  rw [nodeForm, object]
  simp only [objectForm, flat]

theorem optionalText_toJson {path : Path} {o : Json.Object} {key : String} {s : Option String}
    (h : o.at key = Json.ofOption .str s) : optionalText path o key = .ok s := by
  cases s <;> simp [optionalText, h, Json.ofOption]

theorem sorted_ofOption (s : Option String) :
    (Json.ofOption .str s).sorted = Json.ofOption .str s := by
  cases s <;> rfl

theorem ofName?_name (kind : NodeKind) : NodeKind.ofName? kind.name = some kind := by
  cases kind <;> decide

theorem readNode_toJson (n : Node) (i : Nat) :
    readNode i (.fields n.toJson.sorted.members []) = .ok n.stored := by
  have id : Members.get? n.toJson.sorted.members "id" = some (.str n.id) := n.get?_toJson "id"
  have kind : Members.get? n.toJson.sorted.members "type" = some (.str n.kind.name) :=
    n.get?_toJson "type"
  have subtype : Json.Object.at n.toJson.sorted.members "subtype" = Json.ofOption .str n.subtype :=
    (n.at_toJson "subtype").trans (sorted_ofOption n.subtype)
  have label : Json.Object.at n.toJson.sorted.members "label" = Json.ofOption .str n.label :=
    (n.at_toJson "label").trans (sorted_ofOption n.label)
  have config : Json.Object.at n.toJson.sorted.members "config" =
      (Json.obj n.config.written).sorted :=
    n.at_toJson "config"
  refine readNode_eq_ok.mpr ⟨_, rfl, ?_⟩
  exact {
    id := by simp only [requiredText, id, Json.display, stored]
    kind := by simp only [readKind, kind, ofName?_name, stored]
    subtype := optionalText_toJson subtype
    config := by rw [config, stored, Json.Object.stored]
    label := optionalText_toJson label }

/-- What is written of a node does not change when it is read back. -/
theorem sorted_toJson_stored (n : Node) : n.stored.toJson.sorted = n.toJson.sorted := by
  simp only [toJson, stored, Json.Object.written_stored, Json.Object.obj_stored]
  generalize Json.obj n.config.written = config
  simp only [Json.sorted, Json.sortedMembers, Json.sorted_sorted]

theorem wellFormed_toJson {n : Node} (h : n.config.WellFormed) : n.toJson.WellFormed := by
  have text : ∀ s : Option String, (Json.ofOption .str s).WellFormed := by
    rintro (_ | s)
    · exact .null
    · exact .str s
  refine .obj n.distinct_toJson ?_
  simp only [List.forall_mem_cons]
  exact ⟨.str _, .str _, text _, Json.Object.wellFormed_written h, text _, by simp⟩

/-- A node is no higher than its configuration can be when it is written. -/
theorem height_toJson_le {n : Node} (free : n.config.obstacle? = none) :
    n.toJson.height ≤ Json.maxHeight + 2 := by
  have text : ∀ s : Option String, (Json.ofOption .str s).height ≤ Json.maxHeight + 1 := by
    rintro (_ | s) <;> exact Nat.zero_le _
  refine Json.height_obj_le_iff.mpr ?_
  simp only [List.forall_mem_cons]
  exact ⟨Nat.zero_le _, Nat.zero_le _, text _, Json.Object.height_written_le free, text _, by simp⟩

end Node

namespace Connection

theorem distinct_toJson (c : Connection) : (Members.keys c.toJson.members).Nodup :=
  show ["id", "source", "target", "kind"].Nodup by decide

theorem get?_toJson (c : Connection) (key : String) :
    Members.get? c.toJson.sorted.members key =
      (Members.get? c.toJson.members key).map Json.sorted :=
  Json.get?_members_sorted c.distinct_toJson key

theorem read_name (kind : ConnectionKind) : ConnectionKind.read (.str kind.name) = kind := by
  cases kind <;> decide

theorem readConnection_toJson (key : String) {c : Connection} (named : c.id ≠ "") (i : Nat) :
    readConnection key i c.toJson.sorted = .ok c := by
  have object : c.toJson.sorted.asObject? = some c.toJson.sorted.members := by
    rw [toJson, Json.sorted_obj]
    rfl
  have source : Members.get? c.toJson.sorted.members "source" = some (.str c.source) :=
    c.get?_toJson "source"
  have target : Members.get? c.toJson.sorted.members "target" = some (.str c.target) :=
    c.get?_toJson "target"
  have type : Members.get? c.toJson.sorted.members "type" = none := c.get?_toJson "type"
  have kind : Json.Object.at c.toJson.sorted.members "kind" = .str c.kind.name :=
    Json.at_members_sorted c.distinct_toJson "kind"
  have id : Json.Object.at c.toJson.sorted.members "id" = .str c.id :=
    Json.at_members_sorted c.distinct_toJson "id"
  have isSet : (Json.str c.id).isSet = true := by simpa [Json.isSet] using named
  refine readConnection_eq_ok.mpr ⟨_, object, ?_⟩
  exact {
    id := by rw [id, if_pos isSet, Json.display]
    source := by simp only [requiredText, source, Json.display]
    target := by simp only [requiredText, target, Json.display]
    kind := by rw [connectionKind, type, kind, Option.getD_none, read_name] }

theorem wellFormed_toJson (c : Connection) : c.toJson.WellFormed := by
  refine .obj c.distinct_toJson ?_
  simp only [List.forall_mem_cons]
  exact ⟨.str _, .str _, .str _, .str _, by simp⟩

theorem height_toJson (c : Connection) : c.toJson.height = 1 := rfl

end Connection

namespace Schema

/-- Written nodes are read back as what is kept of them. -/
theorem readNodes_toJson (origin : Pairs.Origin) {o : Json.Object} {nodes : List Node}
    (h : Members.get? o "nodes" = some (.arr (nodes.map fun n => n.toJson.sorted))) :
    ∃ forms, nodeForms origin o = .ok forms ∧ readNodes forms = .ok (nodes.map Node.stored) := by
  refine ⟨.ok (nodes.map fun n => .fields n.toJson.sorted.members []), ?_, ?_⟩
  · have forms : (nodes.map fun n => n.toJson.sorted).mapM (nodeForm origin) =
        .ok (nodes.map fun n => .fields n.toJson.sorted.members []) := by
      rw [List.mapM_map]
      exact mapM_eq_ok_map fun n _ => n.nodeForm_toJson origin
    simp only [nodeForms, readItems, h, forms]
    rfl
  · exact Checked.all_zipIdx_eq_ok (fun n _ i => n.readNode_toJson i) 0

/-- Written connections with ids are read back as they were. -/
theorem readConnections_toJson {o : Json.Object} {connections : List Connection}
    (named : ∀ c ∈ connections, c.id ≠ "") (edges : Members.get? o "edges" = none)
    (h : Members.get? o "connections" = some (.arr (connections.map fun c => c.toJson.sorted))) :
    readConnections o = .ok connections := by
  have key : connectionsKey o = "connections" := by
    simp [connectionsKey, Members.has, edges]
  have all := Checked.all_zipIdx_eq_ok (g := id)
    (f := fun p => readConnection "connections" p.2 p.1)
    (fun c hc i => Connection.readConnection_toJson "connections" (named c hc) i) 0
  rw [List.map_id] at all
  simp only [readConnections, key, readItems, h]
  exact all

end Schema
end RouletteStrategy
