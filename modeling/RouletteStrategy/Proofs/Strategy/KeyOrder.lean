import RouletteStrategy.Proofs.Graph.KeyOrder
import RouletteStrategy.Proofs.Strategy.RoundTrip

/-!
# Payloads with their keys in another order

Payloads that are alike are compiled to strategies whose metadata and nodes differ in the order of
keys only, or refused for the same reasons (`Strategy.parallel_compileFields`). Such strategies are
exported as the same text with the same checksum, as long as no two keys of a configuration are
written as the same text: of such keys the last one counts.
-/

namespace RouletteStrategy

open Json (Scalar)

variable {o o' : Json.Object}

/-! ## Metadata -/

namespace Json.Reordered

variable {v w : Json}

theorem clampInt_eq (h : v.Reordered w) (low high default : Int) :
    v.clampInt low high default = w.clampInt low high default := by
  cases h <;> rfl

theorem flag_eq (h : v.Reordered w) (default : Bool) : v.flag default = w.flag default := by
  have isSet := h.isSet_eq
  cases h with
  | scalar _ => rfl
  | arr _ => exact isSet
  | obj _ _ _ => exact isSet

end Json.Reordered

theorem GatingRules.ofObject_congr (h : o.Reordered o') : ofObject o = ofObject o' := by
  unfold ofObject readCount
  rw [(h.valueAt "maxNumbersAuto").clampInt_eq, (h.valueAt "maxNumbersHybrid").clampInt_eq,
    (h.valueAt "minManualHybrid").clampInt_eq, (h.valueAt "excludeZero").flag_eq]

namespace Metadata

/-- The fields of a payload that metadata write out as texts. -/
def textKeys : List String :=
  ["name", "description", "version", "author", "category", "schemaVersion", "selectionMode"]

/-- Metadata that differ in the order of keys only. -/
def Reordered (m m' : Metadata) : Prop := m.stored = m'.stored

theorem parallel_ofObject (h : o.Reordered o') (texts : ∀ key ∈ textKeys, Scalar (o.at key)) :
    Parallel Reordered (ofObject o) (ofObject o') := by
  have text : ∀ key ∈ textKeys, ∀ default, textOr o key default = textOr o' key default := by
    intro key hkey default
    rw [textOr, textOr, h.at_eq (texts key hkey)]
  have number : ∀ key v, Scalar v →
      ((o.at key).orElse v).sorted = ((o'.at key).orElse v).sorted := fun key _ scalar =>
    ((h.valueAt key).orElse (.scalar scalar)).alike
  unfold ofObject
  refine (Parallel.of_eq (GatingRules.ofObject_congr (h.valueAt "gating").members)).bind ?_
  rintro gating _ rfl
  refine .ok ?_
  simp only [Reordered, stored, text "name" (by decide), text "description" (by decide),
    text "version" (by decide), text "author" (by decide), text "category" (by decide),
    text "schemaVersion" (by decide), h.at_eq (texts "selectionMode" (by decide)),
    number "min_spins" (.int 10) rfl, number "max_numbers" (.int 6) rfl,
    number "confidence_threshold" (.float (Binary64.ofRatio false 6 10)) rfl,
    number "priority" (.int 1) rfl]

section

variable {m m' : Metadata}

theorem Reordered.issues_eq (h : m.Reordered m') : m.issues = m'.issues := by
  have same : m.stored.issues = m'.stored.issues := congrArg issues h
  exact same

theorem Reordered.graphFields_eq (h : m.Reordered m') : m.graphFields = m'.graphFields := by
  have same : m.stored.graphFields = m'.stored.graphFields := congrArg graphFields h
  exact same

end

theorem distinctValues_graphFields (m : Metadata) : (Json.obj m.graphFields).Distinct := by
  have gating : (Json.obj m.gating.toObject).Distinct := by
    refine .obj (GatingRules.nodup_keys_toObject m.gating) ?_
    simp only [GatingRules.toObject, List.forall_mem_cons]
    exact ⟨.scalar rfl, .scalar rfl, .scalar rfl, .scalar rfl, by simp⟩
  refine .obj m.distinct_graphFields ?_
  simp only [graphFields, List.forall_mem_cons]
  exact ⟨.scalar rfl, .scalar rfl, .scalar rfl, .scalar rfl, gating, .scalar rfl, by simp⟩

end Metadata

namespace Strategy

variable {origin : Pairs.Origin} {s t : Strategy} {text : String}

/-! ## Compiling -/

/-- Strategies whose metadata, nodes and connections differ in the order of keys only. -/
structure Reordered (s t : Strategy) : Prop where
  metadata : s.metadata.Reordered t.metadata
  graph : s.graph.Reordered t.graph

/-- A payload that has no lists or objects where texts are written out, and no lists of pairs for
configurations under `data`. -/
structure Plain (o : Json.Object) : Prop where
  texts : ∀ key ∈ Metadata.textKeys, Scalar (o.at key)
  graph : Schema.Plain (Schema.unnest o)

/-- Metadata are no nodes and no connections. -/
theorem plain_overlay (m : Metadata) (plain : Schema.Plain (Schema.unnest o)) :
    Schema.Plain (Schema.unnest (Members.overlay o m.graphFields)) := by
  have nodes := get?_unnest_overlay_other m o (show "nodes" ≠ "graph" by decide) rfl
  have edges := get?_unnest_overlay_other m o (show "edges" ≠ "graph" by decide) rfl
  have connections := get?_unnest_overlay_other m o (show "connections" ≠ "graph" by decide) rfl
  have key : Schema.connectionsKey (Schema.unnest (Members.overlay o m.graphFields)) =
      Schema.connectionsKey (Schema.unnest o) := by
    rw [Schema.connectionsKey, Schema.connectionsKey, Members.has, Members.has, edges]
  refine ⟨nodes ▸ plain.nodes, ?_⟩
  have links := plain.connections
  rw [key]
  unfold Schema.connectionsKey at links ⊢
  split
  next there =>
    rw [if_pos there] at links
    rw [edges]
    exact links
  next absent =>
    rw [if_neg absent] at links
    rw [connections]
    exact links

/-- The order of keys makes no difference to whether fields can be copied. -/
theorem parallel_copied (h : o.Reordered o') :
    Parallel (fun fields fields' => o = fields ∧ o' = fields') (copied o) (copied o') := by
  rw [copied, copied, h.value.alike.height_eq]
  split
  · exact .error _
  · exact .ok ⟨rfl, rfl⟩

/-- Reordered payloads are compiled to reordered strategies, or refused for the same reasons. -/
theorem parallel_compileFields (h : o.Reordered o') (plain : Plain o) :
    Parallel Reordered (compileFields origin o) (compileFields origin o') := by
  unfold compileFields
  refine (Metadata.parallel_ofObject h plain.texts).bind ?_
  intro m m' metadata
  have self : Json.Object.Reordered m'.graphFields m'.graphFields :=
    (m'.distinctValues_graphFields.reordered rfl).members
  rw [metadata.issues_eq, metadata.graphFields_eq]
  split
  · refine (parallel_copied h).bind ?_
    rintro _ _ ⟨rfl, rfl⟩
    refine (Graph.parallel_readFrom (h.overlay self) (plain_overlay m' plain.graph)).bind ?_
    exact fun graph => .ok ⟨metadata, graph⟩
  · exact .error _

/-! ## Exporting -/

/-- What is kept of reordered strategies is the same, if no keys become equal. -/
theorem Reordered.stored_eq (h : s.Reordered t)
    (legible : ∀ n ∈ s.graph.nodes, n.config.Legible) : s.stored = t.stored := by
  have nodes : s.graph.nodes.map Node.stored = t.graph.nodes.map Node.stored := by
    have same : List.Forall₂ (fun n n' => n.stored = n'.stored) s.graph.nodes t.graph.nodes := by
      refine ((List.forall₂_and_left _ _).mpr ⟨legible, h.graph.nodes⟩).imp ?_
      rintro n n' ⟨legible, node⟩
      rw [Node.stored, Node.stored, node.config.stored_eq legible, node.id, node.kind, node.subtype,
        node.label]
    rwa [← List.forall₂_eq_eq_eq, List.forall₂_map_left_iff, List.forall₂_map_right_iff]
  have metadata : s.metadata.stored = t.metadata.stored := h.metadata
  have fields := metadata
  simp only [Metadata.stored, Metadata.mk.injEq] at fields
  obtain ⟨name, description, version, -, -, -, -, -, -, mode, gating, schemaVersion⟩ := fields
  rw [stored, stored, metadata, name, description, version, mode, gating, schemaVersion, nodes,
    h.graph.connections]

theorem Reordered.free_iff (h : s.Reordered t) :
    (∀ n ∈ s.graph.nodes, n.config.obstacle? = none) ↔
      ∀ n ∈ t.graph.nodes, n.config.obstacle? = none := by
  have nodes := h.graph.nodes
  generalize s.graph.nodes = xs at nodes ⊢
  generalize t.graph.nodes = ys at nodes ⊢
  induction nodes with
  | nil => exact Iff.rfl
  | cons first _ ih =>
      rw [List.forall_mem_cons, List.forall_mem_cons]
      exact and_congr first.config.obstacle?_iff ih

/-- Strategies of which the same is kept are exported as the same text, if they can be written. -/
theorem exportText_of_stored_eq (same : s.stored = t.stored)
    (free : ∀ n ∈ t.graph.nodes, n.config.obstacle? = none) (h : s.exportText = .ok text) :
    t.exportText = .ok text :=
  exportText_of_alike t.alike_metadata t.alike_body free (same ▸ exportText_stored h)

theorem checksum_of_stored_eq (same : s.stored = t.stored) :
    Artifact.checksum (.obj s.metadata.toObject) (.obj s.graph.body) =
      Artifact.checksum (.obj t.metadata.toObject) (.obj t.graph.body) := by
  rw [← Artifact.checksum_congr s.alike_metadata s.alike_body, same,
    Artifact.checksum_congr t.alike_metadata t.alike_body]

/-- Two payloads that differ in the order of keys only are both compiled, or refused with the same
error and the same issues. What they are compiled to is exported as the same text, and so with the
same checksum, where the keys of each configuration are written as different texts. -/
theorem exportText_reordered {p q : Json} (distinct : p.Distinct) (alike : p.Alike q)
    (plain : Plain p.members) :
    Parallel
      (fun s t => (∀ n ∈ s.graph.nodes, n.config.Legible) →
        (∀ text, s.exportText = .ok text ↔ t.exportText = .ok text) ∧
        Artifact.checksum (.obj s.metadata.toObject) (.obj s.graph.body) =
          Artifact.checksum (.obj t.metadata.toObject) (.obj t.graph.body))
      (compile p) (compile q) := by
  have compiled : Parallel Reordered (compile p) (compile q) := by
    cases distinct.reordered alike with
    | scalar scalar =>
        cases p with
        | obj o => cases scalar
        | _ => exact .error _
    | arr _ => exact .error _
    | obj keys keys' members => exact parallel_compileFields ⟨keys, keys', members⟩ plain
  generalize compile p = x at compiled ⊢
  generalize compile q = y at compiled ⊢
  cases compiled with
  | error e => exact .error e
  | ok reordered =>
      refine .ok fun legible => ?_
      have same := reordered.stored_eq legible
      refine ⟨fun text => ⟨fun h => ?_, fun h => ?_⟩, checksum_of_stored_eq same⟩
      · exact exportText_of_stored_eq same (reordered.free_iff.mp (exportText_eq_ok.mp h).1) h
      · exact exportText_of_stored_eq same.symm (reordered.free_iff.mpr (exportText_eq_ok.mp h).1) h

theorem plain_redRun : Plain redRun := by
  refine ⟨by decide, ?_, ?_⟩
  · intro vs found
    cases found
    simp only [List.forall_mem_cons]
    exact ⟨⟨rfl, fun _ _ => Json.noConfusion⟩, ⟨rfl, fun _ _ => Json.noConfusion⟩, by simp⟩
  · intro vs found
    cases found
    simp only [List.forall_mem_cons]
    exact ⟨⟨by decide⟩, by simp⟩

theorem exportText_reordered_redRun :
    ((Json.obj redRun).Distinct ∧ (Json.obj redRun).Alike (.obj redRun.reverse) ∧ Plain redRun) ∧
    ∃ t, compile (.obj redRun.reverse) = .ok t ∧ t.exportText = .ok redRunText := by
  have alike : (Json.obj redRun).Alike (.obj redRun.reverse) :=
    Json.alike_of_perm (by decide) (List.reverse_perm redRun).symm
  have legible : ∀ n ∈ redRunStrategy.graph.nodes, n.config.Legible := by
    simp only [redRunStrategy, List.forall_mem_cons]
    refine ⟨Json.Object.legible_of_whole (by decide) (by decide +kernel), ?_, by simp⟩
    exact Json.Object.legible_of_whole (by decide) (by decide)
  have compiled := exportText_reordered wellFormed_redRun.distinct alike plain_redRun
  refine ⟨⟨wellFormed_redRun.distinct, alike, plain_redRun⟩, ?_⟩
  rw [compile_redRun] at compiled
  generalize compile (.obj redRun.reverse) = y at compiled ⊢
  cases compiled with
  | ok exported => exact ⟨_, rfl, ((exported legible).1 redRunText).mp exportText_redRun⟩

end Strategy
end RouletteStrategy
