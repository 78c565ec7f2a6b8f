import Mathlib.Data.List.Nodup
import RouletteStrategy.Proofs.Gating.Reading
import RouletteStrategy.Proofs.Graph.Reading

/-!
# Valid graphs

A graph is valid exactly if its structural check finds no issues (`issues_eq_nil_iff`). In a valid
graph a node is determined by its id, so lookups among all nodes and among those of one kind agree.
-/

namespace RouletteStrategy.Graph

variable {g : Graph} {id : String} {n : Node} {kind : NodeKind}

/-! ## The structural check -/

theorem repeats_eq_nil_iff {seen xs : List String} :
    repeats seen xs = [] ↔ xs.Nodup ∧ ∀ x ∈ xs, x ∉ seen := by
  induction xs generalizing seen with
  | nil => simp [repeats]
  | cons x xs ih =>
      have now : (if x ∈ seen then [x] else []) = [] ↔ x ∉ seen := by
        by_cases h : x ∈ seen <;> simp [h]
      rw [repeats, List.append_eq_nil_iff, now, ih, List.nodup_cons, List.forall_mem_cons]
      constructor
      · rintro ⟨new, nodup, later⟩
        refine ⟨⟨fun h => later x h List.mem_cons_self, nodup⟩, new, fun y hy h => ?_⟩
        exact later y hy (List.mem_cons_of_mem x h)
      · rintro ⟨⟨once, nodup⟩, new, later⟩
        refine ⟨new, nodup, fun y hy h => ?_⟩
        rcases List.mem_cons.mp h with rfl | h
        · exact once hy
        · exact later y hy h

theorem endIssues_eq_nil_iff {ids : List String} {c : Connection} :
    endIssues ids c = [] ↔ c.source ∈ ids ∧ c.target ∈ ids := by
  by_cases source : c.source ∈ ids <;> by_cases target : c.target ∈ ids <;>
    simp [endIssues, source, target]

theorem issues_eq_nil_iff : g.issues = [] ↔ g.Valid := by
  rw [issues, List.append_eq_nil_iff, List.map_eq_nil_iff, repeats_eq_nil_iff,
    List.flatMap_eq_nil_iff]
  simp only [endIssues_eq_nil_iff]
  constructor
  · rintro ⟨⟨distinct, -⟩, ends⟩
    exact ⟨distinct, fun c hc => (ends c hc).1, fun c hc => (ends c hc).2⟩
  · intro valid
    exact ⟨⟨valid.distinct, fun _ _ => List.not_mem_nil⟩,
      fun c hc => ⟨valid.sources c hc, valid.targets c hc⟩⟩

section Reading

variable {origin : Pairs.Origin} {p : Json} (h : readFrom origin p = .ok g)
include h

/-- What is read comes from an object. -/
theorem exists_object_of_readFrom : ∃ o, p = .obj o := by
  cases p with
  | obj o => exact ⟨o, rfl⟩
  | _ => cases h

theorem valid_of_readFrom : g.Valid := by
  obtain ⟨o, rfl⟩ := exists_object_of_readFrom h
  exact issues_eq_nil_iff.mp (readFrom_eq_ok.mp h).2

theorem mode_mem_known_of_readFrom : g.mode ∈ SelectionMode.known := by
  obtain ⟨o, rfl⟩ := exists_object_of_readFrom h
  obtain ⟨⟨forms, -, fields⟩, -⟩ := readFrom_eq_ok.mp h
  rw [← fields.mode]
  exact SelectionMode.read_mem_known _ (by decide)

end Reading

/-! ## Lookups -/

theorem mem_nodesOf : n ∈ g.nodesOf kind ↔ n ∈ g.nodes ∧ n.kind = kind := by
  simp [nodesOf]

theorem mem_incoming {c : Connection} :
    c ∈ g.incoming id ↔ c ∈ g.connections ∧ c.target = id := by
  simp [incoming]

theorem mem_sources : n ∈ g.sources id ↔ ∃ c ∈ g.incoming id, g.node? c.source = some n := by
  simp [sources]

/-- Where ids are distinct, a lookup finds the only node of an id. -/
theorem find?_id_eq_some_iff {ns : List Node} (distinct : (ns.map (·.id)).Nodup) :
    ns.find? (·.id == id) = some n ↔ n ∈ ns ∧ n.id = id := by
  constructor
  · intro h
    exact ⟨List.mem_of_find?_eq_some h, by simpa using List.find?_some h⟩
  · rintro ⟨hn, rfl⟩
    cases found : ns.find? (·.id == n.id) with
    | none =>
        have other := List.find?_eq_none.mp found n hn
        simp at other
    | some m =>
        have same : m.id = n.id := by simpa using List.find?_some found
        rw [List.inj_on_of_nodup_map distinct (List.mem_of_find?_eq_some found) hn same]

namespace Valid

variable (valid : g.Valid)
include valid

theorem nodup_ids (kind : NodeKind) : ((g.nodesOf kind).map (·.id)).Nodup := by
  have sublist : ((g.nodesOf kind).map (·.id)).Sublist g.nodeIds := List.filter_sublist.map _
  exact valid.distinct.sublist sublist

theorem node?_eq_some_iff : g.node? id = some n ↔ n ∈ g.nodes ∧ n.id = id := by
  have distinct : (g.nodes.reverse.map (·.id)).Nodup := by
    rw [List.map_reverse]
    exact List.nodup_reverse.mpr valid.distinct
  rw [node?, find?_id_eq_some_iff distinct, List.mem_reverse]

/-- A lookup among the nodes of a kind sees the node of the id, if it is of that kind. -/
theorem find?_nodesOf (kind : NodeKind) (id : String) :
    (g.nodesOf kind).find? (·.id == id) = (g.node? id).filter (·.kind == kind) := by
  refine Option.ext fun n => ?_
  rw [Option.filter_eq_some_iff, valid.node?_eq_some_iff, beq_iff_eq,
    find?_id_eq_some_iff (valid.nodup_ids kind), mem_nodesOf]
  exact and_right_comm

end Valid
end RouletteStrategy.Graph
