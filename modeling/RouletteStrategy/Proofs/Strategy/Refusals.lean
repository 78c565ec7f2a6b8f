import RouletteStrategy.Proofs.Gating.Merging
import RouletteStrategy.Proofs.Graph.Refusals
import RouletteStrategy.Proofs.Strategy.Compile

/-!
# Payloads that are not compiled

A payload that is not compiled is refused with what is wrong with it, but for three defects that
break off the compilation (`Strategy.BreaksOff`): a count among its gating rules that is an integer
beyond every float, and, once metadata are accepted, values too far inside one another to be copied
or a node that breaks off the reading of the graph.
-/

namespace RouletteStrategy

namespace Strategy

variable {o : Json.Object} {m : Metadata} {e : Error}

/-- Metadata have an entry for every field, unless a count among the rules is too large. -/
theorem failsIff_metadata (o : Json.Object) : FailsIff .numberTooLarge
    (GatingRules.HasHugeCount (o.at "gating").members) (Metadata.ofObject o) := by
  refine ((GatingRules.failsIff_ofObject _).bind fun gating _ => FailsIff.ok _).congr ?_
  rw [or_false]

/-- The entries that the graph takes over leave the list of nodes as it is. -/
theorem hasBrokenNode_overlay (o : Json.Object) (m : Metadata) :
    Schema.HasBrokenNode (Schema.unnest (Members.overlay o m.graphFields)) ↔
      Schema.HasBrokenNode (Schema.unnest o) := by
  have nodes : Members.get? (Schema.unnest (Members.overlay o m.graphFields)) "nodes" =
      Members.get? (Schema.unnest o) "nodes" :=
    get?_unnest_overlay_other m o (by decide) rfl
  rw [Schema.HasBrokenNode, Schema.HasBrokenNode, nodes]

/-- Metadata that are read and have a known schema version and a short name. -/
def Acceptable (o : Json.Object) : Prop := ∃ m, Metadata.EntriesRead o m ∧ m.issues = []

/-- The errors that break off a compilation, and the fields on which they do. -/
inductive BreaksOff (o : Json.Object) : Error → Prop where
  | hugeCount (huge : GatingRules.HasHugeCount (o.at "gating").members) :
    BreaksOff o .numberTooLarge
  | tooHigh (acceptable : Acceptable o) (high : maxCopied < (Json.obj o).height) :
    BreaksOff o .tooDeepToRead
  | brokenNode (acceptable : Acceptable o) (low : (Json.obj o).height ≤ maxCopied)
    (broken : Schema.HasBrokenNode (Schema.unnest o)) : BreaksOff o .wrongType

/-- Errors that list the issues of a graph or of its metadata. -/
inductive ListsIssues : Error → Prop where
  | graph (issues : List Issue) : ListsIssues (.invalidGraph issues)
  | metadata (issues : List Issue) : ListsIssues (.invalidStrategy issues)

section Fields

variable (origin : Pairs.Origin)

/-- With metadata that are acceptable, the graph is read from a copy of the fields, and what is
wrong with it is wrong with the strategy. -/
theorem compileFields_of_acceptable (read : Metadata.ofObject o = .ok m) (valid : m.issues = []) :
    compileFields origin o = copied o >>= fun fields =>
      (Graph.readFrom origin (.obj (Members.overlay fields m.graphFields))).map (⟨·, m⟩) := by
  simp only [compileFields, read]
  refine (if_pos (List.isEmpty_iff.mpr valid)).trans ?_
  cases copied o with
  | error e => rfl
  | ok fields => cases Graph.readFrom origin (.obj (Members.overlay fields m.graphFields)) <;> rfl

theorem compileFields_of_low (read : Metadata.ofObject o = .ok m) (valid : m.issues = [])
    (low : (Json.obj o).height ≤ maxCopied) : compileFields origin o =
      (Graph.readFrom origin (.obj (Members.overlay o m.graphFields))).map (⟨·, m⟩) := by
  rw [compileFields_of_acceptable origin read valid, copied_eq_ok.mpr ⟨low, rfl⟩]
  rfl

theorem compileFields_of_issues (read : Metadata.ofObject o = .ok m) (issues : m.issues ≠ []) :
    compileFields origin o = .error (.invalidStrategy m.issues) := by
  simp only [compileFields, read]
  exact if_neg (mt List.isEmpty_iff.mp issues)

theorem compileFields_of_breaksOff (h : BreaksOff o e) : compileFields origin o = .error e := by
  cases h with
  | hugeCount huge =>
      have failed := (failsIff_metadata o .numberTooLarge).mpr ⟨rfl, huge⟩
      simp only [compileFields, failed]
      rfl
  | tooHigh acceptable high =>
      obtain ⟨m, entries, valid⟩ := acceptable
      rw [compileFields_of_acceptable origin (Metadata.ofObject_eq_ok.mpr entries) valid, copied,
        if_pos high]
      rfl
  | brokenNode acceptable low broken =>
      obtain ⟨m, entries, valid⟩ := acceptable
      rw [compileFields_of_low origin (Metadata.ofObject_eq_ok.mpr entries) valid low]
      rcases Graph.readFrom_cases origin (Members.overlay o m.graphFields) with
        ⟨-, failed⟩ | ⟨whole, -⟩
      · rw [failed]
        rfl
      · exact absurd ((hasBrokenNode_overlay o m).mpr broken) whole

/-- Fields that are not compiled have issues, or break off the compilation. -/
theorem listsIssues_or_breaksOff (h : compileFields origin o = .error e) :
    ListsIssues e ∨ BreaksOff o e := by
  -- fields have one error, so it is enough to know of any that they break off with
  have known {e' : Error} (broken : BreaksOff o e') : BreaksOff o e :=
    Except.error.inj ((compileFields_of_breaksOff origin broken).symm.trans h) ▸ broken
  cases read : Metadata.ofObject o with
  | error e' =>
      obtain ⟨rfl, huge⟩ := (failsIff_metadata o e').mp read
      exact .inr (known (.hugeCount huge))
  | ok m =>
      by_cases valid : m.issues = []
      · have acceptable : Acceptable o := ⟨m, Metadata.ofObject_eq_ok.mp read, valid⟩
        rcases Nat.lt_or_ge maxCopied (Json.obj o).height with high | low
        · exact .inr (known (.tooHigh acceptable high))
        · rw [compileFields_of_low origin read valid low] at h
          have failed := map_eq_error.mp h
          rcases Graph.readFrom_cases origin (Members.overlay o m.graphFields) with
            ⟨broken, -⟩ | ⟨-, ⟨g, graph⟩ | ⟨issues, graph⟩⟩
          · rw [hasBrokenNode_overlay] at broken
            exact .inr (known (.brokenNode acceptable low broken))
          · cases failed.symm.trans graph
          · cases failed.symm.trans graph
            exact .inl (.graph issues)
      · cases h.symm.trans (compileFields_of_issues origin read valid)
        exact .inl (.metadata _)

end Fields

theorem ListsIssues.isRefusal (h : ListsIssues e) : e.IsRefusal := by
  cases h with
  | graph issues => exact .invalidGraph issues
  | metadata issues => exact .invalidStrategy issues

/-- A payload that is not compiled is refused, unless it breaks off the compilation. -/
theorem isRefusal_or_breaksOff {p : Json} (h : compile p = .error e) :
    e.IsRefusal ∨ ∃ o, p = .obj o ∧ BreaksOff o e := by
  cases p with
  | obj o =>
      rcases listsIssues_or_breaksOff .values h with issues | broken
      · exact .inl issues.isRefusal
      · exact .inr ⟨o, rfl, broken⟩
  | _ =>
    cases h
    exact .inl .strategyNotObject

/-- A payload that is not read as a graph is refused, unless it has a node that breaks off the
reading. One that is not compiled is refused, unless it breaks off the compilation. -/
theorem isRefusal_or_defect (p : Json) :
    ((∀ e, Graph.read p = .error e → e.IsRefusal ∨ e = .wrongType) ∧
      (Graph.read p = .error .wrongType ↔
        ∃ o, p = .obj o ∧ Schema.HasBrokenNode (Schema.unnest o))) ∧
    (∀ e, compile p = .error e → e.IsRefusal ∨ ∃ o, p = .obj o ∧ BreaksOff o e) ∧
    ∀ o e, p = .obj o → BreaksOff o e → compile p = .error e := by
  refine ⟨⟨fun _ => Graph.isRefusal_or_wrongType, Graph.read_eq_wrongType_iff⟩,
    fun _ => isRefusal_or_breaksOff, ?_⟩
  rintro o e rfl broken
  exact compileFields_of_breaksOff .values broken

example : Graph.read (.obj [("nodes", .arr [.obj [("id", .str "a"), ("type", .str "condition"),
    ("data", .obj [("config", .int 5)])]])]) = .error .wrongType := rfl

end Strategy
end RouletteStrategy
