import RouletteStrategy.Proofs.Evaluation.Activation

/-!
# More conditions switch no signal off

In a graph without negations the verdicts on logic nodes grow with those on conditions, and a signal
that is active stays so (`Graph.monotone_resolveSignal`). The structure need not be checked for
this: ids may be repeated, connections may lead from nodes that are not there, and verdicts may be
missing.
-/

namespace RouletteStrategy

/-- Without a negation, a combination that is true stays true when more of its inputs are. -/
theorem Operator.combine_mono {α : Type} {op : Operator} (positive : op ≠ .not) {f g : α → Bool}
    {xs : List α} (le : ∀ x ∈ xs, f x → g x) (h : op.combine (xs.map f)) :
    op.combine (xs.map g) := by
  cases xs with
  | nil => exact h
  | cons x xs =>
      cases op with
      | and =>
          change ((x :: xs).map f).all id at h
          change ((x :: xs).map g).all id
          rw [List.all_map, List.all_eq_true] at h ⊢
          intro y hy
          exact le y hy (h y hy)
      | or =>
          change ((x :: xs).map f).any id at h
          change ((x :: xs).map g).any id
          rw [List.any_map, List.any_eq_true] at h ⊢
          obtain ⟨y, hy, holds⟩ := h
          exact ⟨y, hy, le y hy holds⟩
      | not => exact absurd rfl positive

namespace Verdicts

/-- Whatever is true in one table is true in the other. -/
def Below (c d : Verdicts) : Prop := ∀ id, c.of id → d.of id

theorem of_set (vs : Verdicts) (key id : String) (b : Bool) :
    of (Members.set vs key b) id = if key = id then b else vs.of id := by
  rw [of, Members.get?_set]
  split_ifs <;> rfl

/-- What one more verdict keeps. -/
theorem Below.set {c d : Verdicts} (below : c.Below d) (key : String) {b b' : Bool}
    (le : b → b') : Below (Members.set c key b) (Members.set d key b') := by
  intro id
  rw [of_set, of_set]
  split_ifs
  · exact le
  · exact below id

end Verdicts

namespace Graph

variable {g : Graph} {c d l l' : Verdicts} {n : Node}

/-- No logic node negates. -/
def Positive (g : Graph) : Prop := ∀ n ∈ g.nodesOf .logic, n.operator ≠ .not

/-! ## Logic nodes -/

theorem result_logicResult_mono (positive : n.operator ≠ .not) (below : c.Below d)
    (h : (g.logicResult c n).result) : (g.logicResult d n).result := by
  -- whether a logic node is connected to it has nothing to do with the verdicts
  simp only [logicResult, Bool.and_eq_true] at h ⊢
  obtain ⟨flat, combined⟩ := h
  exact ⟨flat, Operator.combine_mono positive (fun m _ => below m.id) combined⟩

theorem logicVerdicts_set (rs : Members LogicResult) (key : String) (r : LogicResult) :
    logicVerdicts (Members.set rs key r) = Members.set (logicVerdicts rs) key r.result :=
  (Members.set_map LogicResult.result rs key r).symm

/-- Setting one result after the other keeps the verdicts below. -/
theorem below_run (below : c.Below d) {ns : List Node} (positive : ∀ n ∈ ns, n.operator ≠ .not)
    {rs rs' : Members LogicResult} (start : (logicVerdicts rs).Below (logicVerdicts rs')) :
    (logicVerdicts (ns.foldl (fun rs n => rs.set n.id (g.logicResult c n)) rs)).Below
      (logicVerdicts (ns.foldl (fun rs n => rs.set n.id (g.logicResult d n)) rs')) := by
  induction ns generalizing rs rs' with
  | nil => exact start
  | cons n ns ih =>
      obtain ⟨first, rest⟩ := List.forall_mem_cons.mp positive
      apply ih rest
      rw [logicVerdicts_set, logicVerdicts_set]
      exact start.set n.id (result_logicResult_mono first below)

theorem below_logicVerdicts (positive : g.Positive) (below : c.Below d) :
    (logicVerdicts (g.logicResults c)).Below (logicVerdicts (g.logicResults d)) :=
  below_run below positive fun _ => id

/-! ## Signals -/

theorem told_mono (conditions : c.Below d) (logic : l.Below l') (h : told c l n = some true) :
    told d l' n = some true := by
  unfold told at h ⊢
  cases kind : n.kind with
  | condition =>
      simp only [kind, Option.some.injEq] at h ⊢
      exact conditions n.id h
  | logic =>
      simp only [kind, Option.some.injEq] at h ⊢
      exact logic n.id h
  | trigger | signal =>
      simp only [kind] at h
      cases h

theorem mem_signalInputs_mono (conditions : c.Below d) (logic : l.Below l') {id : String}
    (h : true ∈ g.signalInputs c l id) : true ∈ g.signalInputs d l' id := by
  rw [signalInputs_eq_filterMap, List.mem_filterMap] at h ⊢
  obtain ⟨n, hn, h⟩ := h
  exact ⟨n, hn, told_mono conditions logic h⟩

/-- A signal is active if one of its inputs is true. -/
theorem active_resolveSignal_iff :
    (g.resolveSignal c l).active ↔ ∃ s ∈ g.nodesOf .signal, true ∈ g.signalInputs c l s.id := by
  have any (s : Node) : (g.signalInputs c l s.id).any id ↔ true ∈ g.signalInputs c l s.id := by
    rw [List.any_eq_true]
    simp
  unfold resolveSignal
  dsimp only
  split
  · next s found =>
    have holds := List.find?_some found
    exact iff_of_true rfl ⟨s, List.mem_of_find?_eq_some found, (any s).mp holds⟩
  · next silent =>
    refine iff_of_false Bool.false_ne_true ?_
    rintro ⟨s, hs, told⟩
    exact List.find?_eq_none.mp silent s hs ((any s).mpr told)

/-- Whatever verdicts on conditions become true, in a graph without negations each logic node that
was true still is, and a signal that was active still is. -/
theorem monotone_resolveSignal (positive : g.Positive) (below : c.Below d) :
    (∀ id, (logicVerdicts (g.logicResults c)).of id → (logicVerdicts (g.logicResults d)).of id) ∧
    ((g.resolveSignal c (logicVerdicts (g.logicResults c))).active →
      (g.resolveSignal d (logicVerdicts (g.logicResults d))).active) := by
  have logic := below_logicVerdicts positive below
  refine ⟨logic, fun active => ?_⟩
  rw [active_resolveSignal_iff] at active ⊢
  obtain ⟨s, hs, told⟩ := active
  exact ⟨s, hs, mem_signalInputs_mono below logic told⟩

/-- Two logic nodes under one id, the later of which counts, and a connection from no node. -/
def tangle : Graph where
  name := "Tangle"
  description := ""
  version := Schema.defaultVersion
  mode := .automatic
  gating := []
  schemaVersion := Schema.currentSchema
  nodes := [⟨"red", .condition, some "repetition", [], none⟩,
    ⟨"even", .condition, some "trend", [], none⟩, ⟨"any", .logic, none, [], none⟩,
    ⟨"any", .logic, none, [("operator", .str "or")], none⟩, ⟨"bet", .signal, none, [], none⟩]
  connections := [⟨"1", "red", "any", .success⟩, ⟨"2", "even", "any", .success⟩,
    ⟨"3", "ghost", "any", .success⟩, ⟨"4", "any", "bet", .success⟩]

theorem monotone_resolveSignal_tangle : tangle.Positive ∧
    Verdicts.Below [("red", true)] [("even", true), ("red", true)] ∧
    (tangle.resolveSignal [("red", true)]
      (logicVerdicts (tangle.logicResults [("red", true)]))).active ∧
    (tangle.resolveSignal [("even", true), ("red", true)]
      (logicVerdicts (tangle.logicResults [("even", true), ("red", true)]))).active := by
  have positive : tangle.Positive := by
    unfold Positive
    decide +kernel
  have below : Verdicts.Below [("red", true)] [("even", true), ("red", true)] := by
    intro id h
    by_cases red : "red" = id
    · subst red
      rfl
    · simp [Verdicts.of, red] at h
  have active : (tangle.resolveSignal [("red", true)]
      (logicVerdicts (tangle.logicResults [("red", true)]))).active := by
    decide +kernel
  exact ⟨positive, below, active, (monotone_resolveSignal positive below).2 active⟩

end Graph
end RouletteStrategy
