import RouletteStrategy.Proofs.Graph.Reading
import RouletteStrategy.Proofs.Json.Values

/-!
# Payloads that are not read as graphs

A payload that is not read as a graph is refused with what is wrong with it (`Error.IsRefusal`),
unless the configuration under `data` of a node breaks off the reading: a configuration that is set
but no sequence, or a list in which, after pairs, stands an entry that is no sequence or has a list
or an object for its key (`Pairs.Unreadable`).
-/

namespace RouletteStrategy

/-- The errors that say what is wrong with a payload. -/
inductive Error.IsRefusal : Error → Prop where
  | graphNotObject : IsRefusal .graphNotObject
  | strategyNotObject : IsRefusal .strategyNotObject
  | invalidGraph (issues : List Issue) : IsRefusal (.invalidGraph issues)
  | invalidStrategy (issues : List Issue) : IsRefusal (.invalidStrategy issues)

/-! ## Configurations -/

namespace Pairs

variable {origin : Origin} {v : Json} {vs : List Json}

/-- Entries of two items, the first of them a key. -/
def IsPair (v : Json) : Prop := ∃ key value, entryItems v = .ok [key, value] ∧ isKey key

/-- Entries that are no sequence, or whose first item of two cannot be a key. -/
inductive Breaks : Json → Prop where
  | null : Breaks .null
  | bool (b : Bool) : Breaks (.bool b)
  | int (i : Int) : Breaks (.int i)
  | float (x : Binary64) : Breaks (.float x)
  | pair {key value : Json} (h : ¬ isKey key) : Breaks (.arr [key, value])

/-- Lists in which, after pairs, an entry breaks off the reading. -/
inductive BreaksOff : List Json → Prop where
  | here {v : Json} {vs : List Json} (h : Breaks v) : BreaksOff (v :: vs)
  | later {v : Json} {vs : List Json} (first : IsPair v) (h : BreaksOff vs) : BreaksOff (v :: vs)

/-- Configurations that are set but no sequence, or that have an entry that breaks off. -/
inductive Unreadable : Json → Prop where
  | true : Unreadable (.bool true)
  | int {i : Int} (h : i ≠ 0) : Unreadable (.int i)
  | float {x : Binary64} (h : ¬ x.isZero) : Unreadable (.float x)
  | arr {vs : List Json} (h : BreaksOff vs) : Unreadable (.arr vs)

theorem Breaks.not_isPair (h : Breaks v) : ¬ IsPair v := by
  rintro ⟨key, value, items, isKey⟩
  cases h with
  | pair other =>
      cases items
      exact other isKey
  | _ => cases items

/-- An entry is a pair, or breaks off the reading, or has another number of items than two. -/
theorem entry_cases (v : Json) : IsPair v ∨ Breaks v ∨
    ∃ items, entryItems v = .ok items ∧ items.length ≠ 2 := by
  -- what has two items is a pair if the first of them can be a key
  have sequence : ∀ items, entryItems v = .ok items →
      (∀ key value, items = [key, value] → isKey key ∨ Breaks v) →
      IsPair v ∨ Breaks v ∨ ∃ items, entryItems v = .ok items ∧ items.length ≠ 2 := by
    intro items eq keys
    by_cases two : items.length = 2
    · obtain ⟨key, value, rfl⟩ := List.length_eq_two.mp two
      rcases keys key value rfl with isKey | breaks
      · exact .inl ⟨key, value, eq, isKey⟩
      · exact .inr (.inl breaks)
    · exact .inr (.inr ⟨items, eq, two⟩)
  cases v with
  | null => exact .inr (.inl .null)
  | bool b => exact .inr (.inl (.bool b))
  | int i => exact .inr (.inl (.int i))
  | float x => exact .inr (.inl (.float x))
  | str s =>
      refine sequence (singles s) rfl fun key value eq => .inl ?_
      have mem : key ∈ singles s := eq ▸ List.mem_cons_self
      obtain ⟨n, -, rfl⟩ := List.mem_map.mp mem
      rfl
  | arr vs =>
      refine sequence vs rfl fun key value eq => ?_
      subst eq
      by_cases isKey : Pairs.isKey key
      · exact .inl isKey
      · exact .inr (.pair isKey)
  | obj ms =>
      refine sequence (ms.map fun kv => .str kv.1) rfl fun key value eq => .inl ?_
      have mem : key ∈ ms.map fun kv => Json.str kv.1 := eq ▸ List.mem_cons_self
      obtain ⟨kv, -, rfl⟩ := List.mem_map.mp mem
      rfl

theorem failsIff_ofItems (index : Nat) (done : Entries) :
    FailsIff .wrongType (BreaksOff vs) (ofItems origin index done vs) := by
  induction vs generalizing index done with
  | nil => exact (FailsIff.ok _).congr (iff_of_false not_false nofun)
  | cons v vs ih =>
      rcases entry_cases v with pair | breaks | ⟨items, eq, other⟩
      · obtain ⟨key, value, items, isKey⟩ := pair
        have rest : ofItems origin index done (v :: vs) =
            ofItems origin (index + 1) (set origin done key value) vs := by
          rw [ofItems, items]
          exact if_pos isKey
        rw [rest]
        refine (ih _ _).congr ⟨.later ⟨key, value, items, isKey⟩, fun h => ?_⟩
        cases h with
        | here breaks => exact absurd ⟨key, value, items, isKey⟩ breaks.not_isPair
        | later _ h => exact h
      · have fails : ofItems origin index done (v :: vs) = .error .wrongType := by
          rw [ofItems]
          cases breaks with
          | pair h => exact if_neg h
          | _ => rfl
        rw [fails]
        exact FailsIff.error.congr (iff_of_true trivial (.here breaks))
      · have stops : ofItems origin index done (v :: vs) = .ok (.error ⟨index, items.length⟩) := by
          rw [ofItems, eq]
          rcases items with _ | ⟨first, _ | ⟨second, _ | ⟨third, rest⟩⟩⟩
          · rfl
          · rfl
          · exact absurd rfl other
          · rfl
        rw [stops]
        refine (FailsIff.ok _).congr (iff_of_false not_false fun h => ?_)
        cases h with
        | here breaks =>
            cases breaks with
            | pair => cases eq; exact other rfl
            | _ => cases eq
        | later first _ =>
            obtain ⟨key, value, two, -⟩ := first
            cases eq.symm.trans two
            exact other rfl

/-- Texts are no broken entries. -/
theorem not_breaksOff_singles (s : String) : ¬ BreaksOff (singles s) := by
  unfold singles
  induction Text.points s with
  | nil => exact nofun
  | cons n ns ih =>
      intro h
      cases h with
      | here breaks => cases breaks
      | later _ h => exact ih h

theorem failsIff_read (v : Json) : FailsIff .wrongType (Unreadable v) (read origin v) := by
  unfold read
  by_cases set : v.isSet
  · rw [if_neg (by simp [set])]
    cases v with
    | null => cases set
    | bool b =>
        cases b with
        | false => cases set
        | true => exact FailsIff.error.congr (iff_of_true trivial .true)
    | int i =>
        have h : i ≠ 0 := by simpa [Json.isSet] using set
        exact FailsIff.error.congr (iff_of_true trivial (.int h))
    | float x =>
        have h : ¬ x.isZero := by simpa [Json.isSet] using set
        exact FailsIff.error.congr (iff_of_true trivial (.float h))
    | str s =>
        refine (failsIff_ofItems 0 []).congr (iff_of_false (not_breaksOff_singles s) ?_)
        intro h
        cases h
    | arr vs =>
        refine (failsIff_ofItems 0 []).congr ⟨.arr, fun h => ?_⟩
        cases h with
        | arr h => exact h
    | obj ms =>
        refine (FailsIff.ok _).congr (iff_of_false not_false fun h => ?_)
        cases h
  · rw [if_pos (by simp [set])]
    refine (FailsIff.ok _).congr (iff_of_false not_false fun h => set ?_)
    cases h with
    | true => rfl
    | int h => simpa [Json.isSet] using h
    | float h => simpa [Json.isSet] using h
    | arr h => cases h <;> rfl

end Pairs

/-! ## Nodes and graphs -/

namespace Schema

variable {origin : Pairs.Origin} {o : Json.Object}

/-- A node whose configuration under `data` breaks off the reading. -/
def BreaksOff (v : Json) : Prop :=
  ∃ o data : Json.Object, v = .obj o ∧ o.at "data" = .obj data ∧ Pairs.Unreadable (data.at "config")

theorem failsIff_objectForm (o : Json.Object) :
    FailsIff .wrongType (BreaksOff (.obj o)) (objectForm origin o) := by
  unfold objectForm
  cases nested : (o.at "data").asObject? with
  | none =>
      refine (FailsIff.ok _).congr (iff_of_false not_false ?_)
      rintro ⟨_, data, ⟨rfl⟩, eq, -⟩
      rw [eq] at nested
      cases nested
  | some data =>
      have eq : o.at "data" = .obj data := Json.eq_obj_of_asObject? nested
      refine ((Pairs.failsIff_read _).bind (q := False) fun entries _ => ?_).congr ?_
      · cases entries <;> exact FailsIff.ok _
      · refine ⟨fun h => ⟨o, data, rfl, eq, h.resolve_right id⟩, ?_⟩
        rintro ⟨_, _, ⟨rfl⟩, eq', h⟩
        cases eq.symm.trans eq'
        exact .inl h

theorem failsIff_nodeForm (v : Json) : FailsIff .wrongType (BreaksOff v) (nodeForm origin v) := by
  cases v with
  | obj o => exact failsIff_objectForm o
  | _ =>
    refine (FailsIff.ok _).congr (iff_of_false not_false ?_)
    rintro ⟨_, _, eq, -⟩
    cases eq

/-- Fields with such a node in their list. -/
def HasBrokenNode (o : Json.Object) : Prop :=
  ∃ vs, Members.get? o "nodes" = some (.arr vs) ∧ ∃ v ∈ vs, BreaksOff v

theorem failsIff_nodeForms (o : Json.Object) :
    FailsIff .wrongType (HasBrokenNode o) (nodeForms origin o) := by
  have items : ∀ vs, readItems o "nodes" = .ok vs →
      ((∃ v ∈ vs, BreaksOff v) ↔ HasBrokenNode o) := by
    intro vs h
    unfold readItems at h
    split at h
    next missing =>
      cases h
      refine iff_of_false (by simp) ?_
      rintro ⟨_, found, -⟩
      cases missing.symm.trans found
    next found =>
      cases h
      refine ⟨fun h => ⟨vs, found, h⟩, ?_⟩
      rintro ⟨_, found', h⟩
      cases found.symm.trans found'
      exact h
    next => cases h
  unfold nodeForms
  cases read : readItems o "nodes" with
  | ok vs =>
      have forms : FailsIff .wrongType (∃ v ∈ vs, BreaksOff v) (vs.mapM (nodeForm origin)) :=
        .mapM fun v _ => failsIff_nodeForm v
      exact (forms.map Except.ok).congr (items vs read)
  | error issues =>
      refine (FailsIff.ok _).congr (iff_of_false not_false ?_)
      rintro ⟨vs, found, -⟩
      rw [readItems, found] at read
      cases read

end Schema

namespace Graph

variable {origin : Pairs.Origin} {o : Json.Object} {e : Error}

/-- Once the nodes have their flat forms, a payload is read or refused. -/
theorem readFrom_of_nodeForms {forms : Checked (List Schema.NodeForm)}
    (h : Schema.nodeForms origin (Schema.unnest o) = .ok forms) :
    (∃ g, readFrom origin (.obj o) = .ok g) ∨
      ∃ issues, readFrom origin (.obj o) = .error (.invalidGraph issues) := by
  cases read : Schema.readFields (Schema.unnest o) forms with
  | ok g =>
      have unchecked := readUnchecked_eq_ok.mpr ⟨forms, h, Schema.readFields_eq_ok.mp read⟩
      rw [readFrom, unchecked]
      show (∃ g', g.check = .ok g') ∨ ∃ issues, g.check = .error (.invalidGraph issues)
      by_cases valid : g.issues.isEmpty
      · exact .inl ⟨g, if_pos valid⟩
      · exact .inr ⟨g.issues, if_neg valid⟩
  | error issues =>
      have fields : ofObject origin (Schema.unnest o) = .ok (.error issues) := by
        rw [ofObject, h]
        exact congrArg Except.ok read
      refine .inr ⟨issues, ?_⟩
      simp only [readFrom, readUnchecked, Json.asObject?, fields]
      rfl

theorem readFrom_of_nodeForms_error (h : Schema.nodeForms origin (Schema.unnest o) = .error e) :
    readFrom origin (.obj o) = .error e := by
  simp only [readFrom, readUnchecked, Json.asObject?, ofObject, h]
  rfl

/-- An object is read or has issues, unless it has a node that breaks off the reading. -/
theorem readFrom_cases (origin : Pairs.Origin) (o : Json.Object) :
    (Schema.HasBrokenNode (Schema.unnest o) ∧ readFrom origin (.obj o) = .error .wrongType) ∨
    ¬ Schema.HasBrokenNode (Schema.unnest o) ∧ ((∃ g, readFrom origin (.obj o) = .ok g) ∨
      ∃ issues, readFrom origin (.obj o) = .error (.invalidGraph issues)) := by
  have fails : FailsIff .wrongType _ (Schema.nodeForms origin (Schema.unnest o)) :=
    Schema.failsIff_nodeForms (Schema.unnest o)
  cases forms : Schema.nodeForms origin (Schema.unnest o) with
  | error e =>
      obtain ⟨rfl, broken⟩ := (fails e).mp forms
      exact .inl ⟨broken, readFrom_of_nodeForms_error forms⟩
  | ok forms' =>
      refine .inr ⟨fun broken => ?_, readFrom_of_nodeForms forms⟩
      cases forms.symm.trans ((fails .wrongType).mpr ⟨rfl, broken⟩)

/-- A payload that is not read is refused, unless a node breaks off the reading. -/
theorem isRefusal_or_wrongType {p : Json} (h : read p = .error e) :
    e.IsRefusal ∨ e = .wrongType := by
  cases p with
  | obj o =>
      rcases readFrom_cases .values o with ⟨-, broken⟩ | ⟨-, ⟨g, graph⟩ | ⟨issues, refused⟩⟩
      · exact .inr (Except.error.inj (h.symm.trans broken))
      · cases h.symm.trans graph
      · cases h.symm.trans refused
        exact .inl (.invalidGraph issues)
  | _ =>
    cases h
    exact .inl .graphNotObject

theorem read_eq_wrongType_iff {p : Json} : read p = .error .wrongType ↔
    ∃ o, p = .obj o ∧ Schema.HasBrokenNode (Schema.unnest o) := by
  cases p with
  | obj o =>
      simp only [Json.obj.injEq, exists_eq_left', read]
      rcases readFrom_cases .values o with ⟨broken, graph⟩ | ⟨whole, ⟨g, graph⟩ | ⟨issues, graph⟩⟩
      · exact iff_of_true graph broken
      · exact iff_of_false (by simp [graph]) whole
      · exact iff_of_false (by simp [graph]) whole
  | _ => exact iff_of_false nofun (by simp)

end Graph
end RouletteStrategy
