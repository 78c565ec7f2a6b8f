import RouletteStrategy.Proofs.Gating.Reading
import RouletteStrategy.Proofs.Members

/-!
# Rules that override others

Rules in the place of others are read from one object, the members of both with those of the second
winning (`GatingRules.merge_eq_ofObject`); so an object does not change the rules that were read
from it (`GatingRules.merge_self`), nor a value the mode that it names. Rules are read from any
object but one with a count that is an integer beyond every float (`GatingRules.failsIff_ofObject`).
-/

namespace RouletteStrategy

namespace GatingRules

variable {o own overrides : Json.Object} {r : GatingRules}

/-! ## Counts that cannot be read -/

/-- The keys of the counts among the rules. -/
def countKeys : List String := ["maxNumbersAuto", "maxNumbersHybrid", "minManualHybrid"]

def HasHugeCount (o : Json.Object) : Prop := ∃ key ∈ countKeys, (o.at key).IsHuge

theorem failsIff_readCount (v : Json) (default : Nat) :
    FailsIff .numberTooLarge v.IsHuge (readCount v default) :=
  ((v.failsIff_clampInt _ _ _).bind fun i _ => FailsIff.ok i.toNat).congr (or_iff_left id)

theorem failsIff_ofObject (o : Json.Object) :
    FailsIff .numberTooLarge (HasHugeCount o) (ofObject o) := by
  refine ((failsIff_readCount _ _).bind fun maxAuto _ => (failsIff_readCount _ _).bind
    fun maxHybrid _ => (failsIff_readCount _ _).bind fun minManual _ => FailsIff.ok _).congr ?_
  simp only [HasHugeCount, countKeys, List.mem_cons, List.not_mem_nil, exists_eq_or_imp, or_false,
    exists_eq_left]

/-! ## Rules in force -/

/-- The members of both objects, those of the second winning unless they are null. -/
def given (own overrides : Json.Object) : Json.Object :=
  Members.overlay own (overrides.filter fun kv => !kv.2.isNull)

/-- A key has the same value under the same changes, or none of them is under that key. -/
theorem at_overlay_congr {α : Type} (f : Json → α) {m n : Json.Object} {key : String}
    (same : f (m.at key) = f (n.at key)) (changes : Json.Object) :
    f (Json.Object.at (Members.overlay m changes) key) =
      f (Json.Object.at (Members.overlay n changes) key) := by
  rw [Json.Object.at, Json.Object.at, Members.get?_overlay, Members.get?_overlay]
  cases Members.get? changes.reverse key with
  | none => exact same
  | some v => rfl

/-- The rules that were read stand for the object that they were read from, whatever overrides
them. -/
theorem ofObject_overlay_toObject (h : ofObject own = .ok r) (changes : Json.Object) :
    ofObject (r.toObject.overlay changes) = ofObject (Members.overlay own changes) := by
  obtain ⟨auto, hybrid, manual, zero⟩ := ofObject_eq_ok.mp h
  obtain ⟨auto', hybrid', manual', zero'⟩ :=
    ofObject_eq_ok.mp (ofObject_toObject (inBounds_ofObject h))
  have maxAuto := at_overlay_congr (readCount · _) (auto'.trans auto.symm) changes
  have maxHybrid := at_overlay_congr (readCount · _) (hybrid'.trans hybrid.symm) changes
  have minManual := at_overlay_congr (readCount · _) (manual'.trans manual.symm) changes
  have excludeZero := at_overlay_congr (Json.flag · _) (zero'.trans zero.symm) changes
  rw [ofObject, ofObject, maxAuto, maxHybrid, minManual, excludeZero]

theorem merge_eq_ofObject (h : ofObject own = .ok r) (overrides : Json.Object) :
    r.merge overrides = ofObject (given own overrides) := by
  unfold merge
  by_cases none : (overrides.filter fun kv => !kv.2.isNull).isEmpty
  · rw [if_pos none, given, List.isEmpty_iff.mp none]
    exact h.symm
  · rw [if_neg none, given]
    exact ofObject_overlay_toObject h _

/-- The members of an object in their own place are the same ones. -/
theorem at_given_self (distinct : (Members.keys o).Nodup) (key : String) :
    Json.Object.at (given o o) key = o.at key := by
  have sublist : (o.filter fun kv => !kv.2.isNull).Sublist o := List.filter_sublist
  have kept := Members.get?_filter_values distinct (fun v => !v.isNull) key
  rw [Json.Object.at, given, Members.get?_overlay_of_nodup _ (distinct.sublist (sublist.map _)),
    kept, Json.Object.at]
  cases Members.get? o key with
  | none => rfl
  | some v => cases v <;> rfl

theorem merge_self (distinct : (Members.keys o).Nodup) (h : ofObject o = .ok r) :
    r.merge o = .ok r := by
  have same := at_given_self distinct
  rw [merge_eq_ofObject h, ← h, ofObject, ofObject, same, same, same, same]

end GatingRules

namespace SelectionMode

/-- A value that is not set names no mode. -/
theorem read_of_not_isSet {v : Json} (h : ¬ v.isSet) (default : SelectionMode) :
    read v default = default := by
  have unnamed : known.find? (·.name == Text.fold "") = none := by decide +kernel
  rw [read, read?, Json.displayIfSet, if_neg h, unnamed]
  rfl

theorem read_self (v : Json) (default : SelectionMode) :
    read v (read v default) = read v default := by
  unfold read
  cases read? v <;> rfl

end SelectionMode
end RouletteStrategy
