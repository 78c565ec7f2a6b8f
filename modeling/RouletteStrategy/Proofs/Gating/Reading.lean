import RouletteStrategy.Gating.Rules
import RouletteStrategy.Proofs.Json.Clamping
import RouletteStrategy.Proofs.Json.WellFormed

/-!
# Modes and rules read back from what they are written as

What is read is one of the known modes, and rules within bounds; reading what these are written as
changes nothing.
-/

namespace RouletteStrategy

namespace SelectionMode

theorem read_mem_known (v : Json) {default : SelectionMode} (h : default ∈ known) :
    read v default ∈ known := by
  unfold read read?
  cases found : known.find? (·.name == Text.fold v.displayIfSet) with
  | none => exact h
  | some m => exact List.mem_of_find?_eq_some found

theorem read_name {m : SelectionMode} (h : m ∈ known) (default : SelectionMode) :
    read (.str m.name) default = m := by
  have found : ∀ m ∈ known, read? (.str m.name) = some m := by decide
  rw [read, found m h, Option.getD_some]

end SelectionMode

namespace GatingRules

/-- Counts are within their bounds. -/
structure InBounds (r : GatingRules) : Prop where
  maxAuto : minCount ≤ r.maxAuto ∧ r.maxAuto ≤ maxCount
  maxHybrid : minCount ≤ r.maxHybrid ∧ r.maxHybrid ≤ maxCount
  minManual : minCount ≤ r.minManual ∧ r.minManual ≤ maxCount

theorem clamped_of_readCount {v : Json} {default n : Nat} (h : readCount v default = .ok n) :
    v.Clamped minCount maxCount default n := by
  obtain ⟨i, read, h⟩ := bind_eq_ok.mp h
  cases h
  exact Json.clamped_of_clampInt (by decide) read

theorem readCount_ofNat {n : Nat} (h : minCount ≤ n ∧ n ≤ maxCount) (default : Nat) :
    readCount (.ofNat n) default = .ok n := by
  have small : (n : Int).natAbs < 2 ^ 53 := by
    have := h.2
    simp only [maxCount] at this
    omega
  have within : max (minCount : Int) (min maxCount n) = n := by omega
  rw [readCount, Json.ofNat, Json.clampInt_int small, within]
  rfl

theorem ofObject_eq_ok {o : Json.Object} {r : GatingRules} : ofObject o = .ok r ↔
    readCount (o.at "maxNumbersAuto") default.maxAuto = .ok r.maxAuto ∧
      readCount (o.at "maxNumbersHybrid") default.maxHybrid = .ok r.maxHybrid ∧
      readCount (o.at "minManualHybrid") default.minManual = .ok r.minManual ∧
      (o.at "excludeZero").flag default.excludeZero = r.excludeZero := by
  constructor
  · intro h
    obtain ⟨maxAuto, auto, h⟩ := bind_eq_ok.mp h
    obtain ⟨maxHybrid, hybrid, h⟩ := bind_eq_ok.mp h
    obtain ⟨minManual, manual, h⟩ := bind_eq_ok.mp h
    cases h
    exact ⟨auto, hybrid, manual, rfl⟩
  · rintro ⟨auto, hybrid, manual, zero⟩
    rw [ofObject, auto, hybrid, manual, zero]
    rfl

/-- The counts of rules are those of an object, within their bounds. -/
structure EntriesRead (o : Json.Object) (r : GatingRules) : Prop where
  maxAuto : (o.at "maxNumbersAuto").Clamped minCount maxCount default.maxAuto r.maxAuto
  maxHybrid : (o.at "maxNumbersHybrid").Clamped minCount maxCount default.maxHybrid r.maxHybrid
  minManual : (o.at "minManualHybrid").Clamped minCount maxCount default.minManual r.minManual
  excludeZero : (o.at "excludeZero").flag default.excludeZero = r.excludeZero

theorem entriesRead_ofObject {o : Json.Object} {r : GatingRules} (h : ofObject o = .ok r) :
    EntriesRead o r := by
  obtain ⟨auto, hybrid, manual, zero⟩ := ofObject_eq_ok.mp h
  exact ⟨clamped_of_readCount auto, clamped_of_readCount hybrid, clamped_of_readCount manual, zero⟩

theorem EntriesRead.inBounds {o : Json.Object} {r : GatingRules} (h : EntriesRead o r) :
    r.InBounds :=
  ⟨h.maxAuto.bounds (by decide), h.maxHybrid.bounds (by decide), h.minManual.bounds (by decide)⟩

/-- What is read is within bounds. -/
theorem inBounds_ofObject {o : Json.Object} {r : GatingRules} (h : ofObject o = .ok r) :
    r.InBounds :=
  (entriesRead_ofObject h).inBounds

theorem InBounds.merge {r r' : GatingRules} (bounds : r.InBounds) {o : Json.Object}
    (h : r.merge o = .ok r') : r'.InBounds := by
  simp only [GatingRules.merge] at h
  split at h
  · cases h
    exact bounds
  · exact inBounds_ofObject h

/-- Rules within bounds are read back from any object with what they are written as under their
keys. -/
theorem ofObject_of_at {r : GatingRules} (bounds : r.InBounds) {o : Json.Object}
    (maxAuto : o.at "maxNumbersAuto" = .ofNat r.maxAuto)
    (maxHybrid : o.at "maxNumbersHybrid" = .ofNat r.maxHybrid)
    (minManual : o.at "minManualHybrid" = .ofNat r.minManual)
    (excludeZero : o.at "excludeZero" = .bool r.excludeZero) : ofObject o = .ok r := by
  rw [ofObject_eq_ok, maxAuto, maxHybrid, minManual, excludeZero]
  exact ⟨readCount_ofNat bounds.maxAuto _, readCount_ofNat bounds.maxHybrid _,
    readCount_ofNat bounds.minManual _, rfl⟩

theorem ofObject_toObject {r : GatingRules} (bounds : r.InBounds) : ofObject r.toObject = .ok r :=
  ofObject_of_at bounds rfl rfl rfl rfl

theorem nodup_keys_toObject (r : GatingRules) : (Members.keys r.toObject).Nodup :=
  show ["maxNumbersAuto", "maxNumbersHybrid", "minManualHybrid", "excludeZero"].Nodup by decide

theorem wellFormed_toObject {r : GatingRules} (bounds : r.InBounds) :
    (Json.obj r.toObject).WellFormed := by
  have short : ∀ n, minCount ≤ n ∧ n ≤ maxCount → (Json.ofNat n).WellFormed := fun n h =>
    .ofNat (Nat.lt_of_le_of_lt h.2 (by decide))
  refine .obj (nodup_keys_toObject r) ?_
  simp only [toObject, List.forall_mem_cons]
  exact ⟨short _ bounds.maxAuto, short _ bounds.maxHybrid, short _ bounds.minManual,
    .bool _, by simp⟩

/-- The order of the keys has no influence. -/
theorem ofObject_sorted {r : GatingRules} (bounds : r.InBounds) :
    ofObject (Json.obj r.toObject).sorted.members = .ok r := by
  have lookup := Json.at_members_sorted (nodup_keys_toObject r)
  exact ofObject_of_at bounds (lookup _) (lookup _) (lookup _) (lookup _)

end GatingRules
end RouletteStrategy
