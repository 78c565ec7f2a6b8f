import RouletteStrategy.Proofs.Gating.Merging

/-!
# Rules overridden step by step

What an override leaves in force is what it says under each key, or else what stood there before
(`GatingRules.get?_given`). So two overrides one after the other are one object with the members of
both, and neither an object nor what the rules are written as changes the rules that were read from
it. However often rules are overridden, their counts stay within bounds (`GatingRules.Obtained`).
-/

namespace RouletteStrategy.GatingRules

variable {o o' own a b : Json.Object} {r r' : GatingRules}

theorem ofObject_eq_of_at (same : ∀ key, o.at key = o'.at key) : ofObject o = ofObject o' := by
  rw [ofObject, ofObject, same, same, same, same]

/-- A value in force, given the value under a key and the one that overrides it. -/
def overridden (own override : Option Json) : Option Json := (override.filter (!·.isNull)).or own

theorem get?_given (own : Json.Object) (distinct : (Members.keys b).Nodup) (key : String) :
    Members.get? (given own b) key = overridden (Members.get? own key) (Members.get? b key) := by
  have distinct' : (Members.keys (b.filter fun kv => !kv.2.isNull)).Nodup :=
    distinct.sublist (List.filter_sublist.map _)
  rw [given, Members.get?_overlay_of_nodup own distinct',
    Members.get?_filter_values distinct (!·.isNull), overridden]

/-- An override that is overridden itself gives way where the other one has a value. -/
theorem overridden_overridden (own first second : Option Json) :
    overridden (overridden own first) second = overridden own (overridden first second) := by
  unfold overridden
  rw [← Option.or_assoc]
  congr 1
  cases second with
  | none => rw [Option.filter_none, Option.none_or, Option.none_or]
  | some v =>
      by_cases null : v.isNull
      · have none : (some v).filter (fun w => !w.isNull) = none := by simp [null]
        rw [none, Option.none_or, Option.none_or]
      · have kept : (some v).filter (fun w => !w.isNull) = some v := by simp [null]
        rw [kept, Option.some_or, Option.some_or, kept]

theorem ofObject_given_given (own : Json.Object) (distinctA : (Members.keys a).Nodup)
    (distinctB : (Members.keys b).Nodup) :
    ofObject (given (given own a) b) = ofObject (given own (given a b)) := by
  have distinct : (Members.keys (given a b)).Nodup := Members.nodup_keys_overlay distinctA _
  refine ofObject_eq_of_at fun key => ?_
  rw [Json.Object.at, Json.Object.at, get?_given _ distinctB, get?_given _ distinctA,
    get?_given _ distinct, get?_given _ distinctB, overridden_overridden]

/-- Rules that are read from an object, and rules in the place of such rules. -/
inductive Obtained : GatingRules → Prop where
  | read {o : Json.Object} {r : GatingRules} : ofObject o = .ok r → Obtained r
  | merge {o : Json.Object} {r r' : GatingRules} : Obtained r → r.merge o = .ok r' → Obtained r'

theorem Obtained.inBounds (h : Obtained r) : r.InBounds := by
  induction h with
  | read h => exact inBounds_ofObject h
  | merge _ h ih => exact ih.merge h

/-- Overriding rules twice is overriding them once with the members of both objects. Rules are read
back from what they are written as, and the object that they were read from does not change them.
All rules that come about in this way have their counts within bounds. -/
theorem overrides_compose (read : ofObject own = .ok r) :
    (∀ a b, (Members.keys a).Nodup → (Members.keys b).Nodup → ∀ r₁ r₂,
      r.merge a = .ok r₁ → r₁.merge b = .ok r₂ → r.merge (given a b) = .ok r₂) ∧
    ofObject r.toObject = .ok r ∧
    ((Members.keys own).Nodup → r.merge own = .ok r) ∧
    ∀ r', Obtained r' → r'.InBounds := by
  refine ⟨?_, ofObject_toObject (inBounds_ofObject read), fun distinct => merge_self distinct read,
    fun _ h => h.inBounds⟩
  intro a b distinctA distinctB r₁ r₂ first second
  rw [merge_eq_ofObject read] at first
  rw [merge_eq_ofObject first] at second
  rw [merge_eq_ofObject read, ← ofObject_given_given own distinctA distinctB]
  exact second

/-- A count out of bounds is overridden by a text, and then the text by a value that is no number. -/
theorem overrides_compose_texts :
    ofObject [("maxNumbersAuto", .int 50)] = .ok ⟨36, 24, 1, false⟩ ∧
      merge ⟨36, 24, 1, false⟩ [("maxNumbersAuto", .str "7.5"), ("excludeZero", .str " Sim")] =
        .ok ⟨8, 24, 1, true⟩ ∧
      merge ⟨8, 24, 1, true⟩ [("maxNumbersAuto", .bool true), ("excludeZero", .null)] =
        .ok ⟨18, 24, 1, true⟩ ∧
      merge ⟨36, 24, 1, false⟩ (given
          [("maxNumbersAuto", .str "7.5"), ("excludeZero", .str " Sim")]
          [("maxNumbersAuto", .bool true), ("excludeZero", .null)]) = .ok ⟨18, 24, 1, true⟩ ∧
      merge ⟨36, 24, 1, false⟩ [("maxNumbersAuto", .int 50)] = .ok ⟨36, 24, 1, false⟩ := by
  have read : ofObject [("maxNumbersAuto", .int 50)] = .ok ⟨36, 24, 1, false⟩ := by rfl
  have first : merge ⟨36, 24, 1, false⟩
      [("maxNumbersAuto", .str "7.5"), ("excludeZero", .str " Sim")] = .ok ⟨8, 24, 1, true⟩ := by
    rfl
  have second : merge ⟨8, 24, 1, true⟩ [("maxNumbersAuto", .bool true), ("excludeZero", .null)] =
      .ok ⟨18, 24, 1, true⟩ := by rfl
  have laws := overrides_compose read
  refine ⟨read, first, second, laws.1 _ _ (by decide) (by decide) _ _ first second, ?_⟩
  exact laws.2.2.1 (by decide)

end RouletteStrategy.GatingRules
