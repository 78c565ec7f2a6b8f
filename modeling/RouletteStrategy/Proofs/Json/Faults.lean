import RouletteStrategy.Json.Reading
import RouletteStrategy.Proofs.Except

/-!
# Values that cannot be read as numbers

Reading a number within bounds never fails but on an integer beyond every float.
-/

namespace RouletteStrategy.Json

/-- An integer beyond every float. -/
def IsHuge (v : Json) : Prop := ∃ i, v = .int i ∧ Binary64.ofInt? i = none

theorem failsIff_finiteNumber? (v : Json) : FailsIff .numberTooLarge v.IsHuge v.finiteNumber? := by
  cases v with
  | int i =>
      rw [finiteNumber?]
      cases found : Binary64.ofInt? i with
      | none => exact FailsIff.error.congr (iff_of_true trivial ⟨i, rfl, found⟩)
      | some x =>
          refine (FailsIff.ok _).congr (iff_of_false not_false ?_)
          rintro ⟨_, ⟨rfl⟩, none⟩
          cases none.symm.trans found
  | _ =>
    refine (FailsIff.ok _).congr (iff_of_false not_false ?_)
    rintro ⟨_, eq, -⟩
    cases eq

theorem failsIff_clampInt (v : Json) (low high default : Int) :
    FailsIff .numberTooLarge v.IsHuge (v.clampInt low high default) := by
  refine (v.failsIff_finiteNumber?.bind (q := False) fun x _ => ?_).congr (or_iff_left id)
  cases x <;> exact FailsIff.ok _

theorem failsIff_clampFloat (v : Json) (low high default : Binary64) :
    FailsIff .numberTooLarge v.IsHuge (v.clampFloat low high default) := by
  refine (v.failsIff_finiteNumber?.bind (q := False) fun x _ => ?_).congr (or_iff_left id)
  cases x <;> exact FailsIff.ok _

end RouletteStrategy.Json
