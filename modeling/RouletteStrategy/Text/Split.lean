/-! # Parts of a text -/

namespace RouletteStrategy.Text

/-- The pieces between separators, empty ones included. -/
def splitWhen (p : Char → Bool) : List Char → List (List Char)
  | [] => [[]]
  | c :: cs =>
    if p c then [] :: splitWhen p cs
    else match splitWhen p cs with
      | [] => [[c]]
      | w :: ws => (c :: w) :: ws

theorem splitWhen_eq_splitOnP (p : Char → Bool) (cs : List Char) :
    splitWhen p cs = cs.splitOnP p := by
  induction cs with
  | nil => rfl
  | cons c cs ih =>
      rw [splitWhen, ih, List.splitOnP_cons_eq_if_modifyHead]
      cases pieces : cs.splitOnP p with
      | nil => exact absurd pieces (List.splitOnP_ne_nil p cs)
      | cons w ws => rfl

/-- Whether some stretch of the characters is the given one. -/
def occursIn (part : List Char) : List Char → Bool
  | [] => part.isEmpty
  | c :: cs => part.isPrefixOf (c :: cs) || occursIn part cs

def splitAt (separator : Char) (s : String) : List String :=
  (splitWhen (· == separator) s.toList).map String.ofList

end RouletteStrategy.Text
