import RouletteStrategy.Proofs.Spin.History

/-!
# Spins that are read again

A history that has been read is read as itself, from its tokens as values (`History.fixed_readings`)
and, where no word has a comma in it, from its tokens as text (`History.parse_write`).
-/

namespace RouletteStrategy

namespace Token

variable {t : Token} {n : Int} {s s' : String}

/-- A text is read without regard to letter case and blanks at its ends. -/
theorem ofText?_congr (h : Text.fold s = Text.fold s') : ofText? s = ofText? s' := by
  rw [ofText?, ofText?, h]

/-- The numeral of a wheel number is read as the number. -/
theorem ofText?_toString (onWheel : Wheel.OnWheel n) :
    ofText? (toString n) = some (.number n) := by
  have readBack : ∀ m ∈ Wheel.pockets, ofText? (toString m) = some (.number m) := by
    decide +kernel
  exact readBack n (Wheel.mem_pockets.mpr onWheel)

/-- Apart from the synonyms a colour word is the name of its colour. -/
theorem name_of_get?_synonyms {w : String} {c : Category} (notRed : w ≠ "red")
    (notBlack : w ≠ "black") (h : synonyms.get? w = some c) : c.name = w := by
  have listed := Members.mem_of_get? h
  simp only [synonyms, List.mem_cons, Prod.mk.injEq, List.not_mem_nil, or_false] at listed
  rcases listed with ⟨rfl, rfl⟩ | ⟨rfl, -⟩ | ⟨rfl, rfl⟩ | ⟨rfl, -⟩ | ⟨rfl, rfl⟩
  · rfl
  · exact absurd rfl notRed
  · rfl
  · exact absurd rfl notBlack
  · rfl

theorem Canonical.ofText?_text (h : t.Canonical) : ofText? t.text = some t := by
  cases h with
  | number onWheel => exact ofText?_toString onWheel
  | @word w nonempty stripped lower notNumber notRed notBlack =>
      have folded : Text.fold w = w := by rw [Text.fold, stripped, lower]
      simp only [text, ofText?, folded, if_neg nonempty]
      cases colour : synonyms.get? w with
      | some c =>
          have same := name_of_get?_synonyms notRed notBlack colour
          exact congrArg (fun v => some (Token.word v)) same
      | none => rw [notNumber]

theorem Canonical.read?_toJson (h : t.Canonical) : read? t.toJson = some t := by
  cases t with
  | number n =>
      cases h with
      | number onWheel => rw [toJson, read?, ofInt?, if_pos onWheel]
  | word w =>
      rw [toJson, read?]
      exact h.ofText?_text

/-- Spaces in front of a text that is read are left out. -/
theorem ofText?_spaces (k : Nat) (s : String) :
    ofText? (String.ofList (List.replicate k ' ' ++ s.toList)) = ofText? s := by
  refine ofText?_congr ?_
  rw [Text.fold_append, String.ofList_toList]
  intro c hc
  rw [List.eq_of_mem_replicate hc]
  decide

end Token

namespace History

variable {h : History}

/-- Every token is in the form in which it is kept, and the tokens are read as themselves. -/
structure Fixed (h : History) : Prop where
  canonical : ∀ t ∈ h, t.Canonical
  again : read (.arr (h.map Token.toJson)) = .ok h

theorem fixed_of_canonical (canonical : ∀ t ∈ h, t.Canonical) : h.Fixed where
  canonical := canonical
  again := by
    have same : ∀ t ∈ h, (Token.read? ∘ Token.toJson) t = some t := fun t mem =>
      (canonical t mem).read?_toJson
    rw [read, List.filterMap_map, List.filterMap_congr same, List.filterMap_some]

/-- Whatever the values or the text that a history is read from, reading it again changes
nothing. -/
theorem fixed_readings :
    (∀ vs : List Json, ∃ h, read (.arr vs) = .ok h ∧ h.Fixed) ∧ ∀ s, (parse s).Fixed := by
  constructor
  · intro vs
    have spins : read (.arr vs) = .ok (vs.filterMap Token.read?) := rfl
    exact ⟨_, spins, fixed_of_canonical (canonical_of_read spins)⟩
  · intro s
    exact fixed_of_canonical canonical_of_parse

/-! ## Histories as text -/

/-- The pieces of a history that is written down: its tokens, each with some spaces in front. -/
def pieces (spaces : Nat → Nat) (h : History) : List (List Char) :=
  h.mapIdx fun i t => List.replicate (spaces i) ' ' ++ t.text.toList

/-- The tokens as text, with commas between them and some spaces in front of each. -/
def write (spaces : Nat → Nat) (h : History) : String :=
  String.ofList ([','].intercalate (h.pieces spaces))

theorem notMem_of_mem_pieces {spaces : Nat → Nat} {piece : List Char}
    (free : ∀ t ∈ h, ',' ∉ t.text.toList) (mem : piece ∈ h.pieces spaces) : ',' ∉ piece := by
  obtain ⟨i, inside, rfl⟩ := List.mem_mapIdx.mp mem
  rw [List.mem_append, not_or]
  refine ⟨fun comma => ?_, free _ (List.getElem_mem inside)⟩
  exact absurd (List.eq_of_mem_replicate comma) (by decide)

/-- Each piece is read as its token. -/
theorem filterMap_pieces (canonical : ∀ t ∈ h, t.Canonical) (spaces : Nat → Nat) :
    (h.pieces spaces).filterMap (Token.ofText? ∘ String.ofList) = h := by
  induction h generalizing spaces with
  | nil => rfl
  | cons t h ih =>
      obtain ⟨first, rest⟩ := List.forall_mem_cons.mp canonical
      have spin := (Token.ofText?_spaces (spaces 0) t.text).trans first.ofText?_text
      rw [pieces, List.mapIdx_cons, List.filterMap_cons, Function.comp_apply, spin]
      exact congrArg (t :: ·) (ih rest _)

theorem parse_ofList (cs : List Char) :
    parse (String.ofList cs) = (cs.splitOn ',').filterMap (Token.ofText? ∘ String.ofList) := by
  rw [parse, Text.splitAt, String.toList_ofList, Text.splitWhen_eq_splitOnP, List.filterMap_map,
    List.splitOn]

/-- A history without commas in its words is read from its tokens as text. -/
theorem parse_write {raw : Json} (spins : read raw = .ok h)
    (free : ∀ w, .word w ∈ h → ',' ∉ w.toList) (spaces : Nat → Nat) :
    parse (h.write spaces) = h := by
  have canonical := canonical_of_read spins
  have texts : ∀ t ∈ h, ',' ∉ t.text.toList := by
    intro t mem
    cases t with
    | word w => exact free w mem
    | number n =>
        cases canonical _ mem with
        | number onWheel =>
          have numerals : ∀ m ∈ Wheel.pockets, ',' ∉ (toString m).toList := by decide +kernel
          exact numerals n (Wheel.mem_pockets.mpr onWheel)
  cases h with
  | nil => rfl
  | cons t h =>
      rw [write, parse_ofList, List.splitOn_intercalate, filterMap_pieces canonical]
      · exact fun piece => notMem_of_mem_pieces texts
      · rw [pieces, List.mapIdx_cons]
        exact List.cons_ne_nil _ _

/-- A colour, two numbers and a word of its own, further apart from piece to piece. -/
theorem parse_write_red : ∃ h, read (.arr [.str " Red ", .float (.ofInt 5), .int 0,
      .obj [("value", .str "Dúzia 1")]]) = .ok h ∧ (∀ w, .word w ∈ h → ',' ∉ w.toList) ∧
    parse (h.write id) = h := by
  have spins : read (.arr [.str " Red ", .float (.ofInt 5), .int 0,
      .obj [("value", .str "Dúzia 1")]]) =
        .ok [.word "vermelho", .number 5, .number 0, .word "dúzia 1"] := by rfl
  have free : ∀ w, Token.word w ∈ [.word "vermelho", .number 5, .number 0, .word "dúzia 1"] →
      ',' ∉ w.toList := by
    simp only [List.mem_cons, Token.word.injEq, reduceCtorEq, false_or, List.not_mem_nil, or_false]
    rintro w (rfl | rfl) <;> decide
  exact ⟨_, spins, free, parse_write spins free id⟩

example : write id [.word "vermelho", .number 5, .number 0] = "vermelho, 5,  0" := by decide

end History
end RouletteStrategy
