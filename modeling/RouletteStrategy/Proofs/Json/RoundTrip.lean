import RouletteStrategy.Proofs.Json.NumberText
import RouletteStrategy.Proofs.Json.TextLiteral
import RouletteStrategy.Proofs.Json.WellFormed

/-!
# Values read back from their text

A value that a text can denote is read from what it is written as (`Parser.parse_render`). The
induction is on the value; what it carries is that a part is read with room for its height and two
steps for each of its characters, whatever follows it.
-/

namespace RouletteStrategy.Json

/-- Only blanks stand between the parts of a value. -/
structure Style.Regular (style : Style) : Prop where
  newline : ∀ depth, ∀ c ∈ style.newline depth, Parser.isGap c
  colon : ∃ gap, style.colon = ':' :: gap ∧ ∀ c ∈ gap, Parser.isGap c

theorem Style.regular_indented : Style.indented.Regular where
  newline depth c h := by
    rcases List.mem_cons.mp h with rfl | h
    · rfl
    · rw [List.eq_of_mem_replicate h]
      rfl
  colon := ⟨[' '], rfl, fun c h => by rw [List.mem_singleton.mp h]; rfl⟩

namespace Parser

/-! ## Blanks and first characters -/

section Blanks

variable {gap cs : List Char} {c : Char}

theorem skip_append (h : ∀ c ∈ gap, isGap c) : skip (gap ++ cs) = skip cs :=
  List.dropWhile_append_of_pos h

theorem skip_cons (h : ¬isGap c) : skip (c :: cs) = c :: cs := List.dropWhile_cons_of_neg h

theorem skip_append_cons (h : ∀ c ∈ gap, isGap c) (hc : ¬isGap c) :
    skip (gap ++ c :: cs) = c :: cs := by
  rw [skip_append h, skip_cons hc]

theorem stops_append_cons (h : ∀ c ∈ gap, isGap c) (hc : Stops (c :: cs)) :
    Stops (gap ++ c :: cs) := by
  cases gap with
  | nil => exact hc
  | cons g gap =>
      have blank := h g List.mem_cons_self
      simp only [isGap, Bool.or_eq_true, beq_iff_eq] at blank
      refine stops_cons ?_
      rcases blank with ((rfl | rfl) | rfl) | rfl <;> decide

end Blanks

/-- A text that starts neither with a blank nor with the end of a list. -/
def Opens (cs : List Char) : Prop := ∃ c r, cs = c :: r ∧ ¬isGap c ∧ c ≠ ']'

theorem Opens.append {cs : List Char} (h : Opens cs) (rest : List Char) : Opens (cs ++ rest) := by
  obtain ⟨c, r, rfl, hc⟩ := h
  exact ⟨c, r ++ rest, rfl, hc⟩

theorem Opens.skip_append {gap cs : List Char} (h : Opens cs) (blank : ∀ c ∈ gap, isGap c) :
    skip (gap ++ cs) = cs := by
  obtain ⟨c, r, rfl, hc, -⟩ := h
  exact skip_append_cons blank hc

theorem opens_of_scalar {cs : List Char} {r : Json × List Char} (h : scalar cs = some r) :
    Opens cs := by
  cases cs with
  | nil => exact absurd (h.symm.trans (show scalar [] = none from rfl)) (Option.some_ne_none r)
  | cons c cs =>
      refine ⟨c, cs, rfl, ?_, ?_⟩
      · intro blank
        simp only [isGap, Bool.or_eq_true, beq_iff_eq] at blank
        rcases blank with ((rfl | rfl) | rfl) | rfl <;>
          simp [scalar, words, word?, number, magnitude, wholeDigits] at h
      · rintro rfl
        simp [scalar, words, word?, number, magnitude, wholeDigits] at h

/-- Words and numbers read back from their text. -/
theorem scalar_write {v : Json} (h : v.WellFormed) (style : Style) (depth : Nat) {rest : List Char}
    (stops : Stops rest) (text : ∀ s, v ≠ .str s) (list : ∀ xs, v ≠ .arr xs)
    (object : ∀ ms, v ≠ .obj ms) : scalar (write style depth v ++ rest) = some (v, rest) := by
  cases h with
  | null => simp [write, scalar, words, word?]
  | bool b => cases b <;> simp [write, scalar, words, word?]
  | int short => exact scalar_integerText short stops
  | float x => exact scalar_floatText x stops
  | str s => exact absurd rfl (text s)
  | arr items => exact absurd rfl (list _)
  | obj distinct members => exact absurd rfl (object _)

theorem opens_write {v : Json} (h : v.WellFormed) (style : Style) (depth : Nat) :
    Opens (write style depth v) := by
  have brackets : ∀ c ∈ ['"', '[', '\x7b'], ¬isGap c ∧ c ≠ ']' := by simp [isGap]
  cases v with
  | str s => exact ⟨'"', _, rfl, brackets '"' (by simp)⟩
  | arr xs =>
      unfold write
      split
      · exact ⟨'[', _, rfl, brackets '[' (by simp)⟩
      · exact ⟨'[', _, rfl, brackets '[' (by simp)⟩
  | obj ms =>
      unfold write
      split
      · exact ⟨'\x7b', _, rfl, brackets '\x7b' (by simp)⟩
      · exact ⟨'\x7b', _, rfl, brackets '\x7b' (by simp)⟩
  | _ =>
      have read := scalar_write h style depth stops_nil (by simp) (by simp) (by simp)
      rw [List.append_nil] at read
      exact opens_of_scalar read

/-- There is a step for a value, which has some text. -/
theorem exists_fuel {v : Json} (h : v.WellFormed) {style : Style} {depth fuel : Nat}
    (enough : 2 * (write style depth v).length ≤ fuel) : ∃ k, fuel = k + 1 := by
  obtain ⟨c, r, eq, -⟩ := opens_write h style depth
  rw [eq, List.length_cons] at enough
  exact Nat.exists_eq_succ_of_ne_zero (by omega)

/-! ## One step of each reader -/

section Steps

variable {fuel room : Nat} {gap cs ds rest : List Char} {x : Json} {xs : List Json}
  {done ms : Object} {key : String}

theorem text_writeText (s : String) (rest : List Char) :
    writeText s ++ rest = '"' :: (s.toList.flatMap escapeChar ++ '"' :: rest) := by
  simp [writeText]

theorem value_writeText (s : String) :
    value (fuel + 1) room (writeText s ++ rest) = .ok (.str s, rest) := by
  rw [text_writeText, value, text_flatMap_escapeChar]
  simp [Step.ofOption]

theorem value_list (blank : ∀ c ∈ gap, isGap c) (opens : Opens cs)
    (read : items fuel room cs = .ok (xs, rest)) :
    value (fuel + 1) (room + 1) ('[' :: (gap ++ cs)) = .ok (.arr xs, rest) := by
  obtain ⟨c, r, rfl, no_gap, no_end⟩ := opens
  simp only [value, skip_append_cons blank no_gap]
  split
  · next eq => exact absurd (List.cons.inj eq).1 no_end
  · rw [read]
    rfl

theorem value_object (blank : ∀ c ∈ gap, isGap c)
    (read : members fuel room [] ('"' :: cs) = .ok (ms, rest)) :
    value (fuel + 1) (room + 1) ('\x7b' :: (gap ++ '"' :: cs)) = .ok (.obj ms, rest) := by
  simp only [value, skip_append_cons blank (show ¬isGap '"' by decide)]
  exact map_eq_ok.mpr ⟨_, read, rfl⟩

theorem items_last (read : value fuel room cs = .ok (x, gap ++ ']' :: rest))
    (blank : ∀ c ∈ gap, isGap c) : items (fuel + 1) room cs = .ok ([x], rest) := by
  simp only [items, read, skip_append_cons blank (show ¬isGap ']' by decide)]

theorem items_next (read : value fuel room cs = .ok (x, ',' :: ds))
    (more : items fuel room (skip ds) = .ok (xs, rest)) :
    items (fuel + 1) room cs = .ok (x :: xs, rest) := by
  simp only [items, read, skip_cons (show ¬isGap ',' by decide), more, Except.map]

theorem members_last (read : value fuel room (skip cs) = .ok (x, gap ++ '}' :: rest))
    (blank : ∀ c ∈ gap, isGap c) :
    members (fuel + 1) room done (writeText key ++ ':' :: cs) =
      .ok (Members.set done key x, rest) := by
  simp only [text_writeText, members, text_flatMap_escapeChar, List.reverse_nil, List.nil_append,
    skip_cons (show ¬isGap ':' by decide), read, skip_append_cons blank (show ¬isGap '}' by decide),
    String.ofList_toList]

theorem members_next (read : value fuel room (skip cs) = .ok (x, ',' :: ds)) :
    members (fuel + 1) room done (writeText key ++ ':' :: cs) =
      members fuel room (Members.set done key x) (skip ds) := by
  simp only [text_writeText, members, text_flatMap_escapeChar, List.reverse_nil, List.nil_append,
    skip_cons (show ¬isGap ':' by decide), read, skip_cons (show ¬isGap ',' by decide),
    String.ofList_toList]

end Steps

/-! ## Lists and objects -/

/-- With enough room and fuel, a value is read from what it is written as. -/
def ReadsBack (style : Style) (v : Json) : Prop :=
  ∀ depth room fuel rest, v.height ≤ room → 2 * (write style depth v).length ≤ fuel → Stops rest →
    value fuel room (write style depth v ++ rest) = .ok (v, rest)

theorem writeItems_singleton (style : Style) (depth : Nat) (x : Json) :
    writeItems style depth [x] = write style depth x := List.append_nil _

theorem writeItems_cons_cons (style : Style) (depth : Nat) (x y : Json) (ys : List Json) :
    writeItems style depth (x :: y :: ys) =
      write style depth x ++ ',' :: (style.newline depth ++ writeItems style depth (y :: ys)) := rfl

theorem writeMembers_singleton (style : Style) (depth : Nat) (kv : String × Json) :
    writeMembers style depth [kv] =
      writeText kv.1 ++ (style.colon ++ write style depth kv.2) := by
  simp [writeMembers]

theorem writeMembers_cons_cons (style : Style) (depth : Nat) (kv lw : String × Json) (ms : Object) :
    writeMembers style depth (kv :: lw :: ms) =
      writeText kv.1 ++ (style.colon ++ (write style depth kv.2 ++
        ',' :: (style.newline depth ++ writeMembers style depth (lw :: ms)))) := by
  simp [writeMembers]

section Parts

variable {style : Style} (regular : style.Regular) {depth room fuel : Nat} {gap rest : List Char}
  (blank : ∀ c ∈ gap, isGap c)
include regular blank

/-- One step for the list itself and two for each character of its items. -/
theorem items_writeItems {xs : List Json} (nonempty : xs ≠ []) (formed : ∀ x ∈ xs, x.WellFormed)
    (back : ∀ x ∈ xs, ReadsBack style x) (high : heightOfItems xs ≤ room)
    (enough : 2 * (writeItems style depth xs).length < fuel) :
    items fuel room (writeItems style depth xs ++ (gap ++ ']' :: rest)) = .ok (xs, rest) := by
  induction xs generalizing fuel with
  | nil => exact absurd rfl nonempty
  | cons x xs ih =>
      obtain ⟨fuel, rfl⟩ := Nat.exists_eq_succ_of_ne_zero (Nat.ne_zero_of_lt enough)
      obtain ⟨first, back⟩ := List.forall_mem_cons.mp back
      obtain ⟨high_first, high⟩ := Nat.max_le.mp high
      have formed := (List.forall_mem_cons.mp formed).2
      cases xs with
      | nil =>
          rw [writeItems_singleton] at enough ⊢
          refine items_last (first depth room fuel _ high_first (by omega) ?_) blank
          exact stops_append_cons blank (stops_cons (by decide))
      | cons y ys =>
          rw [writeItems_cons_cons] at enough ⊢
          simp only [List.length_append, List.length_cons] at enough
          have opens : Opens (writeItems style depth (y :: ys)) :=
            (opens_write (formed y List.mem_cons_self) style depth).append _
          have more : items fuel room (writeItems style depth (y :: ys) ++ (gap ++ ']' :: rest)) =
              .ok (y :: ys, rest) :=
            ih (List.cons_ne_nil y ys) formed back high (by omega)
          rw [List.append_assoc, List.cons_append, List.append_assoc]
          refine items_next (first depth room fuel _ high_first (by omega)
            (stops_cons (by decide))) ?_
          rwa [(opens.append _).skip_append (regular.newline depth)]

theorem members_writeMembers {ms : Object} (nonempty : ms ≠ []) (formed : ms.WellFormed)
    (back : ∀ kv ∈ ms, ReadsBack style kv.2) (high : heightOfMembers ms ≤ room) (done : Object)
    (enough : 2 * (writeMembers style depth ms).length < fuel) :
    members fuel room done (writeMembers style depth ms ++ (gap ++ '\x7d' :: rest)) =
      .ok (Members.overlay done ms, rest) := by
  obtain ⟨space, colon, blank_space⟩ := regular.colon
  induction ms generalizing fuel done with
  | nil => exact absurd rfl nonempty
  | cons kv ms ih =>
      obtain ⟨fuel, rfl⟩ := Nat.exists_eq_succ_of_ne_zero (Nat.ne_zero_of_lt enough)
      obtain ⟨first, back⟩ := List.forall_mem_cons.mp back
      obtain ⟨high_first, high⟩ := Nat.max_le.mp high
      obtain ⟨formed_first, formed⟩ := List.forall_mem_cons.mp formed
      have opens := opens_write formed_first style depth
      cases ms with
      | nil =>
          rw [writeMembers_singleton, colon] at enough ⊢
          simp only [List.length_append, List.length_cons] at enough
          simp only [List.append_assoc, List.cons_append]
          refine members_last ?_ blank
          rw [(opens.append _).skip_append blank_space]
          exact first depth room fuel _ high_first (by omega)
            (stops_append_cons blank (stops_cons (by decide)))
      | cons lw ns =>
          rw [writeMembers_cons_cons, colon] at enough ⊢
          simp only [List.length_append, List.length_cons] at enough
          have opens_rest : Opens (writeMembers style depth (lw :: ns)) :=
            ⟨'"', _, rfl, by decide, by decide⟩
          have more : members fuel room (Members.set done kv.1 kv.2)
              (writeMembers style depth (lw :: ns) ++ (gap ++ '\x7d' :: rest)) =
                .ok (Members.overlay (Members.set done kv.1 kv.2) (lw :: ns), rest) :=
            ih (List.cons_ne_nil lw ns) formed back high _ (by omega)
          simp only [List.append_assoc, List.cons_append]
          have first := first depth room fuel (',' :: (style.newline depth ++
            (writeMembers style depth (lw :: ns) ++ (gap ++ '\x7d' :: rest)))) high_first (by omega)
            (stops_cons (by decide))
          rw [← (opens.append _).skip_append blank_space] at first
          rw [members_next first, (opens_rest.append _).skip_append (regular.newline depth), more]
          rfl

end Parts

section Values

variable {style : Style} (regular : style.Regular)
include regular

theorem readsBack_arr {xs : List Json} (formed : ∀ x ∈ xs, x.WellFormed)
    (back : ∀ x ∈ xs, ReadsBack style x) : ReadsBack style (.arr xs) := by
  intro depth room fuel rest high enough _
  obtain ⟨room, rfl⟩ := Nat.exists_eq_succ_of_ne_zero (Nat.ne_zero_of_lt high)
  obtain ⟨fuel, rfl⟩ := exists_fuel (.arr formed) enough
  cases xs with
  | nil => rfl
  | cons x xs =>
      have text : write style depth (.arr (x :: xs)) = '[' :: (style.newline (depth + 1) ++
          (writeItems style (depth + 1) (x :: xs) ++ (style.newline depth ++ [']']))) := by
        simp [write]
      have opens : Opens (writeItems style (depth + 1) (x :: xs)) :=
        (opens_write (formed x List.mem_cons_self) style (depth + 1)).append _
      rw [text] at enough ⊢
      simp only [List.length_append, List.length_cons] at enough
      have read : items fuel room (writeItems style (depth + 1) (x :: xs) ++
          (style.newline depth ++ ']' :: rest)) = .ok (x :: xs, rest) :=
        items_writeItems regular (regular.newline depth) (List.cons_ne_nil x xs) formed back
          (Nat.le_of_succ_le_succ high) (by omega)
      simp only [List.cons_append, List.append_assoc, List.nil_append]
      exact value_list (regular.newline (depth + 1)) (opens.append _) read

theorem readsBack_obj {ms : Object} (distinct : (Members.keys ms).Nodup) (formed : ms.WellFormed)
    (back : ∀ kv ∈ ms, ReadsBack style kv.2) : ReadsBack style (.obj ms) := by
  intro depth room fuel rest high enough _
  obtain ⟨room, rfl⟩ := Nat.exists_eq_succ_of_ne_zero (Nat.ne_zero_of_lt high)
  obtain ⟨fuel, rfl⟩ := exists_fuel (.obj distinct formed) enough
  cases ms with
  | nil => rfl
  | cons kv ms =>
      have text : write style depth (.obj (kv :: ms)) = '\x7b' :: (style.newline (depth + 1) ++
          (writeMembers style (depth + 1) (kv :: ms) ++ (style.newline depth ++ ['\x7d']))) := by
        simp [write]
      rw [text] at enough ⊢
      simp only [List.length_append, List.length_cons] at enough
      have read : members fuel room [] (writeMembers style (depth + 1) (kv :: ms) ++
          (style.newline depth ++ '\x7d' :: rest)) = .ok (Members.overlay [] (kv :: ms), rest) :=
        members_writeMembers regular (regular.newline depth) (List.cons_ne_nil kv ms) formed back
          (Nat.le_of_succ_le_succ high) [] (by omega)
      rw [Members.overlay_of_nodup distinct] at read
      simp only [List.cons_append, List.append_assoc, List.nil_append]
      exact value_object (regular.newline (depth + 1)) read

omit regular in
theorem readsBack_scalar {v : Json} (h : v.WellFormed) (text : ∀ s, v ≠ .str s)
    (list : ∀ xs, v ≠ .arr xs) (object : ∀ ms, v ≠ .obj ms) : ReadsBack style v := by
  intro depth room fuel rest _ enough stops
  obtain ⟨fuel, rfl⟩ := exists_fuel h enough
  exact value_of_scalar (scalar_write h style depth stops text list object) fuel room

theorem readsBack {v : Json} (h : v.WellFormed) : ReadsBack style v := by
  induction h with
  | str s =>
      intro depth room fuel rest _ enough _
      obtain ⟨fuel, rfl⟩ := exists_fuel (.str s) enough
      exact value_writeText s
  | arr items ih => exact readsBack_arr regular items ih
  | obj distinct members ih => exact readsBack_obj regular distinct members ih
  | null => exact readsBack_scalar .null (by simp) (by simp) (by simp)
  | bool b => exact readsBack_scalar (.bool b) (by simp) (by simp) (by simp)
  | int short => exact readsBack_scalar (.int short) (by simp) (by simp) (by simp)
  | float x => exact readsBack_scalar (.float x) (by simp) (by simp) (by simp)

/-- What is written with only blanks between its parts reads back as the value. -/
theorem parse_render {v : Json} (h : v.WellFormed) (high : v.height ≤ maxOpen) :
    parse (render style v) = .ok v := by
  have read := readsBack regular h 0 maxOpen (2 * (write style 0 v).length + 2) [] high (by omega)
    stops_nil
  have blank : ∀ c ∈ ([] : List Char), isGap c := fun _ hc => absurd hc List.not_mem_nil
  have start : skip (write style 0 v) = write style 0 v := (opens_write h style 0).skip_append blank
  rw [List.append_nil] at read
  simp only [parse, render, String.toList_ofList, start, read]
  rfl

end Values

/-- The text for readers denotes the value with sorted keys. -/
theorem parse_pretty {v : Json} (h : v.WellFormed) (high : v.height ≤ maxOpen) :
    parse v.pretty = .ok v.sorted :=
  parse_render Style.regular_indented h.sorted (by rwa [height_sorted])

end Parser
end RouletteStrategy.Json
