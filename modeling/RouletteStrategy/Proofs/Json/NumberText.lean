import Mathlib.Tactic.SplitIfs
import RouletteStrategy.Json.Number
import RouletteStrategy.Json.Parser
import RouletteStrategy.Json.Printer
import RouletteStrategy.Proofs.Numeric.Shortest

/-!
# Numbers read back from their text

Every text of a number is made of whole digits, a fraction and an exponent (`magnitude_parts`), so
the layouts of floats differ only in where the point stands (`magnitude_render`).
-/

namespace RouletteStrategy.Json.Parser

/-- What can follow a number: no digit, point or letter of an exponent. -/
def Stops (cs : List Char) : Prop := ∀ c ∈ cs.head?, ¬c.isDigit ∧ c ≠ '.' ∧ c ≠ 'e' ∧ c ≠ 'E'

theorem stops_nil : Stops [] := by simp [Stops]

theorem stops_cons {c : Char} {cs : List Char} (h : ¬c.isDigit ∧ c ≠ '.' ∧ c ≠ 'e' ∧ c ≠ 'E') :
    Stops (c :: cs) := by
  simpa [Stops] using h

/-! ## Runs of digits -/

section Digits

variable {ds cs : List Char} (digits : ∀ c ∈ ds, c.isDigit) (ends : ∀ c ∈ cs.head?, ¬c.isDigit)
include digits ends

theorem takeWhile_isDigit : (ds ++ cs).takeWhile Char.isDigit = ds := by
  have none : cs.takeWhile Char.isDigit = [] := by
    cases cs with
    | nil => rfl
    | cons c cs => exact List.takeWhile_cons_of_neg (ends c rfl)
  rw [List.takeWhile_append_of_pos digits, none, List.append_nil]

theorem dropWhile_isDigit : (ds ++ cs).dropWhile Char.isDigit = cs := by
  have all : cs.dropWhile Char.isDigit = cs := by
    cases cs with
    | nil => rfl
    | cons c cs => exact List.dropWhile_cons_of_neg (ends c rfl)
  rw [List.dropWhile_append_of_pos digits, all]

end Digits

/-- Digits that a number may start with: zero alone, or a run with another digit in front. -/
inductive Whole : List Char → Prop where
  | zero : Whole ['0']
  | run (d : Char) (ds : List Char) (leading : d ≠ '0') (digits : ∀ c ∈ d :: ds, c.isDigit) :
    Whole (d :: ds)

theorem whole_digitChars (n : Nat) : Whole (Decimal.digitChars n) := by
  rcases Nat.eq_zero_or_pos n with rfl | positive
  · exact .zero
  · obtain ⟨d, ds, eq, leading⟩ := Decimal.digitChars_eq_cons positive
    rw [eq]
    exact .run d ds leading fun c h => Decimal.isDigit_of_mem_digitChars (eq ▸ h)

theorem wholeDigits_append {ds cs : List Char} (whole : Whole ds)
    (ends : ∀ c ∈ cs.head?, ¬c.isDigit) : wholeDigits (ds ++ cs) = ds := by
  cases whole with
  | zero => rfl
  | run d ds leading digits =>
      have run : wholeDigits (d :: ds ++ cs) = (d :: ds ++ cs).takeWhile Char.isDigit := by
        rw [List.cons_append, wholeDigits]
        exact fun _ h => absurd (List.cons.inj h).1 leading
      rw [run, takeWhile_isDigit digits ends]

/-! ## Parts of a number -/

/-- A fraction with its point, if there are digits in it. -/
def fractionText (frac : List Char) : List Char := if frac.isEmpty then [] else '.' :: frac

/-- An exponent with its letter and sign; the digits may start with zeros. -/
def exponentText (e : Int) (ds : List Char) : List Char :=
  'e' :: (if e < 0 then '-' else '+') :: ds

theorem fractionText_of_ne_nil {frac : List Char} (h : frac ≠ []) :
    fractionText frac = '.' :: frac := if_neg (by simpa using h)

theorem fraction_append {frac cs : List Char} (digits : ∀ c ∈ frac, c.isDigit)
    (ends : ∀ c ∈ cs.head?, ¬c.isDigit ∧ c ≠ '.') :
    fraction (fractionText frac ++ cs) = (frac, cs) := by
  unfold fractionText
  cases frac with
  | nil =>
      cases cs with
      | nil => rfl
      | cons c cs =>
          have point := (ends c rfl).2
          simp [fraction, point]
  | cons d frac =>
      have ends : ∀ c ∈ cs.head?, ¬c.isDigit := fun c h => (ends c h).1
      simp only [List.isEmpty_cons, Bool.false_eq_true, if_false, List.cons_append (a := '.'),
        fraction, takeWhile_isDigit digits ends, dropWhile_isDigit digits ends]

theorem exponent_of_stops {cs : List Char} (stops : Stops cs) : exponent cs = (none, cs) := by
  cases cs with
  | nil => rfl
  | cons c cs =>
      obtain ⟨-, -, small, capital⟩ := stops c rfl
      simp [exponent, small, capital]

theorem exponent_append {e : Int} {ds cs : List Char} (digits : ∀ c ∈ ds, c.isDigit)
    (nonempty : ds ≠ []) (value : Text.natOfDigits ds = e.natAbs) (stops : Stops cs) :
    exponent (exponentText e ds ++ cs) = (some e, cs) := by
  have ends : ∀ c ∈ cs.head?, ¬c.isDigit := fun c h => (stops c h).1
  have some : ds.isEmpty = false := by simpa using nonempty
  unfold exponentText
  split_ifs with sign
  · have magnitude : (e.natAbs : Int) = -e := by omega
    simp [exponent, Literal.sign, takeWhile_isDigit digits ends, dropWhile_isDigit digits ends,
      some, value, magnitude]
  · have magnitude : (e.natAbs : Int) = e := by omega
    simp [exponent, Literal.sign, takeWhile_isDigit digits ends, dropWhile_isDigit digits ends,
      some, value, magnitude]

theorem head_exponentText (e : Int) (ds cs : List Char) :
    ∀ c ∈ (exponentText e ds ++ cs).head?, ¬c.isDigit ∧ c ≠ '.' := by
  simp [exponentText]

theorem head_fractionText {frac cs : List Char} (ends : ∀ c ∈ cs.head?, ¬c.isDigit) :
    ∀ c ∈ (fractionText frac ++ cs).head?, ¬c.isDigit := by
  unfold fractionText
  split_ifs
  · exact ends
  · simp

/-! ## Numbers -/

variable (negative : Bool)

theorem magnitude_digitChars (n : Nat) {cs : List Char}
    (short : (Decimal.digitChars n).length ≤ Literal.maxDigits) (stops : Stops cs) :
    magnitude negative (Decimal.digitChars n ++ cs) =
      some (.int (if negative then -n else n), cs) := by
  have whole : wholeDigits (Decimal.digitChars n ++ cs) = Decimal.digitChars n :=
    wholeDigits_append (whole_digitChars n) fun c h => (stops c h).1
  have fraction : fraction cs = ([], cs) := by
    have digits : ∀ c ∈ ([] : List Char), c.isDigit := by simp
    simpa [fractionText] using fraction_append digits fun c h =>
      ⟨(stops c h).1, (stops c h).2.1⟩
  have nonempty : (Decimal.digitChars n).isEmpty = false := by
    simpa using List.ne_nil_of_length_pos (Decimal.length_digitChars_pos n)
  simp [magnitude, whole, fraction, exponent_of_stops stops, nonempty, short.not_gt]

/-- A number with a fraction or an exponent is a float, by the decimal that its parts make up. -/
theorem magnitude_parts {whole frac tail cs : List Char} {e : Option Int} (hwhole : Whole whole)
    (digits : ∀ c ∈ frac, c.isDigit) (ends : ∀ c ∈ tail.head?, ¬c.isDigit ∧ c ≠ '.')
    (hexponent : exponent tail = (e, cs)) (some_part : (frac.isEmpty && e.isNone) = false) :
    magnitude negative (whole ++ (fractionText frac ++ tail)) =
      some (.float ((⟨Text.natOfDigits (whole ++ frac), e.getD 0 - frac.length⟩ :
        Decimal).toBinary64 negative), cs) := by
  have run : wholeDigits (whole ++ (fractionText frac ++ tail)) = whole :=
    wholeDigits_append hwhole (head_fractionText fun c h => (ends c h).1)
  have nonempty : whole.isEmpty = false := by cases hwhole <;> rfl
  rw [magnitude, run, List.drop_left]
  simp only [nonempty, fraction_append digits ends, hexponent, some_part, Bool.false_eq_true,
    if_false]

/-- A number written with a point, by the digits before and after it. -/
theorem magnitude_point (whole frac : List Char) {cs : List Char} (hwhole : Whole whole)
    (digits : ∀ c ∈ frac, c.isDigit) (nonempty : frac ≠ []) (stops : Stops cs) :
    magnitude negative (whole ++ '.' :: frac ++ cs) =
      some (.float ((⟨Text.natOfDigits (whole ++ frac), -frac.length⟩ :
        Decimal).toBinary64 negative), cs) := by
  have ends : ∀ c ∈ cs.head?, ¬c.isDigit ∧ c ≠ '.' := fun c h => ⟨(stops c h).1, (stops c h).2.1⟩
  have parts := magnitude_parts negative hwhole digits ends (exponent_of_stops stops)
    (by simpa using nonempty)
  rwa [fractionText_of_ne_nil nonempty, ← List.append_assoc, Option.getD_none,
    Int.zero_sub] at parts

theorem isDigit_of_mem_zeros {k : Nat} {c : Char} (h : c ∈ List.replicate k '0') : c.isDigit := by
  rw [List.eq_of_mem_replicate h]
  rfl

theorem Whole.append {ds es : List Char} (whole : Whole ds) (ne : ds ≠ ['0'])
    (digits : ∀ c ∈ es, c.isDigit) : Whole (ds ++ es) := by
  cases whole with
  | zero => exact absurd rfl ne
  | run d ds leading all =>
      exact .run d (ds ++ es) leading fun c h =>
        (List.mem_append.mp h).elim (all c) (digits c)

theorem Whole.take {ds : List Char} (whole : Whole ds) {k : Nat} (hk : 0 < k) :
    Whole (ds.take k) := by
  obtain ⟨k, rfl⟩ := Nat.exists_eq_add_of_lt hk
  cases whole with
  | zero => simpa using Whole.zero
  | run d ds leading digits =>
      rw [Nat.zero_add, List.take_succ_cons]
      exact .run d _ leading fun c h => digits c (List.mem_of_mem_take (i := k + 1) h)

/-- Digits with a point before, behind or among them read back as the decimal. -/
theorem magnitude_positional {n : Nat} (hn : 0 < n) (e : Int) {cs : List Char} (stops : Stops cs) :
    magnitude negative (Decimal.positional (Decimal.digitChars n)
        (e + (Decimal.digitChars n).length) ++ cs) =
      some (.float ((⟨n, e⟩ : Decimal).toBinary64 negative), cs) := by
  have digits : ∀ c ∈ Decimal.digitChars n, c.isDigit := fun c => Decimal.isDigit_of_mem_digitChars
  have whole := whole_digitChars n
  have value := Text.natOfDigits_digitChars n
  have positive := Decimal.length_digitChars_pos n
  have ne_zero : Decimal.digitChars n ≠ ['0'] := by
    obtain ⟨d, r, eq, leading⟩ := Decimal.digitChars_eq_cons hn
    simp [eq, leading]
  generalize Decimal.digitChars n = ds at digits whole value positive ne_zero ⊢
  subst value
  have nonempty : ds ≠ [] := List.ne_nil_of_length_pos positive
  unfold Decimal.positional
  split_ifs with before behind
  · -- zeros between the point and the digits
    generalize hk : (-(e + ds.length)).toNat = k
    have read := magnitude_point negative ['0'] (List.replicate k '0' ++ ds) .zero
      (fun c h => (List.mem_append.mp h).elim isDigit_of_mem_zeros (digits c))
      (by simp [nonempty]) stops
    have leading : Text.natOfDigits (['0'] ++ (List.replicate k '0' ++ ds)) =
        Text.natOfDigits ds := by
      rw [← List.append_assoc, List.singleton_append, ← List.replicate_succ,
        Text.natOfDigits_append, Text.natOfDigits_zeros]
      simp
    have exponent : (-(List.replicate k '0' ++ ds).length : Int) = e := by
      rw [List.length_append, List.length_replicate]
      omega
    rwa [leading, exponent] at read
  · -- zeros between the digits and the point
    generalize hk : (e + ds.length - ds.length : Int).toNat = k
    have read := magnitude_point negative (ds ++ List.replicate k '0') ['0']
      (whole.append ne_zero fun c => isDigit_of_mem_zeros) (by simp) (by simp) stops
    have trailing : Text.natOfDigits (ds ++ List.replicate k '0' ++ ['0']) =
        Text.natOfDigits ds * 10 ^ (k + 1) := by
      rw [List.append_assoc, ← List.replicate_succ', Text.natOfDigits_append,
        Text.natOfDigits_zeros]
      simp
    have exponent : (-['0'].length + (k + 1 : Nat) : Int) = e := by
      rw [List.length_singleton]
      omega
    rwa [trailing, Decimal.toBinary64_mul_pow_ten, exponent] at read
  · -- the point among the digits
    generalize hk : (e + ds.length).toNat = k
    have read := magnitude_point negative (ds.take k) (ds.drop k) (whole.take (by omega))
      (fun c h => digits c (List.mem_of_mem_drop h)) (by simp; omega) stops
    have exponent : (-(ds.drop k).length : Int) = e := by
      rw [List.length_drop]
      omega
    rwa [List.take_append_drop, exponent] at read

theorem scientific_eq (width : Nat) (d : Char) (r : List Char) (p : Int) :
    Decimal.scientific width (d :: r) p = [d] ++ (fractionText r ++ exponentText p
      (List.replicate (width - (Decimal.digitChars p.natAbs).length) '0' ++
        Decimal.digitChars p.natAbs)) := by
  cases r <;> simp [Decimal.scientific, fractionText, exponentText]

/-- Digits with an exponent read back as the decimal. -/
theorem magnitude_scientific (width : Nat) {n : Nat} (hn : 0 < n) (e : Int) {cs : List Char}
    (stops : Stops cs) :
    magnitude negative (Decimal.scientific width (Decimal.digitChars n)
        (e + (Decimal.digitChars n).length - 1) ++ cs) =
      some (.float ((⟨n, e⟩ : Decimal).toBinary64 negative), cs) := by
  obtain ⟨d, r, eq, leading⟩ := Decimal.digitChars_eq_cons hn
  have digits : ∀ c ∈ d :: r, c.isDigit := fun c h => Decimal.isDigit_of_mem_digitChars (eq ▸ h)
  have value : Text.natOfDigits ([d] ++ r) = n := by
    rw [List.singleton_append, ← eq, Text.natOfDigits_digitChars]
  rw [eq, scientific_eq]
  generalize hp : (e + (d :: r).length - 1 : Int) = p
  generalize width - (Decimal.digitChars p.natAbs).length = k
  have read :
      exponent (exponentText p (List.replicate k '0' ++ Decimal.digitChars p.natAbs) ++ cs) =
      (some p, cs) := by
    refine exponent_append ?_ ?_ ?_ stops
    · exact fun c h => (List.mem_append.mp h).elim isDigit_of_mem_zeros
        Decimal.isDigit_of_mem_digitChars
    · simp [Decimal.digitChars]
    · simp [Text.natOfDigits_append]
  have exponent : ((some p).getD 0 - r.length : Int) = e := by
    rw [Option.getD_some, ← hp, List.length_cons]
    omega
  rw [List.append_assoc, List.append_assoc, magnitude_parts negative
    (.run d [] leading fun c h => digits c (List.mem_singleton.mp h ▸ List.mem_cons_self))
    (fun c h => digits c (List.mem_cons_of_mem d h)) (head_exponentText _ _ _) read (by simp),
    value, exponent]

/-- The text of a decimal reads back as the float nearest to it. -/
theorem magnitude_render (layout : Decimal.Layout) (d : Decimal) {cs : List Char}
    (stops : Stops cs) :
    magnitude negative (d.render layout ++ cs) = some (.float (d.toBinary64 negative), cs) := by
  unfold Decimal.render
  simp only
  split_ifs with zero positional
  · have read := magnitude_point negative ['0'] ['0'] .zero (by simp) (by simp) stops
    have value :
        (⟨Text.natOfDigits (['0'] ++ ['0']), -['0'].length⟩ : Decimal).toBinary64 negative =
        d.toBinary64 negative := by
      simp [Decimal.toBinary64, zero, show Text.natOfDigits ['0', '0'] = 0 from rfl]
    rwa [value] at read
  · exact magnitude_positional negative (Nat.pos_of_ne_zero zero) d.exponent stops
  · exact magnitude_scientific negative layout.exponentWidth (Nat.pos_of_ne_zero zero)
      d.exponent stops

/-! ## Words and signs -/

theorem exists_digit_of_magnitude {negative : Bool} {cs : List Char} {r : Json × List Char}
    (h : magnitude negative cs = some r) : ∃ d ds, cs = d :: ds ∧ d.isDigit := by
  cases cs with
  | nil => simp [magnitude, wholeDigits] at h
  | cons d ds =>
      refine ⟨d, ds, rfl, ?_⟩
      by_contra not_digit
      have zero : d ≠ '0' := by
        rintro rfl
        exact not_digit rfl
      have none : wholeDigits (d :: ds) = [] := by
        rw [wholeDigits]
        · exact List.takeWhile_cons_of_neg not_digit
        · exact fun _ eq => zero (List.cons.inj eq).1
      simp [magnitude, none] at h

/-- No word starts with a digit. -/
theorem words_digit {d : Char} (hd : d.isDigit) (ds : List Char) :
    (words.findSome? fun w => (word? w.1 (d :: ds)).map (w.2, ·)) = none := by
  have ne : ∀ c : Char, ¬c.isDigit → c ≠ d := fun c hc eq => hc (eq ▸ hd)
  simp [words, word?, ne 'n' (by decide), ne 't' (by decide), ne 'f' (by decide),
    ne 'N' (by decide), ne 'I' (by decide), ne '-' (by decide)]

/-- The only word with a sign goes on with a letter. -/
theorem words_sign_digit {d : Char} (hd : d.isDigit) (ds : List Char) :
    (words.findSome? fun w => (word? w.1 ('-' :: d :: ds)).map (w.2, ·)) = none := by
  have ne : 'I' ≠ d := by
    rintro rfl
    exact absurd hd (by decide)
  simp [words, word?, ne]

theorem scalar_sign {negative : Bool} {cs : List Char} {r : Json × List Char}
    (h : magnitude negative cs = some r) :
    scalar ((if negative then ['-'] else []) ++ cs) = some r := by
  obtain ⟨d, ds, rfl, digit⟩ := exists_digit_of_magnitude h
  cases negative with
  | true =>
      rw [if_pos rfl, List.singleton_append, scalar, words_sign_digit digit]
      exact h
  | false =>
      have unsigned : number (d :: ds) = magnitude false (d :: ds) := by
        rw [number]
        rintro _ eq
        exact absurd ((List.cons.inj eq).1 ▸ digit) (by decide)
      rw [if_neg Bool.false_ne_true, List.nil_append, scalar, words_digit digit]
      exact unsigned.trans h

/-- An integer reads back from its text. -/
theorem scalar_integerText {i : Int}
    (short : (Decimal.digitChars i.natAbs).length ≤ Literal.maxDigits) {cs : List Char}
    (stops : Stops cs) : scalar (integerText i ++ cs) = some (.int i, cs) := by
  have read := scalar_sign (magnitude_digitChars (decide (i < 0)) i.natAbs short stops)
  have value : (if decide (i < 0) then -(i.natAbs : Int) else i.natAbs) = i := by
    simp only [decide_eq_true_eq]
    split_ifs <;> omega
  rw [value] at read
  simpa [integerText] using read

/-- A float reads back from its text, whether it is finite or not. -/
theorem scalar_floatText (x : Binary64) {cs : List Char} (stops : Stops cs) :
    scalar (floatText numberWords x ++ cs) = some (.float x, cs) := by
  cases x with
  | finite s m q canonical =>
      have read := scalar_sign (magnitude_render s numberLayout
        (Binary64.finite s m q canonical).shortest stops)
      rwa [Binary64.toBinary64_shortest s canonical, ← List.append_assoc] at read
  | infinite s => cases s <;> simp [floatText, numberWords, scalar, words, word?]
  | nan => simp [floatText, numberWords, scalar, words, word?]

/-- What is read as a word or a number is no text, list or object. -/
theorem value_of_scalar {cs : List Char} {r : Json × List Char} (h : scalar cs = some r)
    (fuel room : Nat) : value (fuel + 1) room cs = .ok r := by
  have other : ∀ c ∈ ['"', '[', '\x7b'], ∀ ds, cs ≠ c :: ds := by
    rintro c hc ds rfl
    rcases (by simpa using hc : c = '"' ∨ c = '[' ∨ c = '\x7b') with rfl | rfl | rfl <;>
      simp [scalar, words, word?, number, magnitude, wholeDigits] at h
  rw [value, h, Step.ofOption]
  · exact other '"' (by simp)
  · exact other '[' (by simp)
  · exact other '\x7b' (by simp)

end RouletteStrategy.Json.Parser
