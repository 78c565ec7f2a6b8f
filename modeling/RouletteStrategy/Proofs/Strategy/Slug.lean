import RouletteStrategy.Proofs.Text.Folding
import RouletteStrategy.Strategy.Compile

/-!
# Slugs

The slug of a text is made of the runs of letters and digits of ASCII in its lower case, joined by
single hyphens. A text of this form is its own slug (`Text.slug_eq_self_iff`), and hyphens and
blanks at the ends of a text have no influence. Strategies are kept under the slug of their name,
and their files are named after it (`Strategy.slug_normalForm`).
-/

namespace RouletteStrategy

namespace Text

variable {p : Char → Bool} {cs ds r : List Char} {runs : List (List Char)} {c : Char}

/-! ## Runs of slug characters -/

theorem not_of_mem_splitWhen (mem : r ∈ splitWhen p cs) : ∀ c ∈ r, ¬p c := by
  induction cs generalizing r with
  | nil =>
      obtain rfl := List.mem_singleton.mp mem
      exact fun _ mem => absurd mem List.not_mem_nil
  | cons c cs ih =>
      rw [splitWhen] at mem
      split_ifs at mem with separator
      · rcases List.mem_cons.mp mem with rfl | mem
        · exact fun _ mem => absurd mem List.not_mem_nil
        · exact ih mem
      · split at mem
        next =>
          obtain rfl := List.mem_singleton.mp mem
          exact fun _ mem => List.mem_singleton.mp mem ▸ separator
        next w ws pieces =>
          rw [pieces] at ih
          rcases List.mem_cons.mp mem with rfl | mem
          · exact List.forall_mem_cons.mpr ⟨separator, ih List.mem_cons_self⟩
          · exact ih (List.mem_cons_of_mem _ mem)

theorem flatten_splitWhen (p : Char → Bool) (cs : List Char) :
    (splitWhen p cs).flatten = cs.filter (!p ·) := by
  induction cs with
  | nil => rfl
  | cons c cs ih =>
      rw [splitWhen]
      split_ifs with separator
      · rw [List.flatten_cons, ih, List.nil_append,
          List.filter_cons_of_neg (by simpa using separator)]
      · rw [List.filter_cons_of_pos (by simpa using separator), ← ih]
        cases splitWhen p cs <;> rfl

/-- A run of slug characters that is not empty. -/
def IsRun (r : List Char) : Prop := r ≠ [] ∧ ∀ c ∈ r, isSlugChar c

/-- The runs of slug characters among some characters. -/
def runsOf (cs : List Char) : List (List Char) :=
  (splitWhen (!isSlugChar ·) cs).filter (!·.isEmpty)

theorem slugRuns_eq (s : String) : slugRuns s = runsOf (lowerAfter [] s.toList) := by
  rw [slugRuns, lower, String.toList_ofList, runsOf]

theorem isRun_of_mem_runsOf (mem : r ∈ runsOf cs) : IsRun r := by
  obtain ⟨piece, nonempty⟩ := List.mem_filter.mp mem
  refine ⟨by simpa using nonempty, fun c hc => ?_⟩
  simpa using not_of_mem_splitWhen piece c hc

theorem flatten_runsOf (cs : List Char) : (runsOf cs).flatten = cs.filter isSlugChar := by
  rw [runsOf, List.flatten_filter_not_isEmpty, flatten_splitWhen]
  simp only [Bool.not_not]

/-- A character that is no slug character separates runs. -/
theorem runsOf_append_cons (separator : ¬isSlugChar c) (cs ds : List Char) :
    runsOf (cs ++ c :: ds) = runsOf cs ++ runsOf ds := by
  simp only [runsOf, splitWhen_eq_splitOnP]
  rw [List.splitOnP_append_cons cs ds (by simpa using separator), List.filter_append]

theorem runsOf_append_left (separators : ∀ c ∈ ds, ¬isSlugChar c) (cs : List Char) :
    runsOf (ds ++ cs) = runsOf cs := by
  induction ds with
  | nil => rfl
  | cons d ds ih =>
      obtain ⟨first, rest⟩ := List.forall_mem_cons.mp separators
      rw [List.cons_append, ← ih rest]
      exact runsOf_append_cons first [] _

theorem runsOf_append_right (separators : ∀ c ∈ ds, ¬isSlugChar c) (cs : List Char) :
    runsOf (cs ++ ds) = runsOf cs := by
  cases ds with
  | nil => rw [List.append_nil]
  | cons d ds =>
      obtain ⟨first, rest⟩ := List.forall_mem_cons.mp separators
      have none : runsOf ds = [] := by
        rw [← List.append_nil ds]
        exact runsOf_append_left rest []
      rw [runsOf_append_cons first, none, List.append_nil]

theorem runsOf_of_isRun (run : IsRun r) : runsOf r = [r] := by
  rw [runsOf, splitWhen_eq_splitOnP, List.splitOnP_eq_singleton fun c hc => by simp [run.2 c hc]]
  simp [run.1]

theorem runsOf_intercalate (h : ∀ r ∈ runs, IsRun r) : runsOf (['-'].intercalate runs) = runs := by
  induction runs with
  | nil => rfl
  | cons r runs ih =>
      obtain ⟨first, rest⟩ := List.forall_mem_cons.mp h
      cases runs with
      | nil => rw [List.intercalate_singleton, runsOf_of_isRun first]
      | cons r' runs =>
          rw [List.intercalate_cons_cons, List.append_assoc, List.singleton_append,
            runsOf_append_cons (by decide), runsOf_of_isRun first, ih rest, List.singleton_append]

theorem mem_intercalate (h : ∀ r ∈ runs, IsRun r) (mem : c ∈ ['-'].intercalate runs) :
    c = '-' ∨ isSlugChar c := by
  induction runs with
  | nil => exact absurd mem List.not_mem_nil
  | cons r runs ih =>
      obtain ⟨first, rest⟩ := List.forall_mem_cons.mp h
      cases runs with
      | nil =>
          rw [List.intercalate_singleton] at mem
          exact .inr (first.2 c mem)
      | cons r' runs =>
          rw [List.intercalate_cons_cons, List.mem_append, List.mem_append,
            List.mem_singleton] at mem
          rcases mem with (mem | mem) | mem
          · exact .inr (first.2 c mem)
          · exact .inl mem
          · exact ih rest mem

/-! ## Slugs -/

/-- Runs of lower-case letters and digits of ASCII, joined by single hyphens; the empty text has no
run. -/
def IsSlug (s : String) : Prop :=
  ∃ runs, (∀ r ∈ runs, IsRun r) ∧ s.toList = ['-'].intercalate runs

variable {s t : String}

theorem toList_slug (s : String) : (slug s).toList = ['-'].intercalate (slugRuns s) := by
  rw [slug, String.toList_ofList]

theorem isRun_of_mem_slugRuns (mem : r ∈ slugRuns s) : IsRun r := by
  rw [slugRuns_eq] at mem
  exact isRun_of_mem_runsOf mem

theorem isSlug_slug (s : String) : IsSlug (slug s) :=
  ⟨slugRuns s, fun _ => isRun_of_mem_slugRuns, toList_slug s⟩

/-- The slug has the letters and digits of ASCII in the lower case, in order. -/
theorem filter_slug (s : String) :
    (slug s).toList.filter isSlugChar = (lower s).toList.filter isSlugChar := by
  rw [toList_slug, ← flatten_runsOf, ← flatten_runsOf,
    runsOf_intercalate fun _ => isRun_of_mem_slugRuns]
  rfl

theorem isSlugChar_iff :
    isSlugChar c ↔ (97 ≤ c.toNat ∧ c.toNat ≤ 122) ∨ (48 ≤ c.toNat ∧ c.toNat ≤ 57) := by
  simp only [isSlugChar, Bool.or_eq_true, Bool.and_eq_true, decide_eq_true_eq]
  exact Iff.rfl

theorem IsSlug.mem (h : IsSlug s) (mem : c ∈ s.toList) : c = '-' ∨ isSlugChar c := by
  obtain ⟨runs, isRun, eq⟩ := h
  rw [eq] at mem
  exact mem_intercalate isRun mem

theorem IsSlug.lower_eq (h : IsSlug s) : lower s = s := by
  rw [lower, lowerAfter_of_settled, String.ofList_toList]
  intro c mem
  rcases h.mem mem with rfl | slugChar
  · exact settled_of_ascii (by decide) (by decide)
  · have := isSlugChar_iff.mp slugChar
    exact settled_of_ascii (by omega) (by omega)

/-- Slugs are their own slugs. -/
theorem slug_eq_self_iff : slug s = s ↔ IsSlug s := by
  refine ⟨fun eq => eq ▸ isSlug_slug s, fun h => ?_⟩
  have lower := h.lower_eq
  obtain ⟨runs, isRun, eq⟩ := h
  have same : slugRuns s = runs := by
    change runsOf (Text.lower s).toList = runs
    rw [lower, eq, runsOf_intercalate isRun]
  rw [slug, same, ← eq, String.ofList_toList]

theorem slug_slug (s : String) : slug (slug s) = slug s := slug_eq_self_iff.mpr (isSlug_slug s)

/-! ## Separators at the ends -/

theorem not_isSlugChar_of_isBlank (blank : isBlank c) : ¬isSlugChar c := by
  intro slugChar
  have := isSlugChar_iff.mp slugChar
  obtain ⟨range, mem, inside⟩ := List.any_eq_true.mp blank
  simp only [Bool.and_eq_true, decide_eq_true_eq] at inside
  have outside : ∀ range ∈ blankRanges, range.2 < 48 ∨ 122 < range.1 := by decide
  have := outside range mem
  omega

/-- Hyphens and blanks have no other lower case. -/
theorem settled_of_separator (separator : c = '-' ∨ isBlank c) : Settled c := by
  rcases separator with rfl | blank
  · exact settled_of_ascii (by decide) (by decide)
  · obtain ⟨range, mem, inside⟩ := List.any_eq_true.mp blank
    simp only [Bool.and_eq_true, decide_eq_true_eq] at inside
    refine ⟨?_, fun r hr has => ?_⟩
    · rintro rfl
      exact absurd blank (by decide)
    · have apart : ∀ range ∈ blankRanges, ∀ r ∈ lowerRuns, range.2 < r.1 ∨ r.2.1 < range.1 := by
        decide +kernel
      have := apart range mem r hr
      obtain ⟨low, high, -⟩ := has
      omega

theorem not_isSlugChar_of_separators (h : ∀ c ∈ cs, c = '-' ∨ isBlank c) :
    ∀ d ∈ cs.flatMap lowerChar, ¬isSlugChar d := by
  intro d mem
  obtain ⟨c, listed, mem⟩ := List.mem_flatMap.mp mem
  have separator := h c listed
  obtain rfl := List.mem_singleton.mp ((settled_of_separator separator).lowerChar_eq ▸ mem)
  rcases separator with rfl | blank
  · decide
  · exact not_isSlugChar_of_isBlank blank

/-- The neighbours of a character decide between two forms of sigma only, and both separate runs. -/
theorem runsOf_lowerAfter (before cs : List Char) :
    runsOf (lowerAfter before cs) = runsOf (cs.flatMap lowerChar) := by
  suffices whole : ∀ done, runsOf (done ++ lowerAfter before cs) =
      runsOf (done ++ cs.flatMap lowerChar) from whole []
  induction cs generalizing before with
  | nil => exact fun _ => rfl
  | cons c cs ih =>
      intro done
      rw [lowerAfter, List.flatMap_cons]
      by_cases sigma : c = 'Σ'
      · have small : lowerChar 'Σ' = ['σ'] := by decide +kernel
        have form (b : Bool) : ¬isSlugChar (if b then 'ς' else 'σ') := by cases b <;> decide
        rw [if_pos sigma, sigma, small, List.singleton_append, List.singleton_append,
          runsOf_append_cons (form _), runsOf_append_cons (by decide)]
        exact congrArg _ (ih _ [])
      · rw [if_neg sigma, ← List.append_assoc, ← List.append_assoc]
        exact ih _ _

theorem slugRuns_append (h : ∀ c ∈ s.toList ++ t.toList, c = '-' ∨ isBlank c) (u : String) :
    slugRuns (s ++ u ++ t) = slugRuns u := by
  obtain ⟨front, back⟩ := List.forall_mem_append.mp h
  rw [slugRuns_eq, slugRuns_eq, runsOf_lowerAfter, runsOf_lowerAfter, String.toList_append,
    String.toList_append, List.flatMap_append, List.flatMap_append,
    runsOf_append_right (not_isSlugChar_of_separators back),
    runsOf_append_left (not_isSlugChar_of_separators front)]

theorem slug_append (h : ∀ c ∈ s.toList ++ t.toList, c = '-' ∨ isBlank c) (u : String) :
    slug (s ++ u ++ t) = slug u := by
  rw [slug, slugRuns_append h, slug]

end Text

namespace Strategy

/-- A slug that is not empty: that of the name, or another one for names without slug characters. -/
structure NamedBy (name slug : String) : Prop where
  isSlug : Text.IsSlug slug
  nonempty : slug ≠ ""
  origin : slug = Text.slug name ∨ Text.slug name = "" ∧ slug = fallbackSlug

theorem namedBy_slugOfName (name : String) : NamedBy name (slugOfName name) := by
  rw [slugOfName]
  by_cases none : Text.slug name = ""
  · have fallback : Text.IsSlug fallbackSlug :=
      ⟨[fallbackSlug.toList], by simp [Text.IsRun, fallbackSlug, Text.isSlugChar], by
        rw [List.intercalate_singleton]⟩
    rw [if_pos none]
    exact ⟨fallback, by decide, .inr ⟨none, rfl⟩⟩
  · rw [if_neg none]
    exact ⟨Text.isSlug_slug name, none, .inl rfl⟩

/-- Every text has a slug, which is its own slug and keeps the letters and digits of ASCII. Each
strategy has one that is not empty and starts the name of its file. -/
theorem slug_normalForm :
    (∀ s, Text.IsSlug (Text.slug s) ∧ Text.slug (Text.slug s) = Text.slug s ∧
      (Text.slug s).toList.filter Text.isSlugChar =
        (Text.lower s).toList.filter Text.isSlugChar) ∧
    (∀ s t u : String, (∀ c ∈ s.toList ++ t.toList, c = '-' ∨ Text.isBlank c) →
      Text.slug (s ++ u ++ t) = Text.slug u) ∧
    ∀ payload strategy, compile payload = .ok strategy →
      NamedBy strategy.name strategy.slug ∧
        fileName strategy.name = strategy.slug ++ ".strategy.json" :=
  ⟨fun s => ⟨Text.isSlug_slug s, Text.slug_slug s, Text.filter_slug s⟩,
    fun _ _ u separators => Text.slug_append separators u,
    fun _ strategy _ => ⟨namedBy_slugOfName strategy.name, rfl⟩⟩

/-- A Kelvin sign, a dotted capital and a final sigma between blanks and hyphens, and the strategy
of a name without letters and digits. -/
theorem slug_normalForm_kelvin :
    Text.slug (" -" ++ "\u212aelvin İΣ - 2Σ" ++ "-\u00a0") = Text.slug "\u212aelvin İΣ - 2Σ" ∧
    Text.slug "\u212aelvin İΣ - 2Σ" = "kelvin-i-2" ∧
    ∃ t, compile (.obj [("name", .str "♠ ♥"), ("nodes", .arr [])]) = .ok t ∧
      fileName t.name = t.slug ++ ".strategy.json" ∧ t.slug = "estrategia" := by
  obtain ⟨-, ends, named⟩ := slug_normalForm
  have separators : (" -".toList ++ "-\u00a0".toList).all fun c => c = '-' ∨ Text.isBlank c := by
    decide
  refine ⟨ends " -" "-\u00a0" _ (by simpa using separators), ?_, ?_⟩
  · decide +kernel
  · obtain ⟨t, compiled⟩ : ∃ t, compile (.obj [("name", .str "♠ ♥"), ("nodes", .arr [])]) = .ok t :=
      ⟨_, rfl⟩
    refine ⟨t, compiled, (named _ _ compiled).2, ?_⟩
    cases compiled
    decide +kernel

end Strategy
end RouletteStrategy
