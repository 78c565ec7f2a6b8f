import Mathlib.Data.List.Forall2

/-!
# Computations that give a result or fail, and their parts

A computation that gives a result has it from results of its parts (`bind_eq_ok`, `map_eq_ok`).
Where the parts fail in one way only, so does the whole, and it fails where one of them does
(`FailsIff.bind`, `FailsIff.mapM`). Two computations run in parallel if their parts do
(`Parallel.bind`, `Parallel.mapM`).
-/

namespace RouletteStrategy

variable {ε α β : Type}

theorem exists_of_isOk {x : Except ε α} (h : x.isOk) : ∃ a, x = .ok a := by
  cases x with
  | error e => cases h
  | ok a => exact ⟨a, rfl⟩

theorem bind_eq_ok {x : Except ε α} {f : α → Except ε β} {b : β} :
    (x >>= f) = .ok b ↔ ∃ a, x = .ok a ∧ f a = .ok b := by
  cases x with
  | error e =>
      constructor
      · intro h
        cases h
      · rintro ⟨_, h, -⟩
        cases h
  | ok a =>
      constructor
      · exact fun h => ⟨a, rfl, h⟩
      · rintro ⟨_, eq, h⟩
        cases eq
        exact h

theorem isOk_map (f : α → β) (x : Except ε α) : (x.map f).isOk = x.isOk := by
  cases x <;> rfl

theorem map_eq_ok {x : Except ε α} {f : α → β} {b : β} :
    x.map f = .ok b ↔ ∃ a, x = .ok a ∧ f a = b := by
  cases x <;> simp [Except.map]

theorem map_eq_error {x : Except ε α} {f : α → β} {e : ε} :
    x.map f = .error e ↔ x = .error e := by
  cases x <;> simp [Except.map]

theorem mapM_eq_ok_map {f : α → Except ε β} {g : α → β} {xs : List α}
    (h : ∀ x ∈ xs, f x = .ok (g x)) : xs.mapM f = .ok (xs.map g) := by
  induction xs with
  | nil => rfl
  | cons x xs ih =>
      obtain ⟨first, rest⟩ := List.forall_mem_cons.mp h
      rw [List.mapM_cons, first, ih rest]
      rfl

theorem mapM_eq_ok_filterMap {f : α → Except ε β} {p : α → Option β} {xs : List α}
    (h : ∀ x ∈ xs, ∃ y, p x = some y ∧ f x = .ok y) : xs.mapM f = .ok (xs.filterMap p) := by
  induction xs with
  | nil => rfl
  | cons x xs ih =>
      obtain ⟨⟨y, found, first⟩, rest⟩ := List.forall_mem_cons.mp h
      rw [List.mapM_cons, first, ih rest, List.filterMap_cons_some found]
      rfl

theorem mapM_congr {f g : α → Except ε β} {xs : List α} (h : ∀ x ∈ xs, f x = g x) :
    xs.mapM f = xs.mapM g := by
  induction xs with
  | nil => rfl
  | cons x xs ih =>
      obtain ⟨first, rest⟩ := List.forall_mem_cons.mp h
      rw [List.mapM_cons, List.mapM_cons, first, ih rest]

/-- Computations that give what a function gives, if anything, are a map of that function. -/
theorem eq_map_of_mapM {f : α → Except ε β} {g : α → β} (hg : ∀ x y, f x = .ok y → y = g x)
    {xs : List α} {ys : List β} (h : xs.mapM f = .ok ys) : ys = xs.map g := by
  induction xs generalizing ys with
  | nil =>
      cases h
      rfl
  | cons x xs ih =>
      rw [List.mapM_cons] at h
      obtain ⟨y, first, h⟩ := bind_eq_ok.mp h
      obtain ⟨ys, rest, h⟩ := bind_eq_ok.mp h
      cases h
      rw [List.map_cons, hg x y first, ih rest]

/-- Each result of a list of computations comes from one of them. -/
theorem exists_of_mem_mapM {f : α → Except ε β} {xs : List α} {ys : List β}
    (h : xs.mapM f = .ok ys) : ∀ y ∈ ys, ∃ x ∈ xs, f x = .ok y := by
  induction xs generalizing ys with
  | nil =>
      cases h
      exact fun _ hy => absurd hy List.not_mem_nil
  | cons x xs ih =>
      rw [List.mapM_cons] at h
      obtain ⟨y, first, h⟩ := bind_eq_ok.mp h
      obtain ⟨ys, rest, h⟩ := bind_eq_ok.mp h
      cases h
      rintro z (_ | ⟨_, hz⟩)
      · exact ⟨x, List.mem_cons_self, first⟩
      · obtain ⟨w, hw, eq⟩ := ih rest z hz
        exact ⟨w, List.mem_cons_of_mem _ hw, eq⟩

/-! ## Failures -/

/-- A computation that fails exactly on a condition, and in one way. -/
def FailsIff (e : ε) (p : Prop) (x : Except ε α) : Prop := ∀ e', x = .error e' ↔ e' = e ∧ p

namespace FailsIff

variable {e : ε} {p q : Prop} {x : Except ε α}

theorem ok (a : α) : FailsIff e False (.ok a : Except ε α) := fun _ =>
  iff_of_false nofun fun h => h.2

theorem error : FailsIff e True (.error e : Except ε α) := by
  intro e'
  constructor
  · intro h
    cases h
    exact ⟨rfl, trivial⟩
  · rintro ⟨rfl, -⟩
    rfl

theorem exists_ok (h : FailsIff e p x) (hp : ¬ p) : ∃ a, x = .ok a := by
  cases x with
  | error e₁ => exact absurd ((h e₁).mp rfl).2 hp
  | ok a => exact ⟨a, rfl⟩

theorem congr (h : FailsIff e p x) (iff : p ↔ q) : FailsIff e q x := by
  intro e'
  rw [h e', iff]

theorem bind {f : α → Except ε β} (hx : FailsIff e p x)
    (hf : ∀ a, x = .ok a → FailsIff e q (f a)) : FailsIff e (p ∨ q) (x >>= f) := by
  intro e'
  cases x with
  | error e₁ =>
      obtain ⟨rfl, hp⟩ := (hx e₁).mp rfl
      exact (FailsIff.error.congr (iff_of_true trivial (.inl hp))) e'
  | ok a =>
      have whole : ¬ p := fun hp => nomatch (hx e).mpr ⟨rfl, hp⟩
      exact ((hf a rfl).congr (or_iff_right whole).symm) e'

theorem map (f : α → β) (h : FailsIff e p x) : FailsIff e p (x.map f) := by
  intro e'
  rw [← h e', map_eq_error]

/-- Computations in a row fail where one of them does. -/
theorem mapM {f : α → Except ε β} {p : α → Prop} {xs : List α}
    (h : ∀ x ∈ xs, FailsIff e (p x) (f x)) : FailsIff e (∃ x ∈ xs, p x) (xs.mapM f) := by
  induction xs with
  | nil => exact (FailsIff.ok []).congr (iff_of_false not_false (by simp))
  | cons x xs ih =>
      obtain ⟨first, rest⟩ := List.forall_mem_cons.mp h
      rw [List.mapM_cons]
      refine (first.bind fun y _ => (ih rest).bind fun ys _ => FailsIff.ok _).congr ?_
      simp only [or_false, List.mem_cons, exists_eq_or_imp]

end FailsIff

/-! ## Two computations -/

/-- Computations that fail with the same error or give related results. -/
inductive Parallel (R : α → β → Prop) : Except ε α → Except ε β → Prop where
  | error (e : ε) : Parallel R (.error e) (.error e)
  | ok {a : α} {b : β} (related : R a b) : Parallel R (.ok a) (.ok b)

namespace Parallel

variable {γ δ : Type} {R : α → β → Prop} {S : γ → δ → Prop} {x : Except ε α} {y : Except ε β}

theorem of_eq {x y : Except ε α} (eq : x = y) : Parallel Eq x y := by
  subst eq
  cases x with
  | error e => exact .error e
  | ok a => exact .ok rfl

theorem eq {x y : Except ε α} (h : Parallel Eq x y) : x = y := by
  cases h with
  | error e => rfl
  | ok same => rw [same]

theorem bind {f : α → Except ε γ} {g : β → Except ε δ} (h : Parallel R x y)
    (next : ∀ {a b}, R a b → Parallel S (f a) (g b)) : Parallel S (x >>= f) (y >>= g) := by
  cases h with
  | error e => exact .error e
  | ok related => exact next related

theorem bind_of_eq {x y : Except ε α} {f : α → Except ε γ} {g : α → Except ε δ} (eq : x = y)
    (next : ∀ a, Parallel S (f a) (g a)) : Parallel S (x >>= f) (y >>= g) :=
  (of_eq eq).bind fun same => same ▸ next _

theorem imp {S : α → β → Prop} (h : Parallel R x y) (weaker : ∀ {a b}, R a b → S a b) :
    Parallel S x y := by
  cases h with
  | error e => exact .error e
  | ok related => exact .ok (weaker related)

theorem map {f : α → γ} {g : β → δ} (h : Parallel R x y) (image : ∀ {a b}, R a b → S (f a) (g b)) :
    Parallel S (x.map f) (y.map g) := by
  cases h with
  | error e => exact .error e
  | ok related => exact .ok (image related)

/-- Computations in a row run in parallel if each of them does. -/
theorem mapM {f : α → Except ε γ} {g : β → Except ε δ} {xs : List α} {ys : List β}
    (h : List.Forall₂ R xs ys) (each : ∀ {a b}, R a b → Parallel S (f a) (g b)) :
    Parallel (List.Forall₂ S) (xs.mapM f) (ys.mapM g) := by
  induction h with
  | nil => exact .ok .nil
  | cons first _ ih =>
      rw [List.mapM_cons, List.mapM_cons]
      exact (each first).bind fun hc => ih.bind fun hcs => .ok (.cons hc hcs)

end Parallel

end RouletteStrategy
