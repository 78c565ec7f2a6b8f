import RouletteStrategy.Json.Parser
import RouletteStrategy.Proofs.Except
import RouletteStrategy.Proofs.Json.Values

/-!
# What the parser builds

A property of values that lists and objects have if their parts do holds of everything that is read
(`Parser.Composed.parse`). The property may depend on the room that is left for lists and objects
inside one another, which bounds the height of a value (`Parser.height_parse`).
-/

namespace RouletteStrategy.Json.Parser

/-- A property of values with some room, composed from that of their parts with one less. -/
structure Composed (P : Nat → Json → Prop) : Prop where
  scalar : ∀ {room cs v r}, scalar cs = some (v, r) → P room v
  str : ∀ room s, P room (.str s)
  arr : ∀ {room xs}, (∀ x ∈ xs, P room x) → P (room + 1) (.arr xs)
  obj : ∀ {room} {ms : Object}, (Members.keys ms).Nodup → (∀ kv ∈ ms, P room kv.2) →
    P (room + 1) (.obj ms)

/-- What a reader with some fuel gives has the property. -/
structure Gives (P : Nat → Json → Prop) (fuel : Nat) : Prop where
  value : ∀ {room cs v r}, value fuel room cs = .ok (v, r) → P room v
  items : ∀ {room cs xs r}, items fuel room cs = .ok (xs, r) → ∀ x ∈ xs, P room x
  members : ∀ {room} {done : Object} {cs ms r}, (∀ kv ∈ done, P room kv.2) →
    (Members.keys done).Nodup → members fuel room done cs = .ok (ms, r) →
    (∀ kv ∈ ms, P room kv.2) ∧ (Members.keys ms).Nodup

variable {P : Nat → Json → Prop} {fuel room : Nat} {cs r : List Char} {v : Json}

theorem step_eq_ok {α : Type} {x : Option (α × List Char)} {p : α × List Char}
    (h : Step.ofOption x = .ok p) : x = some p := by
  cases x with
  | none => cases h
  | some q => exact congrArg some (Except.ok.inj h)

namespace Gives

variable (less : Gives P fuel)
include less

theorem items_succ {xs : List Json} (h : Parser.items (fuel + 1) room cs = .ok (xs, r)) :
    ∀ x ∈ xs, P room x := by
  unfold Parser.items at h
  split at h
  · cases h
  · next first =>
    split at h
    · obtain ⟨_, rest, eq⟩ := map_eq_ok.mp h
      cases eq
      exact List.forall_mem_cons.mpr ⟨less.value first, less.items rest⟩
    · cases h
      exact List.forall_mem_singleton.mpr (less.value first)
    · cases h

theorem members_succ {done ms : Object} (hdone : ∀ kv ∈ done, P room kv.2)
    (distinct : (Members.keys done).Nodup)
    (h : Parser.members (fuel + 1) room done cs = .ok (ms, r)) :
    (∀ kv ∈ ms, P room kv.2) ∧ (Members.keys ms).Nodup := by
  unfold Parser.members at h
  split at h
  · split at h
    · cases h
    · next key _ _ =>
      split at h
      · split at h
        · cases h
        · next value _ first =>
          have next_distinct := Members.nodup_keys_set distinct (String.ofList key)
          have next_members : ∀ kv ∈ Members.set done (String.ofList key) value, P room kv.2 := by
            intro kv hkv
            rcases Members.mem_set hkv with old | rfl
            · exact hdone kv old
            · exact less.value first
          simp only at h
          split at h
          · exact less.members next_members (next_distinct _) h
          · cases h
            exact ⟨next_members, next_distinct _⟩
          · cases h
      · cases h
  · cases h

end Gives

namespace Composed

variable (composed : Composed P)
include composed

theorem value (less : Gives P fuel) (h : value (fuel + 1) room cs = .ok (v, r)) : P room v := by
  unfold Parser.value at h
  split at h
  · obtain ⟨_, -, eq⟩ := Option.map_eq_some_iff.mp (step_eq_ok h)
    cases eq
    exact composed.str room _
  · cases room with
    | zero => cases h
    | succ room =>
        simp only at h
        split at h
        · cases h
          exact composed.arr fun _ hx => absurd hx List.not_mem_nil
        · obtain ⟨_, read, eq⟩ := map_eq_ok.mp h
          cases eq
          exact composed.arr (less.items read)
  · cases room with
    | zero => cases h
    | succ room =>
        simp only at h
        split at h
        · cases h
          exact composed.obj List.nodup_nil fun _ hkv => absurd hkv List.not_mem_nil
        · obtain ⟨_, read, eq⟩ := map_eq_ok.mp h
          cases eq
          obtain ⟨members, distinct⟩ :=
            less.members (fun _ hkv => absurd hkv List.not_mem_nil) List.nodup_nil read
          exact composed.obj distinct members
  · exact composed.scalar (step_eq_ok h)

theorem gives (fuel : Nat) : Gives P fuel := by
  induction fuel with
  | zero =>
      constructor
      · intro _ _ _ _ h
        cases h
      · intro _ _ _ _ h
        cases h
      · intro _ _ _ _ _ _ _ h
        cases h
  | succ fuel ih => exact ⟨composed.value ih, ih.items_succ, ih.members_succ⟩

theorem parse {s : String} (h : parse s = .ok v) : P maxOpen v := by
  obtain ⟨⟨w, rest⟩, read, h⟩ := bind_eq_ok.mp h
  simp only at h
  split at h
  · cases h
    exact (composed.gives _).value read
  · cases h

end Composed

/-! ## Height -/

theorem height_magnitude {negative : Bool} (h : magnitude negative cs = some (v, r)) :
    v.height = 0 := by
  simp only [magnitude] at h
  split_ifs at h <;> cases h <;> rfl

theorem height_scalar (h : scalar cs = some (v, r)) : v.height = 0 := by
  unfold scalar at h
  split at h
  · next found =>
    obtain ⟨w, hw, eq⟩ := List.exists_of_findSome?_eq_some found
    obtain ⟨rest, -, eq⟩ := Option.map_eq_some_iff.mp (eq.trans h)
    cases eq
    have flat : ∀ w ∈ words, w.2.height = 0 := by
      simp [words, height]
    exact flat w hw
  · unfold number at h
    split at h <;> exact height_magnitude h

theorem composed_height : Composed fun room v => v.height ≤ room where
  scalar h := (height_scalar h).symm ▸ Nat.zero_le _
  str room _ := Nat.zero_le room
  arr items := Nat.succ_le_succ (heightOfItems_le_iff.mpr items)
  obj _ members := Nat.succ_le_succ (heightOfMembers_le_iff.mpr members)

/-- No more lists and objects than may be open stand inside one another in what is read. -/
theorem height_parse {s : String} (h : parse s = .ok v) : v.height ≤ maxOpen :=
  composed_height.parse h

end RouletteStrategy.Json.Parser
