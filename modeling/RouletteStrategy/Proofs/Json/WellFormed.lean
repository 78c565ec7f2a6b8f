import RouletteStrategy.Proofs.Json.Parsing
import RouletteStrategy.Proofs.Numeric.Digits

/-!
# Values that a text can denote

Keys of an object are distinct, and integers are no longer than what is read. The parser gives no
other values (`Parser.wellFormed_parse`), and their parts are again of this form.
-/

namespace RouletteStrategy.Json

inductive WellFormed : Json → Prop where
  | null : WellFormed .null
  | bool (b : Bool) : WellFormed (.bool b)
  | int {i : Int} (short : (Decimal.digitChars i.natAbs).length ≤ Literal.maxDigits) :
    WellFormed (.int i)
  | float (x : Binary64) : WellFormed (.float x)
  | str (s : String) : WellFormed (.str s)
  | arr {xs : List Json} (items : ∀ x ∈ xs, WellFormed x) : WellFormed (.arr xs)
  | obj {ms : Object} (distinct : (Members.keys ms).Nodup) (members : ∀ kv ∈ ms, WellFormed kv.2) :
    WellFormed (.obj ms)

/-- The values under the keys of a free object. -/
def Object.WellFormed (o : Object) : Prop := ∀ kv ∈ o, kv.2.WellFormed

namespace WellFormed

variable {v w : Json}

theorem sorted (h : v.WellFormed) : v.sorted.WellFormed := by
  induction h with
  | arr _ ih =>
      rw [sorted_arr]
      exact .arr (List.forall_mem_map.mpr ih)
  | obj distinct _ ih =>
      rw [sorted_obj]
      refine .obj ?_ (List.forall_mem_map.mpr fun kv hkv => ih kv (Members.mem_sorted.mp hkv))
      rwa [Members.keys_map, Members.nodup_keys_sorted]
  | int short => exact .int short
  | null => exact .null
  | bool b => exact .bool b
  | float x => exact .float x
  | str s => exact .str s

theorem finite (h : v.WellFormed) : v.finite.WellFormed := by
  induction h with
  | float x =>
      rw [Json.finite]
      split
      · exact .float x
      · exact .null
  | arr _ ih =>
      rw [finite_arr]
      exact .arr (List.forall_mem_map.mpr ih)
  | obj distinct _ ih =>
      rw [finite_obj]
      exact .obj (by rwa [Members.keys_map]) (List.forall_mem_map.mpr ih)
  | int short => exact .int short
  | null => exact .null
  | bool b => exact .bool b
  | str s => exact .str s

theorem orElse (hv : v.WellFormed) (hw : w.WellFormed) : (v.orElse w).WellFormed := by
  rw [Json.orElse]
  split
  · exact hv
  · exact hw

/-- Integers that are not beyond the exact floats are short. -/
theorem ofNat {n : Nat} (h : n < 2 ^ 53) : (Json.ofNat n).WellFormed := by
  have short : (Decimal.digitChars n).length ≤ 16 :=
    (Decimal.length_digitChars_le_iff (by decide)).mpr (Nat.lt_trans h (by decide))
  exact .int (Nat.le_trans short (by decide))

theorem items {xs : List Json} (h : (Json.arr xs).WellFormed) : ∀ x ∈ xs, x.WellFormed := by
  cases h with
  | arr items => exact items

theorem nodup_keys {o : Object} (h : (Json.obj o).WellFormed) : (Members.keys o).Nodup := by
  cases h with
  | obj distinct => exact distinct

theorem members (h : v.WellFormed) : v.members.WellFormed := by
  cases h with
  | obj _ members => exact members
  | _ => exact fun _ hkv => absurd hkv List.not_mem_nil

theorem asObject {o : Object} (h : v.WellFormed) (eq : v.asObject? = some o) : o.WellFormed := by
  cases h with
  | obj _ members => exact Option.some.inj eq ▸ members
  | _ => cases eq

end WellFormed

namespace Object.WellFormed

variable {o p : Object}

theorem valueAt (h : o.WellFormed) (key : String) : (o.at key).WellFormed := by
  rw [Object.at]
  cases eq : Members.get? o key with
  | none => exact .null
  | some v => exact h (key, v) (Members.mem_of_get? eq)

theorem get (h : o.WellFormed) {key : String} {v : Json} (eq : Members.get? o key = some v) :
    v.WellFormed :=
  h (key, v) (Members.mem_of_get? eq)

theorem overlay (h : o.WellFormed) (h' : p.WellFormed) :
    Object.WellFormed (Members.overlay o p) :=
  fun kv hkv => (Members.mem_overlay hkv).elim (h kv) (h' kv)

theorem erase (h : o.WellFormed) (key : String) : Object.WellFormed (Members.erase o key) :=
  fun kv hkv => h kv (List.mem_of_mem_filter hkv)

end Object.WellFormed
/-! ## What the parser gives -/

namespace Parser

theorem isDigit_of_mem_wholeDigits {cs : List Char} {c : Char} (h : c ∈ wholeDigits cs) :
    c.isDigit := by
  unfold wholeDigits at h
  split at h
  · rw [List.mem_singleton.mp h]
    rfl
  · exact List.all_eq_true.mp List.all_takeWhile c h

variable {cs r : List Char} {v : Json}

/-- The digits read are at least as many as those of the number. -/
theorem length_digitChars_wholeDigits (nonempty : ¬(wholeDigits cs).isEmpty) :
    (Decimal.digitChars (Text.natOfDigits (wholeDigits cs))).length ≤ (wholeDigits cs).length := by
  have positive : 0 < (wholeDigits cs).length := by
    simpa [List.length_pos_iff] using nonempty
  exact (Decimal.length_digitChars_le_iff positive).mpr
    (Text.natOfDigits_lt fun c => isDigit_of_mem_wholeDigits)

theorem wellFormed_magnitude {negative : Bool} (h : magnitude negative cs = some (v, r)) :
    v.WellFormed := by
  simp only [magnitude] at h
  split_ifs at h with empty integer long sign
  · cases h
    refine .int (Nat.le_trans ?_ (Nat.le_of_not_lt long))
    simpa using length_digitChars_wholeDigits empty
  · cases h
    exact .int (Nat.le_trans (length_digitChars_wholeDigits empty) (Nat.le_of_not_lt long))
  · cases h
    exact .float _

theorem wellFormed_of_mem_words {w : List Char × Json} (h : w ∈ words) : w.2.WellFormed := by
  simp only [words, List.mem_cons, List.not_mem_nil, or_false] at h
  rcases h with rfl | rfl | rfl | rfl | rfl | rfl
  · exact .null
  · exact .bool true
  · exact .bool false
  · exact .float .nan
  · exact .float (.infinite false)
  · exact .float (.infinite true)

theorem wellFormed_scalar (h : scalar cs = some (v, r)) : v.WellFormed := by
  unfold scalar at h
  split at h
  · next found =>
    obtain ⟨w, hw, eq⟩ := List.exists_of_findSome?_eq_some found
    obtain ⟨rest, -, eq⟩ := Option.map_eq_some_iff.mp (eq.trans h)
    cases eq
    exact wellFormed_of_mem_words hw
  · unfold number at h
    split at h <;> exact wellFormed_magnitude h

theorem composed_wellFormed : Composed fun _ v => v.WellFormed where
  scalar := wellFormed_scalar
  str _ s := .str s
  arr items := .arr items
  obj distinct members := .obj distinct members

/-- What a text denotes is well-formed. -/
theorem wellFormed_parse {s : String} (h : parse s = .ok v) : v.WellFormed :=
  composed_wellFormed.parse h

end Parser
end RouletteStrategy.Json
