import RouletteStrategy.Proofs.Json.RoundTrip
import RouletteStrategy.Proofs.Json.Stored
import RouletteStrategy.Proofs.Json.Unmarked
import RouletteStrategy.Proofs.Text.Spelling

/-!
# Values whose texts spell code points

Every text and key of such a value spells code points, and so does the text that the value is
displayed or written as (`spelled_display`, `spelled_write`).
-/

namespace RouletteStrategy.Json

open Text (mark)

inductive Spelled : Json → Prop where
  | null : Spelled .null
  | bool (b : Bool) : Spelled (.bool b)
  | int (i : Int) : Spelled (.int i)
  | float (x : Binary64) : Spelled (.float x)
  | str {s : String} (h : Text.Spelled s.toList) : Spelled (.str s)
  | arr {xs : List Json} (items : ∀ x ∈ xs, Spelled x) : Spelled (.arr xs)
  | obj {ms : Object} (keys : ∀ kv ∈ ms, Text.Spelled kv.1.toList)
    (members : ∀ kv ∈ ms, Spelled kv.2) : Spelled (.obj ms)

/-- Keys that spell code points, and such values under them. -/
def Object.Spelled (o : Object) : Prop := ∀ kv ∈ o, Text.Spelled kv.1.toList ∧ kv.2.Spelled

theorem spelled_obj_iff {ms : Object} : (obj ms).Spelled ↔ ms.Spelled := by
  constructor
  · rintro (_ | _ | _ | _ | _ | _ | ⟨keys, members⟩)
    exact fun kv hkv => ⟨keys kv hkv, members kv hkv⟩
  · exact fun h => .obj (fun kv hkv => (h kv hkv).1) fun kv hkv => (h kv hkv).2

/-- An object under keys without marks. -/
theorem spelled_obj_of_keys {ms : Object} (keys : ∀ key ∈ Members.keys ms, mark ∉ key.toList)
    (members : ∀ kv ∈ ms, kv.2.Spelled) : (obj ms).Spelled :=
  .obj (fun kv hkv => Text.spelled_of_notMem (keys kv.1 (Members.mem_keys_of_mem hkv))) members

namespace Spelled

variable {v w : Json}

theorem orElse (hv : v.Spelled) (hw : w.Spelled) : (v.orElse w).Spelled := by
  rw [Json.orElse]
  split
  · exact hv
  · exact hw

theorem sorted (h : v.Spelled) : v.sorted.Spelled := by
  induction h with
  | arr _ ih =>
      rw [sorted_arr]
      exact .arr (List.forall_mem_map.mpr ih)
  | obj keys _ ih =>
      rw [sorted_obj]
      refine .obj (List.forall_mem_map.mpr fun kv hkv => ?_)
        (List.forall_mem_map.mpr fun kv hkv => ih kv (Members.mem_sorted.mp hkv))
      exact keys kv (Members.mem_sorted.mp hkv)
  | str h => exact .str h
  | null => exact .null
  | bool b => exact .bool b
  | int i => exact .int i
  | float x => exact .float x

theorem finite (h : v.Spelled) : v.finite.Spelled := by
  induction h with
  | float x =>
      rw [Json.finite]
      split
      · exact .float x
      · exact .null
  | arr _ ih =>
      rw [finite_arr]
      exact .arr (List.forall_mem_map.mpr ih)
  | obj keys _ ih =>
      rw [finite_obj]
      exact .obj (List.forall_mem_map.mpr keys) (List.forall_mem_map.mpr ih)
  | str h => exact .str h
  | null => exact .null
  | bool b => exact .bool b
  | int i => exact .int i

theorem members (h : v.Spelled) : v.members.Spelled := by
  cases h with
  | obj keys members => exact spelled_obj_iff.mp (.obj keys members)
  | _ => exact fun _ hkv => absurd hkv List.not_mem_nil

theorem asObject {o : Object} (h : v.Spelled) (eq : v.asObject? = some o) : o.Spelled := by
  cases h with
  | obj keys members => exact Option.some.inj eq ▸ spelled_obj_iff.mp (.obj keys members)
  | _ => cases eq

end Spelled

namespace Object.Spelled

variable {o p : Object}

theorem get (h : o.Spelled) {key : String} {v : Json} (eq : Members.get? o key = some v) :
    v.Spelled :=
  (h (key, v) (Members.mem_of_get? eq)).2

theorem valueAt (h : o.Spelled) (key : String) : (o.at key).Spelled := by
  rw [Object.at]
  cases eq : Members.get? o key with
  | none => exact .null
  | some v => exact h.get eq

theorem set (h : o.Spelled) {key : String} (hkey : Text.Spelled key.toList) {v : Json}
    (hv : v.Spelled) : Object.Spelled (Members.set o key v) := by
  intro kv hkv
  rcases Members.mem_set hkv with old | rfl
  · exact h kv old
  · exact ⟨hkey, hv⟩

theorem overlay (h : o.Spelled) (h' : p.Spelled) :
    Object.Spelled (Members.overlay o p) :=
  fun kv hkv => (Members.mem_overlay hkv).elim (h kv) (h' kv)

theorem erase (h : o.Spelled) (key : String) : Object.Spelled (Members.erase o key) :=
  fun kv hkv => h kv (List.mem_of_mem_filter hkv)

theorem written (h : o.Spelled) : Object.Spelled o.written := by
  intro kv hkv
  obtain ⟨lw, hlw, rfl⟩ := exists_of_mem_written hkv
  exact ⟨Text.Utf8.spelled_legible (h lw hlw).1, (h lw hlw).2.finite⟩

end Object.Spelled

/-! ## Texts of values -/

theorem spelled_display {v : Json} (h : v.Spelled) : Text.Spelled v.display.toList := by
  cases h with
  | str h => exact h
  | _ =>
    rw [display, String.toList_ofList]
    · exact Text.spelled_of_notMem (mark_notMem_inspect _)
    · exact nofun

section Characters

variable {c : Char} {cs : List Char}

theorem escapeChar_of_high (h : 0x80 ≤ c.toNat) : escapeChar c = [c] := by
  have other : ∀ d : Char, d.toNat < 0x80 → c ≠ d := by
    rintro d low rfl
    omega
  have visible : ¬c.toNat < 0x20 := by omega
  rw [escapeChar, if_neg (other _ (by decide)), if_neg (other _ (by decide)),
    if_neg (other _ (by decide)), if_neg (other _ (by decide)), if_neg (other _ (by decide)),
    if_neg (other _ (by decide)), if_neg (other _ (by decide)), if_neg visible]

theorem mark_notMem_escapeChar (h : c ≠ mark) : mark ∉ escapeChar c := by
  have other : mark ∉ ['"', '\\', 'n', 'r', 't', 'b', 'f'] := by decide
  unfold escapeChar
  split_ifs <;> simp_all [Text.mark_notMem_unitEscape, h.symm]

/-- Neither a mark nor the character after it is escaped. -/
theorem spelled_flatMap_escapeChar (h : Text.Spelled cs) :
    Text.Spelled (cs.flatMap escapeChar) := by
  induction h with
  | nil => exact .nil
  | cons point _ ih =>
      rw [List.flatMap_append]
      refine .append ?_ ih
      have spelled := Text.Spelled.cons point .nil
      rw [List.append_nil] at spelled
      rcases Text.spell_cases point with ⟨c, ne, eq⟩ | ⟨d, high, eq⟩
      · rw [eq, List.flatMap_singleton]
        exact Text.spelled_of_notMem (mark_notMem_escapeChar ne)
      · have marked : [mark, d].flatMap escapeChar = [mark, d] := by
          simp [escapeChar_of_high high, escapeChar_of_high (show 0x80 ≤ mark.toNat by decide)]
        rw [eq] at spelled ⊢
        rwa [marked]

theorem spelled_writeText {s : String} (h : Text.Spelled s.toList) : Text.Spelled (writeText s) :=
  have quote : Text.Spelled ['"'] := Text.Spelled.nil.char (by decide)
  ((spelled_flatMap_escapeChar h).append quote).char (by decide)

theorem spelled_gap (h : ∀ c ∈ cs, Parser.isGap c) : Text.Spelled cs :=
  Text.spelled_of_notMem fun hc => absurd (h mark hc) (by decide)

end Characters

section Values

variable {style : Style} (regular : style.Regular) {depth : Nat}
include regular

theorem spelled_writeItems {xs : List Json}
    (h : ∀ x ∈ xs, ∀ depth, Text.Spelled (write style depth x)) :
    Text.Spelled (writeItems style depth xs) := by
  induction xs with
  | nil => exact .nil
  | cons x xs ih =>
      obtain ⟨first, rest⟩ := List.forall_mem_cons.mp h
      rw [writeItems]
      refine (first depth).append ?_
      split
      · exact .nil
      · exact ((spelled_gap (regular.newline depth)).append (ih rest)).char (by decide)

theorem spelled_writeMembers {ms : Object} (keys : ∀ kv ∈ ms, Text.Spelled kv.1.toList)
    (h : ∀ kv ∈ ms, ∀ depth, Text.Spelled (write style depth kv.2)) :
    Text.Spelled (writeMembers style depth ms) := by
  obtain ⟨gap, colon, blank⟩ := regular.colon
  induction ms with
  | nil => exact .nil
  | cons kv ms ih =>
      obtain ⟨key, keys⟩ := List.forall_mem_cons.mp keys
      obtain ⟨first, rest⟩ := List.forall_mem_cons.mp h
      rw [writeMembers, colon]
      refine (((spelled_writeText key).append ((spelled_gap blank).char (by decide))).append
        (first depth)).append ?_
      split
      · exact .nil
      · exact ((spelled_gap (regular.newline depth)).append (ih keys rest)).char (by decide)

/-- What such a value is written as spells code points. -/
theorem spelled_write {v : Json} (h : v.Spelled) : Text.Spelled (write style depth v) := by
  have newline := fun depth => spelled_gap (regular.newline depth)
  have bracket : Text.Spelled [']'] := Text.Spelled.nil.char (by decide)
  have brace : Text.Spelled ['\x7d'] := Text.Spelled.nil.char (by decide)
  induction h generalizing depth with
  | null => exact Text.spelled_of_notMem (show mark ∉ "null".toList by decide)
  | bool b =>
      have words : mark ∉ "true".toList ∧ mark ∉ "false".toList := by decide
      cases b
      · exact Text.spelled_of_notMem words.2
      · exact Text.spelled_of_notMem words.1
  | int i => exact Text.spelled_of_notMem (mark_notMem_integerText i)
  | float x => exact Text.spelled_of_notMem (mark_notMem_floatText (by decide) (by decide) x)
  | str h => exact spelled_writeText h
  | @arr xs _ ih =>
      rw [write]
      split
      · exact bracket.char (by decide)
      · have items : Text.Spelled (writeItems style (depth + 1) xs) :=
          spelled_writeItems regular fun x hx _ => ih x hx
        exact ((((newline (depth + 1)).append items).append (newline depth)).append
          bracket).char (by decide)
  | @obj ms keys _ ih =>
      rw [write]
      split
      · exact brace.char (by decide)
      · have members : Text.Spelled (writeMembers style (depth + 1) ms) :=
          spelled_writeMembers regular keys fun kv hkv _ => ih kv hkv
        exact ((((newline (depth + 1)).append members).append (newline depth)).append
          brace).char (by decide)

theorem spelled_render {v : Json} (h : v.Spelled) : Text.Spelled (render style v).toList := by
  rw [render, String.toList_ofList]
  exact spelled_write regular h

end Values

end RouletteStrategy.Json
