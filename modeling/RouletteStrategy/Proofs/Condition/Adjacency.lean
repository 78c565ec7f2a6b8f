import Mathlib.Data.List.Infix
import Mathlib.Data.List.Rotate
import RouletteStrategy.Proofs.Condition.Reading

/-!
# Numbers that stand next to each other

Two spins in a row match if their numbers stand next to each other in a list, and the latest such
pair is reported. Which numbers stand next to each other does not depend on the direction in which
the list is read nor, where it is closed to a circle, on the number with which it starts, so neither
does any outcome (`Condition.paired_adjacentInList`).
-/

namespace RouletteStrategy

section Pairs

variable {α : Type} {x y : α} {xs : List α}

theorem pair_infix_iff : [x, y] <:+: xs ↔ ∃ i, xs[i]? = some x ∧ xs[i + 1]? = some y := by
  rw [List.infix_iff_getElem?]
  constructor
  · rintro ⟨i, -, items⟩
    have first := items 0 Nat.two_pos
    have second := items 1 Nat.one_lt_two
    rw [Nat.zero_add] at first
    rw [Nat.add_comm] at second
    exact ⟨i, first, second⟩
  · rintro ⟨i, first, second⟩
    obtain ⟨inside, -⟩ := List.getElem?_eq_some_iff.mp second
    refine ⟨i, ?_, ?_⟩
    · show 2 + i ≤ xs.length
      omega
    · rintro (_ | _ | k) hk
      · rwa [Nat.zero_add]
      · rwa [Nat.add_comm]
      · exact absurd hk (Nat.not_lt.mpr (Nat.le_add_left 2 k))

/-- The items in a row are those paired with the ones behind them. -/
theorem mem_zip_tail_iff : (x, y) ∈ xs.zip xs.tail ↔ [x, y] <:+: xs := by
  rw [pair_infix_iff, List.mem_iff_getElem?]
  simp only [List.getElem?_zip_eq_some, List.getElem?_tail]

/-- The pairs behind one of them are those of the items from its second one on. -/
theorem exists_of_zip_tail_eq_append {before after : List (α × α)}
    (h : xs.zip xs.tail = before ++ (x, y) :: after) :
    ∃ start rest, xs = start ++ x :: y :: rest ∧ (y :: rest).zip rest = after := by
  induction before generalizing xs with
  | nil =>
      obtain _ | ⟨u, _ | ⟨v, rest⟩⟩ := xs
      · cases h
      · cases h
      · cases h
        exact ⟨[], rest, rfl, rfl⟩
  | cons p before ih =>
      obtain _ | ⟨u, xs⟩ := xs
      · cases h
      · obtain _ | ⟨v, xs⟩ := xs
        · cases h
        · obtain ⟨start, rest, eq, pairs⟩ := ih (List.cons.inj h).2
          exact ⟨u :: start, rest, congrArg (u :: ·) eq, pairs⟩

theorem filterMap_rotated {β : Type} {ys : List α} (rotated : xs ~r ys) (f : α → Option β) :
    xs.filterMap f ~r ys.filterMap f := by
  obtain ⟨k, rfl⟩ := rotated
  have parts := List.take_append_drop (k % xs.length) xs
  rw [List.rotate_eq_drop_append_take_mod]
  generalize xs.take (k % xs.length) = first at parts ⊢
  generalize xs.drop (k % xs.length) = second at parts ⊢
  rw [← parts, List.filterMap_append, List.filterMap_append]
  exact List.isRotated_append

end Pairs

namespace Condition

/-! ## Numbers next to each other -/

/-- One number comes right after another in a list, or at its start if the other is its end and the
list is closed to a circle. -/
def Follows (circular : Bool) (ns : List Int) (x y : Int) : Prop :=
  [x, y] <:+: ns ∨ circular ∧ ∃ between, ns = y :: (between ++ [x])

/-- Two numbers stand next to each other in a list. -/
def NextTo (circular : Bool) (ns : List Int) (x y : Int) : Prop :=
  Follows circular ns x y ∨ Follows circular ns y x

variable {circular : Bool} {ns ms : List Int} {x y : Int} {i j : Nat}

theorem Follows.mem (h : Follows circular ns x y) : x ∈ ns ∧ y ∈ ns := by
  rcases h with ⟨before, after, rfl⟩ | ⟨-, between, rfl⟩ <;> simp

theorem NextTo.mem (h : NextTo circular ns x y) : x ∈ ns ∧ y ∈ ns :=
  h.elim Follows.mem fun h => h.mem.symm

theorem ends_iff : (∃ between, ns = y :: (between ++ [x])) ↔
    ns[0]? = some y ∧ ∃ i, i + 2 = ns.length ∧ ns[i + 1]? = some x := by
  constructor
  · rintro ⟨between, rfl⟩
    exact ⟨rfl, between.length, by simp, by simp⟩
  · rintro ⟨first, i, length, last⟩
    cases ns with
    | nil => cases first
    | cons z rest =>
        obtain rfl := Option.some.inj first
        have length : i + 1 = rest.length := Nat.succ.inj length
        have last : rest.getLast? = some x := by
          rw [List.getLast?_eq_getElem?, ← length]
          exact last
        obtain ⟨between, rfl⟩ := List.getLast?_eq_some_iff.mp last
        exact ⟨between, rfl⟩

/-- In a list without repetition, where one number follows another is a matter of their places. -/
theorem follows_iff (distinct : ns.Nodup) (hx : ns[i]? = some x) (hy : ns[j]? = some y) :
    Follows circular ns x y ↔ j = i + 1 ∨ circular ∧ j = 0 ∧ 0 < i ∧ i + 1 = ns.length := by
  have place {k l : Nat} {z : Int} (hk : ns[k]? = some z) (hl : ns[l]? = some z) : k = l :=
    (List.getElem?_inj (List.getElem?_eq_some_iff.mp hk).1 distinct).mp (hk.trans hl.symm)
  rw [Follows, pair_infix_iff, ends_iff]
  constructor
  · rintro (⟨k, first, second⟩ | ⟨closed, first, k, length, last⟩)
    · left
      rw [place hx first, place hy second]
    · right
      have here := place hx last
      exact ⟨closed, place hy first, by omega, by omega⟩
  · rintro (rfl | ⟨closed, rfl, inner, length⟩)
    · exact .inl ⟨i, hx, hy⟩
    · obtain ⟨k, rfl⟩ := Nat.exists_eq_add_of_lt inner
      rw [Nat.zero_add] at hx length
      exact .inr ⟨closed, hy, k, length, hx⟩

theorem AdjacentInList.adjacent_iff {c : AdjacentInList} (distinct : c.list.Nodup) :
    c.adjacent x y ↔ NextTo c.circular c.list x y := by
  have at_findIdx? {z : Int} {k : Nat} (h : c.list.findIdx? (· == z) = some k) :
      c.list[k]? = some z := by
    obtain ⟨inside, found, -⟩ := List.findIdx?_eq_some_iff_getElem.mp h
    rw [List.getElem?_eq_getElem inside, beq_iff_eq.mp found]
  have notMem {z : Int} (h : c.list.findIdx? (· == z) = none) : z ∉ c.list := by
    intro mem
    simpa using List.findIdx?_eq_none_iff.mp h z mem
  unfold adjacent
  split
  next i j hi hj =>
    have hx := at_findIdx? hi
    have hy := at_findIdx? hj
    obtain ⟨insideX, -⟩ := List.getElem?_eq_some_iff.mp hx
    obtain ⟨insideY, -⟩ := List.getElem?_eq_some_iff.mp hy
    rw [NextTo, follows_iff distinct hx hy, follows_iff distinct hy hx]
    dsimp only
    simp only [Bool.or_eq_true, beq_iff_eq, Bool.and_eq_true, decide_eq_true_eq]
    -- a list of two has its ends next to each other in any case
    by_cases closed : c.circular
    · simp only [closed, true_and]
      omega
    · simp only [closed, Bool.false_eq_true, false_and, or_false]
      omega
  next other =>
    refine iff_of_false Bool.false_ne_true fun nextTo => ?_
    obtain ⟨memX, memY⟩ := nextTo.mem
    cases hi : c.list.findIdx? (· == x) with
    | none => exact notMem hi memX
    | some i =>
        cases hj : c.list.findIdx? (· == y) with
        | none => exact notMem hj memY
        | some j => exact other i j hi hj

/-! ### Lists with the same pairs -/

theorem follows_reverse : Follows circular ns.reverse x y ↔ Follows circular ns y x := by
  have ends : (∃ between, ns.reverse = y :: (between ++ [x])) ↔
      ∃ between, ns = x :: (between ++ [y]) := by
    simp only [List.reverse_eq_iff]
    constructor
    · rintro ⟨between, rfl⟩
      exact ⟨between.reverse, by simp⟩
    · rintro ⟨between, rfl⟩
      exact ⟨between.reverse, by simp⟩
  rw [Follows, Follows, ← List.reverse_infix, List.reverse_reverse, ends]
  rfl

theorem nextTo_reverse : NextTo circular ns.reverse x y ↔ NextTo circular ns x y := by
  rw [NextTo, NextTo, follows_reverse, follows_reverse, or_comm]

/-- In a circle one number follows another if some rotation begins with the two. -/
theorem follows_circle_iff : Follows true ns x y ↔ ∃ rest, x :: y :: rest ~r ns := by
  constructor
  · rintro (⟨before, after, rfl⟩ | ⟨-, between, rfl⟩)
    · refine ⟨after ++ before, ?_⟩
      rw [List.append_assoc]
      exact List.isRotated_append (l := [x, y] ++ after)
    · exact ⟨between, List.isRotated_append (l := [x])⟩
  · rintro ⟨rest, k, rfl⟩
    rw [List.rotate_eq_drop_append_take_mod]
    have whole := List.take_append_drop (k % (x :: y :: rest).length) (x :: y :: rest)
    generalize List.take (k % (x :: y :: rest).length) (x :: y :: rest) = first at whole ⊢
    generalize List.drop (k % (x :: y :: rest).length) (x :: y :: rest) = second at whole ⊢
    -- the two stay together unless the list is opened between them
    obtain _ | ⟨_, _ | ⟨_, first⟩⟩ := first
    · obtain rfl := whole
      exact .inl ⟨[], rest, by simp⟩
    · cases whole
      exact .inr ⟨rfl, rest, rfl⟩
    · cases whole
      exact .inl ⟨second, first, by simp⟩

theorem nextTo_rotated (rotated : ns ~r ms) :
    NextTo true ns x y ↔ NextTo true ms x y := by
  have follows (x y : Int) : Follows true ns x y ↔ Follows true ms x y := by
    rw [follows_circle_iff, follows_circle_iff]
    exact exists_congr fun rest => ⟨fun h => h.trans rotated, fun h => h.trans rotated.symm⟩
  rw [NextTo, NextTo, follows x y, follows y x]

namespace AdjacentInList

/-! ## Outcomes -/

/-- Two numbers in a row, the latest ones that stand next to each other in a list. -/
structure LatestPair (circular : Bool) (ns recent : List Int) (x y : Int) : Prop where
  nextTo : NextTo circular ns x y
  latest : ∃ before after, recent = before ++ x :: y :: after ∧
    ∀ u v, [u, v] <:+: y :: after → ¬ NextTo circular ns u v

/-- Which spins make a match by their numbers, and the pair of them that is reported. -/
structure Paired (c : AdjacentInList) (ns : List Int) (h : History) : Prop where
  passes : (c.evaluate h).passed ↔ ∃ x y, [x, y] <:+: History.numbers (h.latest c.window) ∧
    NextTo c.circular ns x y
  reports : (c.evaluate h).passed →
    ∃ x y, LatestPair c.circular ns (History.numbers (h.latest c.window)) x y ∧
      Members.get? (c.evaluate h).params "par" = some (.ofInts [x, y]) ∧
      (c.evaluate h).numbers = Wheel.normalize (if c.output.isEmpty then [x, y] else c.output)

variable {c : AdjacentInList} {spins : List Int}

theorem LatestPair.row (pair : LatestPair circular ns spins x y) : [x, y] <:+: spins := by
  obtain ⟨before, after, rfl, -⟩ := pair.latest
  exact ⟨before, after, by simp⟩

/-- The pairs are looked at from the latest one on. -/
theorem latestPair_of_find? (distinct : c.list.Nodup)
    (found : (spins.zip spins.tail).reverse.find? (fun p => c.adjacent p.1 p.2) = some (x, y)) :
    LatestPair c.circular c.list spins x y := by
  obtain ⟨adjacent, later, earlier, eq, others⟩ := List.find?_eq_some_iff_append.mp found
  rw [List.reverse_eq_append_iff, List.reverse_cons, List.append_assoc,
    List.singleton_append] at eq
  obtain ⟨before, after, rfl, pairs⟩ := exists_of_zip_tail_eq_append eq
  refine ⟨(adjacent_iff distinct).mp adjacent, before, after, rfl, fun u v row nextTo => ?_⟩
  have mem : (u, v) ∈ later := by
    rw [← List.mem_reverse, ← pairs]
    exact mem_zip_tail_iff.mpr row
  have other := others (u, v) mem
  rw [(adjacent_iff distinct).mpr nextTo] at other
  cases other

theorem paired_evaluate (distinct : c.list.Nodup) (h : History) : c.Paired c.list h := by
  cases found : ((History.numbers (h.latest c.window)).zip
      (History.numbers (h.latest c.window)).tail).reverse.find? fun p => c.adjacent p.1 p.2 with
  | none =>
      have outcome : (c.evaluate h).passed = false := by
        simp only [evaluate, found]
        rfl
      refine ⟨iff_of_false (Bool.eq_false_iff.mp outcome) ?_, fun passed => ?_⟩
      · rintro ⟨x, y, row, nextTo⟩
        have pair := List.mem_reverse.mpr (mem_zip_tail_iff.mpr row)
        exact List.find?_eq_none.mp found _ pair ((adjacent_iff distinct).mpr nextTo)
      · rw [outcome] at passed
        cases passed
  | some p =>
      obtain ⟨x, y⟩ := p
      have pair := latestPair_of_find? distinct found
      have outcome : c.evaluate h = .found (if c.output.isEmpty then [x, y] else c.output)
          "adjacent-in-list" [("janela", .ofNat c.window), ("circular", .bool c.circular),
            ("par", .ofInts [x, y])] := by
        simp only [evaluate, found]
        rfl
      refine ⟨iff_of_true ?_ ⟨x, y, pair.row, pair.nextTo⟩, fun _ => ⟨x, y, pair, ?_⟩⟩
      · rw [outcome]
        rfl
      · rw [outcome]
        exact ⟨rfl, rfl⟩

/-- Of the list an outcome depends on nothing but what stands next to each other in it. -/
theorem evaluate_eq_of_nextTo (distinct : c.list.Nodup) (distinct' : ms.Nodup)
    (same : ∀ x y, NextTo c.circular ms x y ↔ NextTo c.circular c.list x y) :
    { c with list := ms }.evaluate = c.evaluate := by
  have adjacent (x y : Int) : { c with list := ms }.adjacent x y = c.adjacent x y := by
    rw [Bool.eq_iff_iff, adjacent_iff distinct, adjacent_iff distinct']
    exact same x y
  funext h
  simp only [evaluate, adjacent]

/-! ## Settings -/

/-- Items that are new are added one after another. -/
theorem foldl_of_nodup {seen : List Int} (nodup : (seen ++ ns).Nodup) :
    ns.foldl (fun seen n => if seen.contains n then seen else seen ++ [n]) seen = seen ++ ns := by
  induction ns generalizing seen with
  | nil => rw [List.foldl_nil, List.append_nil]
  | cons n ns ih =>
      have new : n ∉ seen := fun mem =>
        List.disjoint_of_nodup_append nodup mem List.mem_cons_self
      rw [List.append_cons] at nodup ⊢
      rw [List.foldl_cons, if_neg (mt List.contains_iff_mem.mp new), ih nodup]

theorem distinct_of_nodup (nodup : ns.Nodup) : distinct ns = ns := foldl_of_nodup nodup

variable {o : Json.Object} {vs ws : List Json}

theorem read_obj (o : Json.Object) : read (.obj o) =
    (Config.count (.obj o) ["janela", "window"] 6 2 Config.maxCount).map fun window =>
      ⟨window, (o.setting ["circular"]).flag false,
        distinct ((o.setting ["list", "lista"]).items.filterMap Token.readNumber?),
        Wheel.readNumbers (o.setting ["outputNumbers"]).items⟩ := by
  rw [read]
  simp only [Config.flag_obj, Config.list_obj]
  cases Config.count (.obj o) ["janela", "window"] 6 2 Config.maxCount <;> rfl

theorem list_of_read (settings : read (.obj o) = .ok c) (given : o.at "list" = .arr vs) :
    c.list = distinct (vs.filterMap Token.readNumber?) := by
  rw [read_obj] at settings
  obtain ⟨window, -, rfl⟩ := map_eq_ok.mp settings
  rw [Json.Object.setting_cons_of_at given rfl]
  rfl

theorem read_set_list (settings : read (.obj o) = .ok c) (ws : List Json) :
    read (.obj (Members.set o "list" (.arr ws))) =
      .ok { c with list := distinct (ws.filterMap Token.readNumber?) } := by
  have given : Json.Object.at (Members.set o "list" (.arr ws)) "list" = .arr ws := by
    rw [Json.Object.at_set, if_pos rfl]
  rw [read_obj] at settings ⊢
  obtain ⟨window, count, rfl⟩ := map_eq_ok.mp settings
  rw [Config.count, Config.find_obj] at count ⊢
  simp (disch := decide) only [Json.Object.setting_set_of_notMem, count]
  rw [Json.Object.setting_cons_of_at given rfl]
  rfl

/-- Settings are read as a condition of this kind that gives the same outcomes. -/
def SameOutcomes (subtype : String) (config : Config) (c : AdjacentInList) : Prop :=
  ∃ c', Condition.read subtype config = .ok (.adjacentInList c') ∧ c'.evaluate = c.evaluate

variable {subtype : String}

theorem read_iff : Condition.read subtype (.obj o) = .ok (.adjacentInList c) ↔
    Kind.ofSubtype subtype = .adjacentInList ∧ read (.obj o) = .ok c := by
  constructor
  · intro settings
    have kind : Kind.ofSubtype subtype = .adjacentInList := (kind_read settings).symm
    rw [Condition.read, kind] at settings
    obtain ⟨_, settings, ⟨⟩⟩ := map_eq_ok.mp settings
    exact ⟨kind, settings⟩
  · rintro ⟨kind, settings⟩
    rw [Condition.read, kind]
    exact map_eq_ok.mpr ⟨c, settings, rfl⟩

theorem sameOutcomes_set_list (settings : Condition.read subtype (.obj o) = .ok (.adjacentInList c))
    (nodup : c.list.Nodup) (nodup' : (ws.filterMap Token.readNumber?).Nodup)
    (same : ∀ x y, NextTo c.circular (ws.filterMap Token.readNumber?) x y ↔
      NextTo c.circular c.list x y) :
    SameOutcomes subtype (.obj (Members.set o "list" (.arr ws))) c := by
  obtain ⟨kind, settings⟩ := read_iff.mp settings
  have settings' := read_set_list settings ws
  rw [distinct_of_nodup nodup'] at settings'
  exact ⟨_, read_iff.mpr ⟨kind, settings'⟩, evaluate_eq_of_nextTo nodup nodup' same⟩

end AdjacentInList

open AdjacentInList (SameOutcomes) in
/-- Two spins in a row match if their numbers stand next to each other in the list, and neither the
direction in which the list is read makes a difference nor the number that a circle starts with. -/
theorem paired_adjacentInList {subtype : String} {o : Json.Object} {vs : List Json}
    {c : AdjacentInList} (settings : read subtype (.obj o) = .ok (.adjacentInList c))
    (given : o.at "list" = .arr vs) (distinct : (vs.filterMap Token.readNumber?).Nodup) :
    (∀ h, c.Paired (vs.filterMap Token.readNumber?) h) ∧
      SameOutcomes subtype (.obj (Members.set o "list" (.arr vs.reverse))) c ∧
      (c.circular → ∀ k,
        SameOutcomes subtype (.obj (Members.set o "list" (.arr (vs.rotate k)))) c) := by
  have list := AdjacentInList.list_of_read (AdjacentInList.read_iff.mp settings).2 given
  rw [AdjacentInList.distinct_of_nodup distinct] at list
  rw [← list] at distinct ⊢
  refine ⟨AdjacentInList.paired_evaluate distinct, ?_, fun circular k => ?_⟩
  · have reversed : vs.reverse.filterMap Token.readNumber? = c.list.reverse := by
      rw [list, List.filterMap_reverse]
    apply AdjacentInList.sameOutcomes_set_list settings distinct
    · rw [reversed]
      exact List.nodup_reverse.mpr distinct
    · rw [reversed]
      exact fun x y => nextTo_reverse
  · have rotated : (vs.rotate k).filterMap Token.readNumber? ~r c.list :=
      list ▸ filterMap_rotated (List.IsRotated.forall vs k) _
    apply AdjacentInList.sameOutcomes_set_list settings distinct
    · exact rotated.nodup_iff.mpr distinct
    · rw [circular]
      exact fun x y => nextTo_rotated rotated

/-- In the circle of 3, 26 and 0 the ends are next to each other, wherever the circle starts. -/
theorem paired_adjacentInList_circle : ∃ c : AdjacentInList,
    read "adjacent-in-list" (.obj [("list", .arr [.int 3, .str "26", .int 0]),
      ("circular", .bool true), ("window", .int 4)]) = .ok (.adjacentInList c) ∧
    (c.evaluate [.number 26, .number 0, .word "x", .number 3, .number 17]).passed ∧
    AdjacentInList.SameOutcomes "adjacent-in-list"
      (.obj [("list", .arr [.str "26", .int 0, .int 3]), ("circular", .bool true),
        ("window", .int 4)]) c := by
  have settings : read "adjacent-in-list" (.obj [("list", .arr [.int 3, .str "26", .int 0]),
      ("circular", .bool true), ("window", .int 4)]) =
        .ok (.adjacentInList ⟨4, true, [3, 26, 0], []⟩) := by rfl
  obtain ⟨paired, -, rotated⟩ := paired_adjacentInList settings rfl (by decide +kernel)
  refine ⟨_, settings, (paired _).passes.mpr ?_, rotated rfl 1⟩
  exact ⟨0, 3, ⟨[], [17], rfl⟩, .inl (.inr ⟨rfl, [26], rfl⟩)⟩

end Condition
end RouletteStrategy
