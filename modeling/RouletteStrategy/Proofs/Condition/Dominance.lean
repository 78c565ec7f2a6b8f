import RouletteStrategy.Proofs.Condition.Reading
import RouletteStrategy.Proofs.Spin.History
import RouletteStrategy.Proofs.Wheel.Numbers

/-!
# The dominant sector

The three sectors divide the wheel (`Wheel.sector?_eq_some_iff`, `Wheel.exists_sector`), so their
hits add up to the length of the window. The sector that the search keeps is the first of those with
most hits, and a condition that looks for it contributes its members
(`Condition.dominant_evaluate`).
-/

namespace RouletteStrategy

/-! ## Sectors of the wheel -/

namespace Sector

theorem mem_all (s : Sector) : s ∈ all := by
  cases s <;> decide

theorem onWheel_of_mem_members {s : Sector} {n : Int} (h : n ∈ s.members) : Wheel.OnWheel n := by
  have covered : ∀ s ∈ all, ∀ n ∈ s.members, Wheel.OnWheel n := by decide
  exact covered s s.mem_all n h

/-- No number lies in two sectors. -/
theorem disjoint : ∀ s ∈ all, ∀ t ∈ all, ∀ n ∈ s.members, n ∈ t.members → s = t := by
  decide

end Sector

namespace Wheel

/-- The sector of a number and the list of its members agree. -/
theorem sector?_eq_some_iff {n : Int} {s : Sector} : sector? n = some s ↔ n ∈ s.members := by
  have mem_of_found {t : Sector} (found : sector? n = some t) : n ∈ t.members := by
    unfold sector? at found
    have holds := List.find?_some found
    exact List.contains_iff_mem.mp holds
  refine ⟨mem_of_found, fun mem => ?_⟩
  cases found : sector? n with
  | none =>
      have absent := List.find?_eq_none.mp found s s.mem_all
      exact absurd (List.contains_iff_mem.mpr mem) absent
  | some t => rw [Sector.disjoint t t.mem_all s s.mem_all n (mem_of_found found) mem]

theorem exists_sector {n : Int} (onWheel : OnWheel n) : ∃ s, sector? n = some s := by
  have covered : ∀ m ∈ pockets, (sector? m).isSome := by decide
  exact Option.isSome_iff_exists.mp (covered n (mem_pockets.mpr onWheel))

end Wheel

namespace Binary64

theorem ofRatio_false_cases (n d : Nat) :
    (∃ m q h, ofRatio false n d = .finite false m q h) ∨ ofRatio false n d = .infinite false := by
  have parts (m : Nat) (q : Int) :
      (∃ m' q' h, ofParts false m q = .finite false m' q' h) ∨
        ofParts false m q = .infinite false := by
    unfold ofParts
    split
    next canonical => exact .inl ⟨_, _, canonical, rfl⟩
    next => exact .inr rfl
  unfold ofRatio
  split
  · exact .inl ⟨0, _, by decide, rfl⟩
  · dsimp only
    split
    · exact parts _ _
    · exact parts _ _

/-- No ratio is below a number that is not above zero. -/
theorem ofRatio_not_lt {y : Binary64} (finite : y.isFinite) (nonpos : y.units ≤ 0) (n d : Nat) :
    (ofRatio false n d).lt y = false := by
  rcases ofRatio_false_cases n d with ⟨m, q, h, eq⟩ | eq
  · rw [eq, Bool.eq_false_iff]
    intro below
    have below := (Json.lt_iff_of_finite rfl finite).mp below
    have nonneg : 0 ≤ (Binary64.finite false m q h).units := Int.natCast_nonneg _
    omega
  · rw [eq]
    cases y with
    | finite => simp [lt, rank]
    | infinite | nan => cases finite

end Binary64

namespace Condition.DominantSector

variable {ns : List Int}

/-! ## Hits -/

theorem hits_eq_countP (s : Sector) (ns : List Int) : hits s ns = ns.countP (· ∈ s.members) := by
  unfold hits
  congr 1
  funext n
  by_cases mem : n ∈ s.members
  · simp [mem, Wheel.sector?_eq_some_iff.mpr mem]
  · simp [mem, mt Wheel.sector?_eq_some_iff.mp mem]

/-- Each number of a list hits one of the sectors. -/
theorem sum_hits (onWheel : ∀ n ∈ ns, Wheel.OnWheel n) :
    hits .voisins ns + hits .tiers ns + hits .orphelins ns = ns.length := by
  induction ns with
  | nil => rfl
  | cons n ns ih =>
      obtain ⟨first, rest⟩ := List.forall_mem_cons.mp onWheel
      obtain ⟨s, found⟩ := Wheel.exists_sector first
      have ih := ih rest
      simp only [hits, List.countP_cons, found, List.length_cons] at ih ⊢
      cases s <;> simp <;> omega

/-- A sector with most hits, ahead of those that come before it. -/
structure Leads (ns : List Int) (s : Sector) : Prop where
  most : ∀ t : Sector, ns.countP (· ∈ t.members) ≤ ns.countP (· ∈ s.members)
  first : ∀ t : Sector, Sector.all.idxOf t < Sector.all.idxOf s →
    ns.countP (· ∈ t.members) < ns.countP (· ∈ s.members)
  third : ns.length ≤ 3 * ns.countP (· ∈ s.members)

/-- A search that keeps the sector in hand unless the next one is better. -/
theorem foldl_keeps_first (f : Sector → Nat) (s : Sector) (ss : List Sector) :
    ∃ before best after, ss.foldl (fun best s => if f best < f s then s else best) s = best ∧
      s :: ss = before ++ best :: after ∧ (∀ t ∈ before, f t < f best) ∧
      ∀ t ∈ after, f t ≤ f best := by
  induction ss using List.reverseRecOn with
  | nil => exact ⟨[], s, [], rfl, rfl, by simp, by simp⟩
  | append_singleton ss t ih =>
      obtain ⟨before, best, after, kept, order, ahead, behind⟩ := ih
      rw [List.foldl_append, kept, List.foldl_cons, List.foldl_nil, ← List.cons_append, order]
      by_cases better : f best < f t
      · refine ⟨before ++ best :: after, t, [], if_pos better, rfl, ?_, by simp⟩
        intro u hu
        rcases List.mem_append.mp hu with hu | hu
        · exact (ahead u hu).trans better
        · rcases List.mem_cons.mp hu with rfl | hu
          · exact better
          · exact (behind u hu).trans_lt better
      · refine ⟨before, best, after ++ [t], if_neg better, by simp, ahead, ?_⟩
        intro u hu
        rcases List.mem_append.mp hu with hu | hu
        · exact behind u hu
        · obtain rfl := List.mem_singleton.mp hu
          exact Nat.le_of_not_lt better

theorem mem_of_idxOf_lt {xs ys : List Sector} {s t : Sector}
    (earlier : (xs ++ s :: ys).idxOf t < (xs ++ s :: ys).idxOf s) : t ∈ xs := by
  by_contra notMem
  rw [List.idxOf_append_of_notMem notMem] at earlier
  by_cases mem : s ∈ xs
  · have short := List.idxOf_lt_length_of_mem mem
    rw [List.idxOf_append_of_mem mem] at earlier
    omega
  · rw [List.idxOf_append_of_notMem mem, List.idxOf_cons_self] at earlier
    omega

theorem leads_leader (onWheel : ∀ n ∈ ns, Wheel.OnWheel n) : Leads ns (leader ns) := by
  -- the first step of the search compares the first sector with itself
  have start : leader ns = [Sector.tiers, .orphelins].foldl
      (fun best s => if hits best ns < hits s ns then s else best) .voisins := by
    simp [leader, Sector.all]
  obtain ⟨before, best, after, kept, order, ahead, behind⟩ :=
    foldl_keeps_first (hits · ns) .voisins [.tiers, .orphelins]
  have eq : leader ns = best := start.trans kept
  have most (t : Sector) : hits t ns ≤ hits (leader ns) ns := by
    have listed : t ∈ before ++ best :: after := order ▸ t.mem_all
    rw [eq]
    rcases List.mem_append.mp listed with h | h
    · exact (ahead t h).le
    · rcases List.mem_cons.mp h with rfl | h
      · exact le_rfl
      · exact behind t h
  have sum := sum_hits onWheel
  have v := most .voisins
  have t := most .tiers
  have o := most .orphelins
  simp only [hits_eq_countP] at most ahead sum v t o
  refine ⟨most, fun u earlier => ?_, by omega⟩
  have listed : Sector.all = before ++ best :: after := order
  rw [eq, listed] at earlier
  rw [eq]
  exact ahead u (mem_of_idxOf_lt earlier)

/-! ## The search -/

/-- The latest numbers among the spins. -/
def latestNumbers (window : Nat) (h : History) : List Int :=
  h.numbers.drop (h.numbers.length - window)

/-- A search among some numbers ends with a sector. -/
structure Finds (ns : List Int) (least : Binary64) (s : Sector) (outcome : Outcome) : Prop where
  leads : Leads ns s
  reported : Members.get? outcome.params "setor" = some (.str s.name)
  passed_iff : outcome.passed ↔
    (Binary64.ofRatio false (ns.countP (· ∈ s.members)) ns.length).lt least = false
  mem_numbers : outcome.passed → ∀ n, n ∈ outcome.numbers ↔ n ∈ s.members

variable {h : History} {window : Nat} {least : Binary64}

theorem onWheel_of_mem_latestNumbers (normal : h.Normal) :
    ∀ n ∈ latestNumbers window h, Wheel.OnWheel n := fun n mem =>
  History.onWheel_of_mem_numbers normal n (List.mem_of_mem_drop mem)

theorem latestNumbers_ne_nil (wide : 0 < window) (some : h.numbers ≠ []) :
    latestNumbers window h ≠ [] := by
  intro none
  have short := List.drop_eq_nil_iff.mp none
  have long := List.length_pos_iff.mpr some
  omega

theorem evaluate_auto (least : Binary64) (some : latestNumbers window h ≠ []) : ∃ reason params,
    Members.get? params "setor" = .some (.str (leader (latestNumbers window h)).name) ∧
    (auto window least).evaluate h =
      if (Binary64.ofRatio false (hits (leader (latestNumbers window h)) (latestNumbers window h))
          (latestNumbers window h).length).lt least
      then .noMatch params
      else .found (leader (latestNumbers window h)).members reason params :=
  ⟨_, _, rfl, if_neg (mt List.isEmpty_iff.mp some)⟩

theorem finds_evaluate (least : Binary64) (normal : h.Normal) (some : latestNumbers window h ≠ []) :
    Finds (latestNumbers window h) least (leader (latestNumbers window h))
      ((auto window least).evaluate h) := by
  have leads : Leads _ (leader (latestNumbers window h)) :=
    leads_leader (onWheel_of_mem_latestNumbers normal)
  obtain ⟨reason, params, reported, outcome⟩ := evaluate_auto least some
  generalize latestNumbers window h = ns at leads reported outcome ⊢
  rw [hits_eq_countP] at outcome
  rw [outcome]
  split
  next below =>
    refine ⟨leads, reported, ?_, fun passed => absurd passed Bool.false_ne_true⟩
    simp [Outcome.noMatch, below]
  next enough =>
    refine ⟨leads, reported, ?_, fun _ n => ?_⟩
    · simpa [Outcome.found] using enough
    · rw [Outcome.found, Wheel.mem_normalize]
      exact and_iff_left_of_imp Sector.onWheel_of_mem_members

/-! ## Settings of the search -/

variable {o : Json.Object}

/-- The settings that decide on the search are read first. -/
theorem read_obj (o : Json.Object) : read (.obj o) =
    if isAuto o then
      Config.count (.obj o) ["janela", "window"] 18 3 Config.maxCount >>= fun window =>
        Config.share (.obj o) ["minRatio"] Binary64.zero >>= fun least => .ok (.auto window least)
    else
      let sector := sectorOfName ((o.setting ["setor", "sector"]).wordOr "")
      Config.count (.obj o) ["janela", "window"] 6 1 Config.maxCount >>= fun window =>
        Config.count (.obj o) ["frequenciaMinima"] ((window + 1) / 2) 1 Config.maxCount >>=
          fun least => .ok (.fixed sector window least) := by
  rw [read, Config.word_obj, Config.flag_obj, Config.find_obj]
  rfl

theorem exists_auto_of_read (auto : isAuto o) {c : DominantSector}
    (settings : read (.obj o) = .ok c) :
    ∃ window least, c = .auto window least ∧
      (o.setting ["janela", "window"]).Clamped 3 Config.maxCount 18 window ∧
      (o.setting ["minRatio"]).ClampedShare Binary64.zero least := by
  rw [read_obj, if_pos auto] at settings
  obtain ⟨window, count, settings⟩ := bind_eq_ok.mp settings
  obtain ⟨least, share, settings⟩ := bind_eq_ok.mp settings
  cases settings
  exact ⟨window, least, rfl, Config.clamped_of_count (by decide) count,
    Config.clampedShare_of_share share⟩

/-- A value that asks for no share above zero, as null does. -/
def Lenient (v : Json) : Prop :=
  ∃ x, v.finiteNumber? = .ok x ∧ ∀ y ∈ x, y.units ≤ 0

theorem units_of_lenient {v : Json} (lenient : Lenient v)
    (share : v.ClampedShare Binary64.zero least) : least.isFinite ∧ least.units ≤ 0 := by
  obtain ⟨x, denotes, nonpos⟩ := lenient
  cases share with
  | default => exact ⟨rfl, le_rfl⟩
  | number denotes' finite nearest =>
      cases denotes.symm.trans denotes'
      have given := nonpos _ rfl
      have lower := nearest.lower
      have closest := nearest.least 0 le_rfl (Int.natCast_nonneg _)
      exact ⟨finite, by omega⟩

end Condition.DominantSector

namespace Condition

open DominantSector (isAuto latestNumbers Finds Lenient)

/-- The sector that the latest numbers hit most often is found, and a condition that asks for no
share of them matches. -/
theorem dominant_evaluate {subtype : String} {o : Json.Object}
    (kind : Kind.ofSubtype subtype = .dominantSector) (auto : isAuto o) :
    FailsIff .numberTooLarge
        ((o.setting ["janela", "window"]).IsHuge ∨ (o.setting ["minRatio"]).IsHuge)
        (read subtype (.obj o)) ∧
      ∀ c, read subtype (.obj o) = .ok c → ∃ window least,
        c = .dominantSector (.auto window least) ∧
        (o.setting ["janela", "window"]).Clamped 3 Config.maxCount 18 window ∧
        (o.setting ["minRatio"]).ClampedShare Binary64.zero least ∧
        ∀ h : History, h.Normal → h.numbers ≠ [] →
          (∃ s, Finds (latestNumbers window h) least s (c.evaluate h)) ∧
          (Lenient (o.setting ["minRatio"]) → (c.evaluate h).passed) := by
  refine ⟨?_, fun c settings => ?_⟩
  · refine (reads_read o subtype).fails.congr ?_
    rw [kind, Kind.numberSettings, if_pos auto]
    simp
  · rw [read, kind] at settings
    obtain ⟨_, given, ⟨⟩⟩ := map_eq_ok.mp settings
    obtain ⟨window, least, rfl, count, share⟩ := DominantSector.exists_auto_of_read auto given
    refine ⟨window, least, rfl, count, share, fun h normal some => ?_⟩
    have wide : 0 < window := lt_of_lt_of_le (by decide) (count.bounds (by decide)).1
    have finds := DominantSector.finds_evaluate least normal
      (DominantSector.latestNumbers_ne_nil wide some)
    refine ⟨⟨_, finds⟩, fun lenient => finds.passed_iff.mpr ?_⟩
    obtain ⟨finite, nonpos⟩ := DominantSector.units_of_lenient lenient share
    exact Binary64.ofRatio_not_lt finite nonpos _ _

/-- Two sectors with two of the latest four numbers each: the first one in the order is found. -/
theorem dominant_evaluate_tie : ∃ c h,
    read "Sector" (.obj [("janela", .int 4), ("minRatio", .int 0)]) = .ok c ∧
    h = [.number 36, .number 27, .word "x", .number 22, .number 13, .number 18] ∧
    Finds [27, 22, 13, 18] Binary64.zero .voisins (c.evaluate h) ∧ (c.evaluate h).passed := by
  have settings : read "Sector" (.obj [("janela", .int 4), ("minRatio", .int 0)]) =
      .ok (.dominantSector (.auto 4 Binary64.zero)) := by rfl
  have kind : Kind.ofSubtype "Sector" = .dominantSector := by decide +kernel
  have normal : ∀ t ∈ [Token.number 36, .number 27, .word "x", .number 22, .number 13, .number 18],
      t.Normal := by decide +kernel
  obtain ⟨-, found⟩ := dominant_evaluate (o := [("janela", .int 4), ("minRatio", .int 0)]) kind rfl
  obtain ⟨_, _, ⟨⟩, -, -, found⟩ := found _ settings
  obtain ⟨⟨s, finds⟩, passes⟩ := found _ normal (by decide)
  refine ⟨_, _, settings, rfl, ?_, passes ⟨_, rfl, by decide⟩⟩
  cases s with
  | voisins => exact finds
  | tiers => exact absurd (finds.leads.first .voisins (by decide)) (by decide)
  | orphelins => exact absurd (finds.leads.most .voisins) (by decide)

end Condition
end RouletteStrategy
