import RouletteStrategy.Condition.Evaluate
import RouletteStrategy.Proofs.Except

/-!
# Windows: how far back conditions look

A condition with a window gives the same outcome whatever was spun before it, once the history is
long enough to fill the window (`Condition.windowed_evaluate`). Windows are cut by spins or, for
sectors and last digits, by numbers. Neighbours and sequences report something that older spins
change, but their verdict and their numbers are those of the window.
-/

namespace RouletteStrategy

namespace History

/-- The last items of a list are those of its second part, if that has so many. -/
theorem drop_append_of_le {α : Type} (xs : List α) {ys : List α} {n : Nat} (long : n ≤ ys.length) :
    (xs ++ ys).drop ((xs ++ ys).length - n) = ys.drop (ys.length - n) := by
  rw [List.length_append, Nat.add_sub_assoc long, List.drop_length_add_append]

variable (older : History) {recent : History} {n : Nat}

theorem latest_append (long : n ≤ recent.length) : latest n (older ++ recent) = latest n recent :=
  drop_append_of_le older long

theorem le_length_append (long : n ≤ recent.length) : n ≤ (older ++ recent).length := by
  rw [List.length_append]
  omega

/-- A history that was long enough is long enough with what was spun before. -/
theorem length_append_lt_iff (long : n ≤ recent.length) :
    (older ++ recent).length < n ↔ recent.length < n :=
  iff_of_false (Nat.not_lt.mpr (le_length_append older long)) (Nat.not_lt.mpr long)

theorem numbers_append (older recent : History) :
    numbers (older ++ recent) = numbers older ++ numbers recent := List.filterMap_append

theorem lastNumber?_append (older recent : History) :
    lastNumber? (older ++ recent) = (lastNumber? recent).or (lastNumber? older) := by
  rw [lastNumber?, numbers_append, List.getLast?_append, lastNumber?, lastNumber?]

end History

namespace Condition

/-- The part of the history on which an outcome depends. -/
inductive Reach where
  /-- So many of the latest spins. -/
  | spins (n : Nat)
  /-- So many of the latest numbers, words between them passed over. -/
  | numbers (n : Nat)
  /-- So many of the latest spins, but for the findings reported with the outcome. -/
  | verdict (n : Nat)
  | everything

namespace Reach

/-- Whether a history is long enough for all that is looked at. -/
def Covers : Reach → History → Prop
  | spins n, h | verdict n, h => n ≤ h.length
  | numbers n, h => n ≤ h.numbers.length
  | everything, _ => False

/-- Outcomes that are the same, apart from findings that depend on more. -/
def Agrees : Reach → Outcome → Outcome → Prop
  | verdict _, o, o' => o.passed = o'.passed ∧ o.numbers = o'.numbers
  | _, o, o' => o = o'

/-- The kinds that look at a window of spins whatever their settings are. -/
def spinKinds : List Kind :=
  [.absence, .trend, .alternation, .repeatNumber, .dozenHot, .columnHot, .recentInSet,
   .adjacentInList]

/-- Which kinds have a window, and with which settings. -/
structure Windowed (kind : Kind) (config : Config) (reach : Reach) : Prop where
  ofSpins : kind ∈ spinKinds → ∃ n, reach = .spins n
  ofNumbers : kind = .dominantSector ∨ kind = .terminalPattern → ∃ n, reach = .numbers n
  ofEvent : kind = .repetition → config.word ["evento"] "" ≠ .ok "" → ∃ n, reach = .spins n
  ofAbsence : kind = .specificNumber → config.word ["modo", "mode"] "ocorreu" = .ok "ausente" →
    ∃ n, reach = .spins n
  ofNeighbors : kind = .neighbors → ∃ n, reach = .verdict n
  ofPart : kind = .sequence → config.word ["modo", "mode"] "exato" = .ok "parcial" →
    ∃ n, reach = .verdict n

end Reach

def reach : Condition → Reach
  | .repetition (.ofEvent _ n) => .spins n
  | .absence c => .spins c.spins
  | .trend c => .spins c.window
  | .specificNumber c => if c.mode = "ausente" then .spins c.spins else .everything
  | .repeatNumber c => .spins c.count
  | .alternation c => .spins c.length
  | .hot c => .spins c.window
  | .recentInSet c => .spins c.window
  | .adjacentInList c => .spins c.window
  | .dominantSector (.fixed _ window _) | .dominantSector (.auto window _) => .numbers window
  | .terminalPattern c => .numbers c.window
  | .neighbors c => .verdict (max (2 * c.radius) 12)
  | .sequence c => if c.mode = "parcial" then .verdict (c.elements.length + 10) else .everything
  | .repetition (.ofAxis _ _) | .mirror _ | .break _ | .timeWindow _ | .unknown _ => .everything

/-! ## Windows of spins -/

section Spins

variable (older : History) {recent : History}

theorem Repetition.evaluate_append {event : String} {n : Nat} (long : n ≤ recent.length) :
    (ofEvent event n).evaluate (older ++ recent) = (ofEvent event n).evaluate recent := by
  simp only [evaluate, History.latest_append older long, History.le_length_append older long, long]

theorem Absence.evaluate_append {c : Absence} (long : c.spins ≤ recent.length) :
    c.evaluate (older ++ recent) = c.evaluate recent := by
  simp only [evaluate, History.latest_append older long, History.length_append_lt_iff older long]

theorem Trend.evaluate_append {c : Trend} (long : c.window ≤ recent.length) :
    c.evaluate (older ++ recent) = c.evaluate recent := by
  simp only [evaluate, History.latest_append older long]

theorem SpecificNumber.evaluate_append {c : SpecificNumber} (absent : c.mode = "ausente")
    (long : c.spins ≤ recent.length) : c.evaluate (older ++ recent) = c.evaluate recent := by
  have other : ¬ c.mode = "ocorreu" := by simp [absent]
  simp only [evaluate, if_neg other, History.latest_append older long,
    History.length_append_lt_iff older long]

theorem RepeatNumber.evaluate_append {c : RepeatNumber} (long : c.count ≤ recent.length) :
    c.evaluate (older ++ recent) = c.evaluate recent := by
  simp only [evaluate, History.latest_append older long, History.le_length_append older long, long]

theorem Alternation.evaluate_append {c : Alternation} (long : c.length ≤ recent.length) :
    c.evaluate (older ++ recent) = c.evaluate recent := by
  simp only [evaluate, History.latest_append older long, History.le_length_append older long, long]

theorem Hot.evaluate_append {c : Hot} (long : c.window ≤ recent.length) :
    c.evaluate (older ++ recent) = c.evaluate recent := by
  simp only [evaluate, History.latest_append older long, History.length_append_lt_iff older long]

theorem RecentInSet.evaluate_append {c : RecentInSet} (long : c.window ≤ recent.length) :
    c.evaluate (older ++ recent) = c.evaluate recent := by
  simp only [evaluate, History.latest_append older long]

theorem AdjacentInList.evaluate_append {c : AdjacentInList} (long : c.window ≤ recent.length) :
    c.evaluate (older ++ recent) = c.evaluate recent := by
  simp only [evaluate, History.latest_append older long]

end Spins

/-! ## Windows of numbers -/

section Numbers

variable (older : History) {recent : History}

theorem latestNumbers_append {n : Nat} (long : n ≤ recent.numbers.length) :
    (History.numbers (older ++ recent)).drop ((History.numbers (older ++ recent)).length - n) =
      recent.numbers.drop (recent.numbers.length - n) := by
  rw [History.numbers_append]
  exact History.drop_append_of_le older.numbers long

theorem DominantSector.evaluate_append {c : DominantSector}
    (covered : (Condition.dominantSector c).reach.Covers recent) :
    c.evaluate (older ++ recent) = c.evaluate recent := by
  cases c with
  | fixed s window least =>
      have long : window ≤ recent.numbers.length := covered
      have long' : window ≤ (History.numbers (older ++ recent)).length := by
        rw [History.numbers_append, List.length_append]
        omega
      simp only [evaluate, latestNumbers_append older long, if_neg (Nat.not_lt.mpr long),
        if_neg (Nat.not_lt.mpr long')]
  | auto window least =>
      have long : window ≤ recent.numbers.length := covered
      simp only [evaluate, latestNumbers_append older long]

theorem TerminalPattern.evaluate_append {c : TerminalPattern}
    (long : c.window ≤ recent.numbers.length) :
    c.evaluate (older ++ recent) = c.evaluate recent := by
  have same : c.find? (older ++ recent) = c.find? recent := by
    simp only [find?, latestNumbers_append older long]
  simp only [evaluate, same]

end Numbers

/-! ## Verdicts -/

section Verdicts

variable (older : History) {recent : History}

/-- Without a number of its own the condition refers to the last one. If that lies before the
window, no number of the window is close to it, and neither is one to none. -/
theorem Neighbors.evaluate_append {c : Neighbors} (long : max (2 * c.radius) 12 ≤ recent.length) :
    (c.evaluate (older ++ recent)).passed = (c.evaluate recent).passed ∧
      (c.evaluate (older ++ recent)).numbers = (c.evaluate recent).numbers := by
  have latest : History.latest c.window (older ++ recent) = History.latest c.window recent :=
    History.latest_append older long
  have reference : c.number.or (History.lastNumber? (older ++ recent)) =
      (c.number.or recent.lastNumber?).or older.lastNumber? := by
    rw [History.lastNumber?_append, Option.or_assoc]
  cases found : c.number.or recent.lastNumber? with
  | some n =>
      rw [found, Option.some_or] at reference
      simp only [evaluate, latest, reference, found, and_self]
  | none =>
      have none : History.numbers recent = [] :=
        List.getLast?_eq_none_iff.mp (Option.or_eq_none_iff.mp found).2
      have empty : History.numbers (History.latest c.window recent) = [] := by
        rw [History.numbers, List.filterMap_eq_nil_iff] at *
        exact fun t ht => none t (List.mem_of_mem_drop ht)
      simp only [evaluate, latest, found, empty, List.any_nil]
      split <;> exact ⟨rfl, rfl⟩

theorem Sequence.isSome_matchEnd?_append {c : Sequence} (part : c.mode = "parcial")
    (long : c.elements.length + 10 ≤ recent.length) :
    (c.matchEnd? (older ++ recent)).isSome = (c.matchEnd? recent).isSome := by
  have latest : History.latest (c.elements.length + lookBack) (older ++ recent) =
      History.latest (c.elements.length + lookBack) recent := History.latest_append older long
  have enough : ¬ recent.length < c.elements.length := by omega
  have enough' : ¬ (older ++ recent).length < c.elements.length := by
    rw [List.length_append]
    omega
  simp only [matchEnd?, if_neg enough, if_neg enough', if_pos part, latest, Option.isSome_map]

/-- Older spins move the place of a match, but add and remove none. -/
theorem Sequence.evaluate_append {c : Sequence} (part : c.mode = "parcial")
    (long : c.elements.length + 10 ≤ recent.length) :
    (c.evaluate (older ++ recent)).passed = (c.evaluate recent).passed ∧
      (c.evaluate (older ++ recent)).numbers = (c.evaluate recent).numbers := by
  have same := isSome_matchEnd?_append older part long
  unfold evaluate
  cases c.elements with
  | nil => exact ⟨rfl, rfl⟩
  | cons next rest =>
      cases h : c.matchEnd? recent <;> cases h' : c.matchEnd? (older ++ recent) <;>
        simp only [h, h', Option.isSome_none, Option.isSome_some, reduceCtorEq] at same
      · exact ⟨rfl, rfl⟩
      · exact ⟨rfl, rfl⟩

end Verdicts

/-! ## Conditions of every kind -/

theorem agrees_append {c : Condition} (older : History) {recent : History}
    (covered : c.reach.Covers recent) :
    c.reach.Agrees (c.evaluate (older ++ recent)) (c.evaluate recent) := by
  cases c with
  | repetition c =>
      cases c with
      | ofEvent event n => exact Repetition.evaluate_append older covered
      | ofAxis => exact covered.elim
  | absence c => exact Absence.evaluate_append older covered
  | trend c => exact Trend.evaluate_append older covered
  | specificNumber c =>
      by_cases absent : c.mode = "ausente"
      · simp only [reach, if_pos absent] at covered ⊢
        exact SpecificNumber.evaluate_append older absent covered
      · simp only [reach, if_neg absent] at covered
        exact covered.elim
  | repeatNumber c => exact RepeatNumber.evaluate_append older covered
  | alternation c => exact Alternation.evaluate_append older covered
  | hot c => exact Hot.evaluate_append older covered
  | recentInSet c => exact RecentInSet.evaluate_append older covered
  | adjacentInList c => exact AdjacentInList.evaluate_append older covered
  | dominantSector c =>
      have same := DominantSector.evaluate_append older covered
      cases c with
      | fixed | auto => exact same
  | terminalPattern c => exact TerminalPattern.evaluate_append older covered
  | neighbors c => exact Neighbors.evaluate_append older covered
  | sequence c =>
      by_cases part : c.mode = "parcial"
      · simp only [reach, if_pos part] at covered ⊢
        exact Sequence.evaluate_append older part covered
      · simp only [reach, if_neg part] at covered
        exact covered.elim
  | mirror | «break» | timeWindow | unknown => exact covered.elim

section Read

variable {config : Config}

theorem Repetition.exists_of_read {c : Repetition} (h : read config = .ok c)
    (named : config.word ["evento"] "" ≠ .ok "") : ∃ event n, c = .ofEvent event n := by
  obtain ⟨event, word, h⟩ := bind_eq_ok.mp h
  obtain ⟨axis, -, h⟩ := bind_eq_ok.mp h
  split at h
  next blank => exact absurd (blank ▸ word) named
  next =>
    obtain ⟨n, -, h⟩ := bind_eq_ok.mp h
    cases h
    exact ⟨event, n, rfl⟩

theorem SpecificNumber.mode_read {c : SpecificNumber} (h : read config = .ok c) :
    config.word ["modo", "mode"] "ocorreu" = .ok c.mode := by
  obtain ⟨number, -, h⟩ := bind_eq_ok.mp h
  obtain ⟨mode, word, h⟩ := bind_eq_ok.mp h
  obtain ⟨spins, -, h⟩ := bind_eq_ok.mp h
  cases h
  exact word

theorem Sequence.mode_read {c : Sequence} (h : read config = .ok c) :
    config.word ["modo", "mode"] "exato" = .ok c.mode := by
  obtain ⟨elements, -, h⟩ := bind_eq_ok.mp h
  obtain ⟨mode, word, h⟩ := bind_eq_ok.mp h
  obtain ⟨tolerance, -, h⟩ := bind_eq_ok.mp h
  cases h
  exact word

end Read

theorem windowed_reach {subtype : String} {config : Config} {c : Condition}
    (h : read subtype config = .ok c) : c.reach.Windowed (.ofSubtype subtype) config := by
  constructor
  case ofSpins =>
    intro kind
    simp only [Reach.spinKinds, List.mem_cons, List.not_mem_nil, or_false] at kind
    rcases kind with kind | kind | kind | kind | kind | kind | kind | kind <;>
      rw [read, kind] at h <;> obtain ⟨c, -, rfl⟩ := map_eq_ok.mp h <;> exact ⟨_, rfl⟩
  case ofNumbers =>
    rintro (kind | kind) <;> rw [read, kind] at h <;> obtain ⟨c, -, rfl⟩ := map_eq_ok.mp h
    · cases c <;> exact ⟨_, rfl⟩
    · exact ⟨_, rfl⟩
  case ofEvent =>
    intro kind named
    rw [read, kind] at h
    obtain ⟨c, settings, rfl⟩ := map_eq_ok.mp h
    obtain ⟨event, n, rfl⟩ := Repetition.exists_of_read settings named
    exact ⟨n, rfl⟩
  case ofAbsence =>
    intro kind absent
    rw [read, kind] at h
    obtain ⟨c, settings, rfl⟩ := map_eq_ok.mp h
    have mode := Except.ok.inj ((SpecificNumber.mode_read settings).symm.trans absent)
    exact ⟨c.spins, if_pos mode⟩
  case ofNeighbors =>
    intro kind
    rw [read, kind] at h
    obtain ⟨c, -, rfl⟩ := map_eq_ok.mp h
    exact ⟨_, rfl⟩
  case ofPart =>
    intro kind part
    rw [read, kind] at h
    obtain ⟨c, settings, rfl⟩ := map_eq_ok.mp h
    have mode := Except.ok.inj ((Sequence.mode_read settings).symm.trans part)
    exact ⟨_, if_pos mode⟩

/-- A condition that is read from any settings has the window of its kind, and once the history
fills it nothing that was spun before has an influence. -/
theorem windowed_evaluate {subtype : String} {config : Config} {c : Condition}
    (h : read subtype config = .ok c) :
    c.reach.Windowed (.ofSubtype subtype) config ∧
      ∀ older recent : History, c.reach.Covers recent →
        c.reach.Agrees (c.evaluate (older ++ recent)) (c.evaluate recent) :=
  ⟨windowed_reach h, fun older _ covered => agrees_append older covered⟩

/-- Three numbers of one sector fill the window, whatever words stand between them. -/
theorem windowed_evaluate_voisins :
    ∃ c, read "sector" (.obj [("setor", .str "Voisins"), ("janela", .int 3)]) = .ok c ∧
      c.reach.Covers [.number 22, .word "preto", .number 18, .number 29, .word "zero"] ∧
      (c.evaluate ([.number 27, .number 13] ++
        [.number 22, .word "preto", .number 18, .number 29, .word "zero"])).numbers =
          Wheel.normalize Sector.voisins.members := by
  have settings : read "sector" (.obj [("setor", .str "Voisins"), ("janela", .int 3)]) =
      .ok (.dominantSector (.fixed .voisins 3 2)) := by rfl
  have covered : (Condition.dominantSector (.fixed .voisins 3 2)).reach.Covers
      [.number 22, .word "preto", .number 18, .number 29, .word "zero"] := show 3 ≤ 3 by decide
  have same := (windowed_evaluate settings).2 [.number 27, .number 13] _ covered
  exact ⟨_, settings, covered, congrArg Outcome.numbers same⟩

end Condition
end RouletteStrategy
