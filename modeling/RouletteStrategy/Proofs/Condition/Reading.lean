import RouletteStrategy.Condition.Evaluate
import RouletteStrategy.Proofs.Json.Clamping

/-!
# Conditions read from their settings

The settings of a node are an object. From an object a condition of any kind is read, with its
numbers within their bounds, unless a setting that the kind reads as a number is an integer beyond
every float (`Condition.reads_read`).
-/

namespace RouletteStrategy

/-- The value of the first of some names that holds something other than null, or null. -/
def Json.Object.setting (o : Json.Object) (names : List String) : Json :=
  (names.findSome? fun name => (Members.get? o name).filter (!·.isNull)).getD .null

/-! ## Settings -/

namespace Json.Object

variable {o : Json.Object} {name : String} {names : List String} {v : Json}

theorem setting_cons (o : Json.Object) (name : String) (names : List String) :
    o.setting (name :: names) = if (o.at name).isNull then o.setting names else o.at name := by
  rw [setting, List.findSome?_cons, Object.at]
  cases Members.get? o name with
  | none => rfl
  | some v => cases v <;> rfl

theorem setting_cons_of_at (value : o.at name = v) (given : v.isNull = false) :
    o.setting (name :: names) = v := by
  rw [setting_cons, value, given, if_neg Bool.false_ne_true]

theorem setting_cons_of_null (missing : o.at name = .null) :
    o.setting (name :: names) = o.setting names := by
  rw [setting_cons, missing]
  rfl

theorem at_set (o : Json.Object) (key : String) (v : Json) (name : String) :
    Object.at (Members.set o key v) name = if key = name then v else o.at name := by
  rw [Object.at, Members.get?_set]
  split_ifs <;> rfl

/-- Settings under other names stay as they are. -/
theorem setting_set_of_notMem {key : String} (other : key ∉ names) :
    Object.setting (Members.set o key v) names = o.setting names := by
  induction names with
  | nil => rfl
  | cons name names ih =>
      rw [List.mem_cons, not_or] at other
      rw [setting_cons, setting_cons, at_set, if_neg other.1, ih other.2]

end Json.Object

namespace Config

variable {o : Json.Object} {names : List String}

theorem find_obj (o : Json.Object) (names : List String) :
    find (.obj o) names = .ok (o.setting names) := by
  induction names with
  | nil => rfl
  | cons name names ih =>
      rw [find, lookup?, Json.Object.setting, List.findSome?_cons]
      cases (Members.get? o name).filter (!·.isNull) with
      | none => exact ih
      | some v => rfl

theorem flag_obj (o : Json.Object) (names : List String) (default : Bool) :
    flag (.obj o) names default = .ok ((o.setting names).flag default) := by
  rw [flag, find_obj]
  rfl

theorem word_obj (o : Json.Object) (names : List String) (default : String) :
    word (.obj o) names default = .ok ((o.setting names).wordOr default) := by
  rw [word, find_obj]
  rfl

theorem list_obj (o : Json.Object) (names : List String) :
    list (.obj o) names = .ok (o.setting names).items := by
  rw [list, find_obj]
  rfl

theorem failsIff_count (o : Json.Object) (names : List String) (default low high : Nat) :
    FailsIff .numberTooLarge (o.setting names).IsHuge (count (.obj o) names default low high) := by
  rw [count, find_obj]
  refine (((o.setting names).failsIff_clampInt _ _ _).bind (q := False) fun i _ => ?_).congr ?_
  · exact FailsIff.ok _
  · exact or_iff_left id

theorem failsIff_share (o : Json.Object) (names : List String) (default : Binary64) :
    FailsIff .numberTooLarge (o.setting names).IsHuge (share (.obj o) names default) := by
  rw [share, find_obj]
  exact (o.setting names).failsIff_clampFloat _ _ _

theorem clamped_of_count {default low high n : Nat} (bounds : low ≤ high)
    (h : count (.obj o) names default low high = .ok n) :
    (o.setting names).Clamped low high default n := by
  rw [count, find_obj] at h
  obtain ⟨i, read, h⟩ : ∃ i, (o.setting names).clampInt low high default = .ok i ∧
    Except.ok i.toNat = .ok n := bind_eq_ok.mp h
  obtain rfl := Except.ok.inj h
  exact Json.clamped_of_clampInt bounds read

section First

variable {name : String}

/-- A value that is given under the first name. -/
theorem find_of_at {v : Json} (value : o.at name = v) (given : v.isNull = false) :
    find (.obj o) (name :: names) = .ok v := by
  rw [find_obj, Json.Object.setting_cons_of_at value given]

/-- A text that is given under the first name. -/
theorem word_of_at {s : String} (value : o.at name = .str s) (named : Text.strip s ≠ "")
    (default : String) : word (.obj o) (name :: names) default = .ok (Text.fold s) := by
  rw [word_obj, Json.Object.setting_cons_of_at value rfl]
  exact congrArg Except.ok (if_neg named)

/-- A count that is given as an integer under the first name. -/
theorem count_of_at {low n : Nat} (value : o.at name = .ofNat n) (bound : n ≤ maxCount)
    (default : Nat) :
    count (.obj o) (name :: names) default low maxCount = .ok (max low n) := by
  have small : (n : Int).natAbs < 2 ^ 53 := by
    simp only [maxCount] at bound
    omega
  have moved : (max (low : Int) (min maxCount n)).toNat = max low n := by omega
  rw [count, find_obj, Json.Object.setting_cons_of_at value rfl, ← moved]
  change (Json.int n).clampInt low maxCount default >>= (fun i => .ok i.toNat) = _
  rw [Json.clampInt_int small]
  rfl

end First

theorem clampedShare_of_share {default x : Binary64}
    (h : share (.obj o) names default = .ok x) : (o.setting names).ClampedShare default x := by
  rw [share, find_obj] at h
  exact Json.clampedShare_of_clampFloat h

end Config

/-! ## Readings -/

/-- A reading that fails if one of the settings of some names is an integer beyond every float, and
gives a result with a property otherwise. -/
structure Reads {α : Type} (o : Json.Object) (settings : List (List String)) (P : α → Prop)
    (x : Except Error α) : Prop where
  fails : FailsIff .numberTooLarge (∃ names ∈ settings, (o.setting names).IsHuge) x
  gives : ∀ a, x = .ok a → P a

namespace Reads

variable {α β : Type} {o : Json.Object} {settings : List (List String)} {names : List String}
  {P : α → Prop} {Q : β → Prop} {x : Except Error α}

theorem ok {a : α} (h : P a) : Reads o [] P (.ok a) where
  fails := (FailsIff.ok a).congr (iff_of_false not_false (by simp))
  gives := by
    rintro _ ⟨rfl⟩
    exact h

theorem map {f : α → β} (hx : Reads o settings P x) (h : ∀ a, P a → Q (f a)) :
    Reads o settings Q (f <$> x) where
  fails := hx.fails.map f
  gives := by
    intro b hb
    obtain ⟨a, read, rfl⟩ := map_eq_ok.mp hb
    exact h a (hx.gives a read)

/-- What is read under some names first, and what is read then. -/
theorem bind {y : Except Error β} {f : β → Except Error α}
    (hy : FailsIff .numberTooLarge (o.setting names).IsHuge y)
    (hf : ∀ b, y = .ok b → Reads o settings P (f b)) : Reads o (names :: settings) P (y >>= f) where
  fails := by
    refine (hy.bind fun b hb => (hf b hb).fails).congr ?_
    rw [List.exists_mem_cons_iff]
  gives := by
    intro a ha
    obtain ⟨b, read, ha⟩ := bind_eq_ok.mp ha
    exact (hf b read).gives a ha

theorem count {default low high : Nat} {f : Nat → Except Error α}
    (bounds : low ≤ default ∧ default ≤ high)
    (hf : ∀ n, low ≤ n ∧ n ≤ high → Reads o settings P (f n)) :
    Reads o (names :: settings) P (Config.count (.obj o) names default low high >>= f) := by
  refine bind (Config.failsIff_count o names default low high) fun n read => hf n ?_
  exact (Config.clamped_of_count (bounds.1.trans bounds.2) read).bounds bounds

theorem share {default : Binary64} {f : Binary64 → Except Error α} (hdefault : default.IsShare)
    (hf : ∀ y, y.IsShare → Reads o settings P (f y)) :
    Reads o (names :: settings) P (Config.share (.obj o) names default >>= f) := by
  refine bind (Config.failsIff_share o names default) fun y read => hf y ?_
  exact (Config.clampedShare_of_share read).isShare hdefault

theorem find {f : Json → Except Error α} (hf : Reads o settings P (f (o.setting names))) :
    Reads o settings P (Config.find (.obj o) names >>= f) := by
  rwa [Config.find_obj]

theorem flag {default : Bool} {f : Bool → Except Error α}
    (hf : Reads o settings P (f ((o.setting names).flag default))) :
    Reads o settings P (Config.flag (.obj o) names default >>= f) := by
  rwa [Config.flag_obj]

theorem word {default : String} {f : String → Except Error α}
    (hf : Reads o settings P (f ((o.setting names).wordOr default))) :
    Reads o settings P (Config.word (.obj o) names default >>= f) := by
  rwa [Config.word_obj]

theorem list {f : List Json → Except Error α}
    (hf : Reads o settings P (f (o.setting names).items)) :
    Reads o settings P (Config.list (.obj o) names >>= f) := by
  rwa [Config.list_obj]

end Reads

/-! ## The numbers of each kind -/

namespace Condition

/-- Whether a sector is looked for by its share. -/
def DominantSector.isAuto (o : Json.Object) : Bool :=
  let name := (o.setting ["setor", "sector"]).wordOr ""
  (o.setting ["auto"]).flag false || !(o.setting ["minRatio"]).isNull || name == "" ||
    name == "auto"

/-- The names of the settings that a kind reads as numbers. -/
def Kind.numberSettings (o : Json.Object) : Kind → List (List String)
  | .repetition =>
    if (o.setting ["evento"]).wordOr "" = "" then [["minRun", "ocorrencias"]]
    else [["ocorrencias", "minRun"]]
  | .absence => [["spins", "rodadasSemOcorrer"]]
  | .trend => [["janela", "window"], ["frequenciaMinima"]]
  | .neighbors | .mirror => [["raio", "radius"]]
  | .specificNumber => [["rodadasSemOcorrer", "spins"]]
  | .repeatNumber => [["ocorrencias"]]
  | .alternation => [["comprimento", "length"]]
  | .dominantSector =>
    [["janela", "window"], if DominantSector.isAuto o then ["minRatio"] else ["frequenciaMinima"]]
  | .dozenHot | .columnHot => [["janela", "window"], ["frequenciaMinima"]]
  | .sequence => [["tolerancia"]]
  | .recentInSet | .adjacentInList => [["janela", "window"]]
  | .terminalPattern => [["janela", "window"], ["minStrength"], ["neighborRadius"]]
  | .break => [["minimo", "ocorrencias"]]
  | .timeWindow => [["inicio"], ["fim"]]
  | .unknown => []

/-- A number of spins, or of hits among them. -/
def IsCount (n : Nat) : Prop := 1 ≤ n ∧ n ≤ Config.maxCount

/-- The numbers of a condition are within their bounds. -/
def InBounds : Condition → Prop
  | .repetition (.ofEvent _ n) | .repetition (.ofAxis _ n) => IsCount n
  | .absence c => IsCount c.spins
  | .trend c => IsCount c.window ∧ c.leastShare.IsShare
  | .neighbors c => c.radius ≤ maxRadius
  | .mirror c => c.radius ≤ maxRadius
  | .specificNumber c => IsCount c.spins
  | .repeatNumber c => IsCount c.count
  | .alternation c => 2 ≤ c.length ∧ c.length ≤ Config.maxCount
  | .dominantSector (.fixed _ window least) => IsCount window ∧ IsCount least
  | .dominantSector (.auto window least) =>
    (3 ≤ window ∧ window ≤ Config.maxCount) ∧ least.IsShare
  | .hot c => IsCount c.window ∧ IsCount c.least
  | .sequence c => c.tolerance ≤ c.elements.length
  | .recentInSet c => IsCount c.window
  | .adjacentInList c => 2 ≤ c.window ∧ c.window ≤ Config.maxCount
  | .terminalPattern c => (2 ≤ c.window ∧ c.window ≤ Config.maxCount) ∧
    (1 ≤ c.minStrength ∧ c.minStrength ≤ 3) ∧ c.radius ≤ maxRadius
  | .break c => IsCount c.least
  | .timeWindow c => c.first ≤ Config.maxCount ∧ c.last ≤ Config.maxCount
  | .unknown _ => True

variable {o : Json.Object}

/-- A count within its bounds is read as it is given. -/
theorem IsCount.count_eq {name : String} {names : List String} {n : Nat} (isCount : IsCount n)
    (value : o.at name = .ofNat n) (default : Nat) :
    Config.count (.obj o) (name :: names) default 1 Config.maxCount = .ok n := by
  rw [Config.count_of_at value isCount.2, max_eq_right isCount.1]

theorem Repetition.read_ofEvent {event : String} {n : Nat}
    (word : (o.setting ["evento"]).wordOr "" = event) (named : event ≠ "")
    (count : Config.count (.obj o) ["ocorrencias", "minRun"] 2 1 Config.maxCount = .ok n) :
    read (.obj o) = .ok (.ofEvent event n) := by
  refine bind_eq_ok.mpr ⟨event, (Config.word_obj ..).trans (congrArg _ word), ?_⟩
  refine bind_eq_ok.mpr ⟨_, Config.word_obj .., ?_⟩
  rw [if_neg named]
  exact bind_eq_ok.mpr ⟨n, count, rfl⟩

theorem Repetition.read_ofAxis {n : Nat} (unnamed : (o.setting ["evento"]).wordOr "" = "")
    (count : Config.count (.obj o) ["minRun", "ocorrencias"] 2 1 Config.maxCount = .ok n) :
    read (.obj o) = .ok (.ofAxis ((o.setting ["eixo"]).wordOr "cor") n) := by
  refine bind_eq_ok.mpr ⟨"", (Config.word_obj ..).trans (congrArg _ unnamed), ?_⟩
  refine bind_eq_ok.mpr ⟨_, Config.word_obj .., ?_⟩
  rw [if_pos rfl]
  exact bind_eq_ok.mpr ⟨n, count, rfl⟩

variable (o)

theorem Repetition.reads : Reads o (Kind.numberSettings o .repetition)
    (fun c => InBounds (.repetition c)) (read (.obj o)) := by
  refine .word (.word ?_)
  rw [Kind.numberSettings]
  split
  · exact .count (by decide) fun n bounds => .ok bounds
  · exact .count (by decide) fun n bounds => .ok bounds

theorem Absence.reads : Reads o (Kind.numberSettings o .absence)
    (fun c => InBounds (.absence c)) (read (.obj o)) :=
  .word <| .count (by decide) fun _ bounds => .find <| .find <| .ok bounds

theorem Trend.reads : Reads o (Kind.numberSettings o .trend)
    (fun c => InBounds (.trend c)) (read (.obj o)) :=
  .word <| .count (by decide) fun _ window => .share ⟨rfl, by decide, by decide⟩ fun _ least =>
    .ok ⟨window, least⟩

theorem Neighbors.reads : Reads o (Kind.numberSettings o .neighbors)
    (fun c => InBounds (.neighbors c)) (read (.obj o)) :=
  .find <| .count (by decide) fun _ radius => .flag <| .ok radius.2

theorem Mirror.reads : Reads o (Kind.numberSettings o .mirror)
    (fun c => InBounds (.mirror c)) (read (.obj o)) :=
  .count (by decide) fun _ radius => .flag <| .ok radius.2

theorem SpecificNumber.reads : Reads o (Kind.numberSettings o .specificNumber)
    (fun c => InBounds (.specificNumber c)) (read (.obj o)) :=
  .find <| .word <| .count (by decide) fun _ spins => .ok spins

theorem RepeatNumber.reads : Reads o (Kind.numberSettings o .repeatNumber)
    (fun c => InBounds (.repeatNumber c)) (read (.obj o)) :=
  .find <| .count (by decide) fun _ count => .ok count

theorem Alternation.reads : Reads o (Kind.numberSettings o .alternation)
    (fun c => InBounds (.alternation c)) (read (.obj o)) :=
  .word <| .count (by decide) fun _ length => .ok length

theorem DominantSector.reads : Reads o (Kind.numberSettings o .dominantSector)
    (fun c => InBounds (.dominantSector c)) (read (.obj o)) := by
  refine .word <| .flag <| .find ?_
  show Reads o _ _ (if isAuto o then _ else _)
  rw [Kind.numberSettings]
  by_cases auto : isAuto o
  · rw [if_pos auto, if_pos auto]
    exact .count (by decide) fun _ window => .share ⟨rfl, by decide, by decide⟩ fun _ least =>
      .ok ⟨window, least⟩
  · rw [if_neg auto, if_neg auto]
    refine .count (by decide) fun window bounds => ?_
    have half : 1 ≤ (window + 1) / 2 ∧ (window + 1) / 2 ≤ Config.maxCount := by omega
    exact .count half fun _ least => .ok ⟨bounds, least⟩

theorem Hot.reads (grouping : Grouping) : Reads o [["janela", "window"], ["frequenciaMinima"]]
    (fun c => InBounds (.hot c)) (read grouping (.obj o)) :=
  .count (by decide) fun _ window => .count (by decide) fun _ least => .ok ⟨window, least⟩

theorem Sequence.reads : Reads o (Kind.numberSettings o .sequence)
    (fun c => InBounds (.sequence c)) (read (.obj o)) :=
  .list <| .word <| .count ⟨le_rfl, Nat.zero_le _⟩ fun _ tolerance => .ok tolerance.2

theorem RecentInSet.reads : Reads o (Kind.numberSettings o .recentInSet)
    (fun c => InBounds (.recentInSet c)) (read (.obj o)) :=
  .count (by decide) fun _ window => .list <| .list <| .ok window

theorem AdjacentInList.reads : Reads o (Kind.numberSettings o .adjacentInList)
    (fun c => InBounds (.adjacentInList c)) (read (.obj o)) :=
  .count (by decide) fun _ window => .flag <| .list <| .list <| .ok window

theorem TerminalPattern.reads : Reads o (Kind.numberSettings o .terminalPattern)
    (fun c => InBounds (.terminalPattern c)) (read (.obj o)) :=
  .count (by decide) fun _ window => .word <| .count (by decide) fun _ strength => .flag <|
    .count (by decide) fun _ radius => .flag <| .ok ⟨window, strength, radius.2⟩

theorem Break.reads : Reads o (Kind.numberSettings o .break)
    (fun c => InBounds (.break c)) (read (.obj o)) :=
  .word <| .count (by decide) fun _ least => .ok least

theorem TimeWindow.reads : Reads o (Kind.numberSettings o .timeWindow)
    (fun c => InBounds (.timeWindow c)) (read (.obj o)) :=
  .count (by decide) fun _ first => .count (by decide) fun _ last => .ok ⟨first.2, last.2⟩

/-- From an object a condition is read with its numbers within bounds, unless one of them is an
integer beyond every float. -/
theorem reads_read (subtype : String) :
    Reads o (Kind.numberSettings o (.ofSubtype subtype)) InBounds (read subtype (.obj o)) := by
  unfold read
  cases Kind.ofSubtype subtype with
  | repetition => exact (Repetition.reads o).map fun _ => id
  | absence => exact (Absence.reads o).map fun _ => id
  | trend => exact (Trend.reads o).map fun _ => id
  | neighbors => exact (Neighbors.reads o).map fun _ => id
  | mirror => exact (Mirror.reads o).map fun _ => id
  | specificNumber => exact (SpecificNumber.reads o).map fun _ => id
  | repeatNumber => exact (RepeatNumber.reads o).map fun _ => id
  | alternation => exact (Alternation.reads o).map fun _ => id
  | dominantSector => exact (DominantSector.reads o).map fun _ => id
  | dozenHot => exact (Hot.reads o .dozens).map fun _ => id
  | columnHot => exact (Hot.reads o .columns).map fun _ => id
  | sequence => exact (Sequence.reads o).map fun _ => id
  | recentInSet => exact (RecentInSet.reads o).map fun _ => id
  | adjacentInList => exact (AdjacentInList.reads o).map fun _ => id
  | terminalPattern => exact (TerminalPattern.reads o).map fun _ => id
  | «break» => exact (Break.reads o).map fun _ => id
  | timeWindow => exact (TimeWindow.reads o).map fun _ => id
  | unknown => exact .ok trivial

variable {o : Json.Object} {subtype : String} {c : Condition}

theorem inBounds_read (h : read subtype (.obj o) = .ok c) : c.InBounds :=
  (reads_read o subtype).gives c h

def kind : Condition → Kind
  | .repetition _ => .repetition
  | .absence _ => .absence
  | .trend _ => .trend
  | .neighbors _ => .neighbors
  | .mirror _ => .mirror
  | .specificNumber _ => .specificNumber
  | .repeatNumber _ => .repeatNumber
  | .alternation _ => .alternation
  | .dominantSector _ => .dominantSector
  | .hot c => c.grouping.kind
  | .sequence _ => .sequence
  | .recentInSet _ => .recentInSet
  | .adjacentInList _ => .adjacentInList
  | .terminalPattern _ => .terminalPattern
  | .break _ => .break
  | .timeWindow _ => .timeWindow
  | .unknown _ => .unknown

theorem Hot.grouping_read {grouping : Grouping} {config : Config} {c : Hot}
    (h : read grouping config = .ok c) : c.grouping = grouping := by
  obtain ⟨window, -, h⟩ := bind_eq_ok.mp h
  obtain ⟨least, -, h⟩ := bind_eq_ok.mp h
  cases h
  rfl

/-- A condition is of the kind of its subtype. -/
theorem kind_read {config : Config} (h : read subtype config = .ok c) :
    c.kind = Kind.ofSubtype subtype := by
  unfold read at h
  cases kind : Kind.ofSubtype subtype with
  | unknown =>
      rw [kind] at h
      cases h
      rfl
  | dozenHot | columnHot =>
      rw [kind] at h
      obtain ⟨c, settings, rfl⟩ := map_eq_ok.mp h
      rw [Condition.kind, Hot.grouping_read settings]
      rfl
  | _ =>
      rw [kind] at h
      obtain ⟨c, -, rfl⟩ := map_eq_ok.mp h
      rfl

end Condition
end RouletteStrategy
