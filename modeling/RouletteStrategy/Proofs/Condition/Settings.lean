import RouletteStrategy.Condition.Evaluate
import RouletteStrategy.Proofs.Text.Legible

/-!
# Settings that conditions read

Conditions of all kinds read their settings under plain keys only, so configurations that agree on
these give the same condition (`Condition.read_congr`).
-/

namespace RouletteStrategy

namespace Config

/-- The same settings under plain keys. -/
def Agree (c d : Config) : Prop := ∀ key, Text.Utf8.Plain key → lookup? c key = lookup? d key

namespace Agree

variable {c d : Config} (agree : Agree c d) {keys : List String}
include agree

theorem find (plain : ∀ key ∈ keys, Text.Utf8.Plain key) : find c keys = find d keys := by
  induction keys with
  | nil => rfl
  | cons key keys ih =>
      obtain ⟨first, rest⟩ := List.forall_mem_cons.mp plain
      rw [Config.find, Config.find, agree key first, ih rest]

variable (plain : ∀ key ∈ keys, Text.Utf8.Plain key)
include plain

theorem count (default low high : Nat) :
    count c keys default low high = count d keys default low high := by
  rw [Config.count, Config.count, agree.find plain]

theorem share (default : Binary64) : share c keys default = share d keys default := by
  rw [Config.share, Config.share, agree.find plain]

theorem flag (default : Bool) : flag c keys default = flag d keys default := by
  rw [Config.flag, Config.flag, agree.find plain]

theorem word (default : String) : word c keys default = word d keys default := by
  rw [Config.word, Config.word, agree.find plain]

theorem list : list c keys = list d keys := by
  rw [Config.list, Config.list, agree.find plain]

end Agree
end Config

namespace Condition

/-- A condition depends on nothing but the settings under plain keys. -/
theorem read_congr {c d : Config} (agree : c.Agree d) (subtype : String) :
    read subtype c = read subtype d := by
  unfold read
  cases Kind.ofSubtype subtype with
  | repetition => simp (disch := decide) only [Repetition.read, agree.word, agree.count]
  | absence => simp (disch := decide) only [Absence.read, agree.word, agree.count, agree.find]
  | trend => simp (disch := decide) only [Trend.read, agree.word, agree.count, agree.share]
  | neighbors => simp (disch := decide) only [Neighbors.read, agree.find, agree.count, agree.flag]
  | mirror => simp (disch := decide) only [Mirror.read, agree.count, agree.flag]
  | specificNumber =>
      simp (disch := decide) only [SpecificNumber.read, agree.find, agree.word, agree.count]
  | repeatNumber => simp (disch := decide) only [RepeatNumber.read, agree.find, agree.count]
  | alternation => simp (disch := decide) only [Alternation.read, agree.word, agree.count]
  | dominantSector =>
      simp (disch := decide) only [DominantSector.read, agree.word, agree.flag, agree.find,
        agree.count, agree.share]
  | dozenHot => simp (disch := decide) only [Hot.read, agree.count]
  | columnHot => simp (disch := decide) only [Hot.read, agree.count]
  | sequence => simp (disch := decide) only [Sequence.read, agree.list, agree.word, agree.count]
  | recentInSet => simp (disch := decide) only [RecentInSet.read, agree.count, agree.list]
  | adjacentInList =>
      simp (disch := decide) only [AdjacentInList.read, agree.count, agree.flag, agree.list]
  | terminalPattern =>
      simp (disch := decide) only [TerminalPattern.read, agree.count, agree.word, agree.flag]
  | «break» => simp (disch := decide) only [Break.read, agree.word, agree.count]
  | timeWindow => simp (disch := decide) only [TimeWindow.read, agree.count]
  | unknown => rfl

end Condition
end RouletteStrategy
