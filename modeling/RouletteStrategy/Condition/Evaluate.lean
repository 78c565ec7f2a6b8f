import RouletteStrategy.Condition.Hot
import RouletteStrategy.Condition.Lists
import RouletteStrategy.Condition.Place
import RouletteStrategy.Condition.Presence
import RouletteStrategy.Condition.Runs
import RouletteStrategy.Condition.Terminal

/-! # Conditions of every kind -/

namespace RouletteStrategy

inductive Condition where
  | repetition (c : Condition.Repetition)
  | absence (c : Condition.Absence)
  | trend (c : Condition.Trend)
  | neighbors (c : Condition.Neighbors)
  | mirror (c : Condition.Mirror)
  | specificNumber (c : Condition.SpecificNumber)
  | repeatNumber (c : Condition.RepeatNumber)
  | alternation (c : Condition.Alternation)
  | dominantSector (c : Condition.DominantSector)
  | hot (c : Condition.Hot)
  | sequence (c : Condition.Sequence)
  | recentInSet (c : Condition.RecentInSet)
  | adjacentInList (c : Condition.AdjacentInList)
  | terminalPattern (c : Condition.TerminalPattern)
  | break (c : Condition.Break)
  | timeWindow (c : Condition.TimeWindow)
  /-- A condition of a subtype that is not known. -/
  | unknown (subtype : String)

namespace Condition

/-- A subtype as reported: the text given, or the name of its kind. -/
def subtypeLabel (subtype : String) : String :=
  if subtype = "" then (Kind.ofSubtype subtype).name else subtype

/-- The condition of a subtype with its settings. -/
def read (subtype : String) (config : Config) : Except Error Condition :=
  match Kind.ofSubtype subtype with
  | .repetition => .repetition <$> Repetition.read config
  | .absence => .absence <$> Absence.read config
  | .trend => .trend <$> Trend.read config
  | .neighbors => .neighbors <$> Neighbors.read config
  | .mirror => .mirror <$> Mirror.read config
  | .specificNumber => .specificNumber <$> SpecificNumber.read config
  | .repeatNumber => .repeatNumber <$> RepeatNumber.read config
  | .alternation => .alternation <$> Alternation.read config
  | .dominantSector => .dominantSector <$> DominantSector.read config
  | .dozenHot => .hot <$> Hot.read .dozens config
  | .columnHot => .hot <$> Hot.read .columns config
  | .sequence => .sequence <$> Sequence.read config
  | .recentInSet => .recentInSet <$> RecentInSet.read config
  | .adjacentInList => .adjacentInList <$> AdjacentInList.read config
  | .terminalPattern => .terminalPattern <$> TerminalPattern.read config
  | .break => .break <$> Break.read config
  | .timeWindow => .timeWindow <$> TimeWindow.read config
  | .unknown => .ok (.unknown (subtypeLabel subtype))

def evaluate : Condition → History → Outcome
  | .repetition c => c.evaluate
  | .absence c => c.evaluate
  | .trend c => c.evaluate
  | .neighbors c => c.evaluate
  | .mirror c => c.evaluate
  | .specificNumber c => c.evaluate
  | .repeatNumber c => c.evaluate
  | .alternation c => c.evaluate
  | .dominantSector c => c.evaluate
  | .hot c => c.evaluate
  | .sequence c => c.evaluate
  | .recentInSet c => c.evaluate
  | .adjacentInList c => c.evaluate
  | .terminalPattern c => c.evaluate
  | .break c => c.evaluate
  | .timeWindow c => c.evaluate
  | .unknown subtype => fun _ => .noMatch [("subtype", .str subtype)]

end Condition
end RouletteStrategy
