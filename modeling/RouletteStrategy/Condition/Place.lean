import RouletteStrategy.Condition.Basic
import RouletteStrategy.Condition.Config

/-! # Conditions on places of the wheel: neighbours, mirror and sectors -/

namespace RouletteStrategy.Condition

/-- The greatest radius that a setting may have. -/
def maxRadius : Nat := 18

/-- A recent number is close to a given number, or to the last one. -/
structure Neighbors where
  number : Option Int
  radius : Nat
  includeZero : Bool

namespace Neighbors

def read (config : Config) : Except Error Neighbors := do
  let number ← config.find ["numero", "numeroAlvo"]
  let radius ← config.count ["raio", "radius"] 2 0 maxRadius
  return ⟨Token.readNumber? number, radius, ← config.flag ["includeZero"] true⟩

/-- How many of the latest spins count as recent. -/
def window (c : Neighbors) : Nat := max (2 * c.radius) 12

def evaluate (c : Neighbors) (h : History) : Outcome :=
  let reference := c.number.or h.lastNumber?
  let params := [("raio", .ofNat c.radius), ("includeZero", .bool c.includeZero),
    ("referencia", .ofOption .int reference)]
  match reference with
  | none => .noMatch params
  | some n =>
    if (History.numbers (h.latest c.window)).any (Wheel.within c.radius · n) then
      let ns := Wheel.neighbours n c.radius
      .found (if c.includeZero then ns else ns.filter (· ≠ 0)) ("neighbors:" ++ toString n) params
    else .noMatch params

end Neighbors

/-- The number opposite the last one, with its neighbours. -/
structure Mirror where
  radius : Nat
  includeZero : Bool

namespace Mirror

def read (config : Config) : Except Error Mirror := do
  let radius ← config.count ["raio", "radius"] 0 0 maxRadius
  return ⟨radius, ← config.flag ["includeZero"] false⟩

/-- Zero counts among the neighbours as the setting says; the mirror itself always counts. -/
def evaluate (c : Mirror) (h : History) : Outcome :=
  let params := [("raio", .ofNat c.radius), ("includeZero", .bool c.includeZero),
    ("mirrorOf", .ofOption .int h.lastNumber?)]
  match h.lastNumber? with
  | none => .noMatch params
  | some n =>
    match Wheel.mirror? n with
    | none => .noMatch params
    | some m =>
      let ns := Wheel.neighbours m c.radius
      .found (m :: (if c.includeZero then 0 :: ns else ns.filter (· ≠ 0)))
        ("mirror:" ++ toString n) (params ++ [("espelho", .int m)])

end Mirror

/-- A sector of the wheel dominates the recent numbers. -/
inductive DominantSector where
  /-- The given sector has enough hits. -/
  | fixed (sector : Sector) (window least : Nat)
  /-- The sector with most hits has a large enough share. -/
  | auto (window : Nat) (leastShare : Binary64)

namespace DominantSector

/-- The sector that a name begins with, voisins for any other name. -/
def sectorOfName (name : String) : Sector :=
  if "tiers".toList.isPrefixOf name.toList then .tiers
  else if "orphel".toList.isPrefixOf name.toList then .orphelins
  else .voisins

def read (config : Config) : Except Error DominantSector := do
  let name ← config.word ["setor", "sector"] ""
  let auto ← config.flag ["auto"] false
  let share ← config.find ["minRatio"]
  if auto || !share.isNull || name == "" || name == "auto" then
    let window ← config.count ["janela", "window"] 18 3 Config.maxCount
    return .auto window (← config.share ["minRatio"] Binary64.zero)
  else
    let window ← config.count ["janela", "window"] 6 1 Config.maxCount
    let half := (window + 1) / 2
    return .fixed (sectorOfName name) window
      (← config.count ["frequenciaMinima"] half 1 Config.maxCount)

/-- How many of the numbers lie in a sector. -/
def hits (s : Sector) (ns : List Int) : Nat := ns.countP fun n => Wheel.sector? n == some s

/-- The sector with most hits, the first of those in a tie. -/
def leader (ns : List Int) : Sector :=
  Sector.all.foldl (fun best s => if hits best ns < hits s ns then s else best) .voisins

def evaluate : DominantSector → History → Outcome
  | .fixed s window least, h =>
    let params := [("setor", .str s.name), ("janela", .ofNat window),
      ("frequenciaMinima", .ofNat least)]
    let ns := h.numbers
    if ns.length < window then .noMatch params
    else
      let n := hits s (ns.drop (ns.length - window))
      let params := params ++ [("acertos", .ofNat n)]
      if n < least then .noMatch params else .found s.members ("sector:" ++ s.name) params
  | .auto window least, h =>
    let params := [("auto", .bool true), ("janela", .ofNat window), ("minRatio", .float least)]
    let ns := h.numbers
    let recent := ns.drop (ns.length - window)
    if recent.isEmpty then .noMatch params
    else
      let s := leader recent
      let share := Binary64.ofRatio false (hits s recent) recent.length
      let params := params ++ [("setor", .str s.name), ("ratio", .float (share.roundPlaces 4))]
      if share.lt least then .noMatch params
      else .found s.members ("sector:" ++ s.name) params

end DominantSector
end RouletteStrategy.Condition
