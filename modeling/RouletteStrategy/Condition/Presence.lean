import RouletteStrategy.Condition.Basic
import RouletteStrategy.Condition.Config

/-!
# Conditions on what occurs

Absence and frequency of an event, occurrence and repetition of a number, and the length of the
history.
-/

namespace RouletteStrategy.Condition

/-- What must be absent: the event of the target, or a number, if the setting holds one. -/
inductive Subject where
  | target
  | number (n : Option Int)

/-- An event or a number did not occur in the latest spins. -/
structure Absence where
  target : String
  spins : Nat
  subject : Subject

namespace Absence

def read (config : Config) : Except Error Absence := do
  let target ← config.word ["alvo", "evento"] Category.red.name
  let spins ← config.count ["spins", "rodadasSemOcorrer"] 3 1 Config.maxCount
  let number ← config.find ["numeroAlvo", "numero"]
  let ofNumber := target == "numero" || !(← config.find ["numeroAlvo"]).isNull
  return ⟨target, spins, if ofNumber then .number (Token.readNumber? number) else .target⟩

/-- An absent category contributes the numbers it leaves out, an absent number itself. -/
def evaluate (a : Absence) (h : History) : Outcome :=
  let params := [("alvo", .str a.target), ("spins", .ofNat a.spins)]
  let window := h.latest a.spins
  if h.length < a.spins then .noMatch params
  else match a.subject with
    | .target =>
      let e := Event.ofName a.target
      if window.any e.isMatch then .noMatch params
      else .found e.complement ("absence:" ++ a.target) params
    | .number none => .noMatch params
    | .number (some n) =>
      let params := params ++ [("numero", .int n)]
      if window.any (Event.ofName (Event.nameOfNumber n)).isMatch then .noMatch params
      else .found [n] ("absence:numero:" ++ toString n) params

end Absence

/-- The share of an event among the latest spins. -/
structure Trend where
  event : String
  window : Nat
  leastShare : Binary64

namespace Trend

def read (config : Config) : Except Error Trend := do
  let event ← config.word ["evento"] Category.red.name
  let window ← config.count ["janela", "window"] 10 1 Config.maxCount
  return ⟨event, window, ← config.share ["frequenciaMinima"] (Binary64.ofRatio false 6 10)⟩

def evaluate (t : Trend) (h : History) : Outcome :=
  let params := [("evento", .str t.event), ("janela", .ofNat t.window),
    ("frequenciaMinima", .float t.leastShare)]
  let window := h.latest t.window
  let e := Event.ofName t.event
  if window.isEmpty then .noMatch params
  else
    let share := Binary64.ofRatio false (window.countP e.isMatch) window.length
    let params := params ++ [("ratio", .float (share.roundPlaces 4))]
    if share.lt t.leastShare then .noMatch params
    else .found e.numbers ("trend:" ++ t.event) params

end Trend

/-- A number occurred at any time, or did not occur in the latest spins. -/
structure SpecificNumber where
  number : Option Int
  mode : String
  spins : Nat

namespace SpecificNumber

def read (config : Config) : Except Error SpecificNumber := do
  let number ← config.find ["numero", "numeroAlvo"]
  let mode ← config.word ["modo", "mode"] "ocorreu"
  let spins ← config.count ["rodadasSemOcorrer", "spins"] 10 1 Config.maxCount
  return ⟨Token.readNumber? number, mode, spins⟩

def evaluate (s : SpecificNumber) (h : History) : Outcome :=
  let params := [("numero", .ofOption .int s.number), ("modo", .str s.mode)]
  match s.number with
  | none => .noMatch params
  | some n =>
    let e := Event.ofName (Event.nameOfNumber n)
    if s.mode = "ocorreu" then
      if h.any e.isMatch then .found [n] ("specific-number:" ++ toString n) params
      else .noMatch params
    else if s.mode = "ausente" then
      let params := params ++ [("rodadasSemOcorrer", .ofNat s.spins)]
      if h.length < s.spins ∨ (h.latest s.spins).any e.isMatch then .noMatch params
      else .found [n] ("specific-number:ausente:" ++ toString n) params
    else .noMatch params

end SpecificNumber

/-- The same number in the latest spins. -/
structure RepeatNumber where
  number : Option Int
  count : Nat

namespace RepeatNumber

def read (config : Config) : Except Error RepeatNumber := do
  let number ← config.find ["numero", "numeroAlvo"]
  return ⟨Token.readNumber? number, ← config.count ["ocorrencias"] 2 1 Config.maxCount⟩

def evaluate (r : RepeatNumber) (h : History) : Outcome :=
  let params := [("numero", .ofOption .int r.number), ("ocorrencias", .ofNat r.count)]
  match r.number with
  | none => .noMatch params
  | some n =>
    let e := Event.ofName (Event.nameOfNumber n)
    if r.count ≤ h.length ∧ (h.latest r.count).all e.isMatch then
      .found [n] ("repeat-number:" ++ toString n) params
    else .noMatch params

end RepeatNumber

/-- The length of the history lies between two bounds. It contributes no numbers. -/
structure TimeWindow where
  first : Nat
  last : Nat

namespace TimeWindow

def read (config : Config) : Except Error TimeWindow := do
  let first ← config.count ["inicio"] 0 0 Config.maxCount
  return ⟨first, ← config.count ["fim"] Config.maxCount 0 Config.maxCount⟩

def evaluate (t : TimeWindow) (h : History) : Outcome :=
  let params := [("inicio", .ofNat t.first), ("fim", .ofNat t.last), ("tamanho", .ofNat h.length)]
  if t.first ≤ h.length ∧ h.length ≤ t.last then .found [] "time-window" params
  else .noMatch params

end TimeWindow
end RouletteStrategy.Condition
