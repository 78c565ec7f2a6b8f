import RouletteStrategy.Proofs.Condition.Outcome
import RouletteStrategy.Proofs.Except

/-!
# What conditions contribute

Whatever its settings and the history are, a condition contributes wheel numbers in ascending order,
and none unless it matches. Zero comes in only where the settings let it
(`Condition.contributed_evaluate`).
-/

namespace RouletteStrategy.Condition

/-- Ascending wheel numbers, and neither numbers nor a reason without a match. -/
structure Outcome.Proper (o : Outcome) : Prop where
  ascending : o.numbers.Pairwise (· < ·)
  onWheel : ∀ n ∈ o.numbers, Wheel.OnWheel n
  silent : o.passed = false → o.numbers = [] ∧ o.reason = ""

theorem Outcome.Formed.proper {o : Outcome} (h : o.Formed) : o.Proper := by
  refine ⟨?_, fun n hn => h.onWheel hn, ?_⟩
  · rw [← h.normalize_numbers]
    exact Wheel.pairwise_lt_normalize _
  · intro failed
    cases h with
    | noMatch => exact ⟨rfl, rfl⟩
    | found => cases failed

/-! ## Kinds without numbers -/

theorem Break.numbers_evaluate (c : Break) (h : History) : (c.evaluate h).numbers = [] := by
  simp only [evaluate]
  split
  · rfl
  · exact Wheel.normalize_nil

theorem TimeWindow.numbers_evaluate (c : TimeWindow) (h : History) :
    (c.evaluate h).numbers = [] := by
  simp only [evaluate]
  split
  · exact Wheel.normalize_nil
  · rfl

/-! ## Zero -/

section Zero

variable {config : Config} {h : History}

theorem Neighbors.zero_notMem {c : Neighbors} (without : c.includeZero = false) :
    0 ∉ (c.evaluate h).numbers := by
  simp only [evaluate, without]
  split
  · exact List.not_mem_nil
  · split
    · simp [Outcome.found]
    · exact List.not_mem_nil

theorem Neighbors.flag_read {c : Neighbors} (h : read config = .ok c) :
    config.flag ["includeZero"] true = .ok c.includeZero := by
  obtain ⟨number, -, h⟩ := bind_eq_ok.mp h
  obtain ⟨radius, -, h⟩ := bind_eq_ok.mp h
  obtain ⟨includeZero, read, h⟩ := bind_eq_ok.mp h
  cases h
  exact read

theorem TerminalPattern.zero_notMem {c : TerminalPattern} (without : c.includeZero = false) :
    0 ∉ (c.evaluate h).numbers := by
  simp only [evaluate]
  split
  · exact List.not_mem_nil
  · simp [Outcome.found, numbersFor, without]

theorem TerminalPattern.flag_read {c : TerminalPattern} (h : read config = .ok c) :
    config.flag ["includeZero"] true = .ok c.includeZero := by
  obtain ⟨window, -, h⟩ := bind_eq_ok.mp h
  obtain ⟨name, -, h⟩ := bind_eq_ok.mp h
  obtain ⟨minStrength, -, h⟩ := bind_eq_ok.mp h
  obtain ⟨includeNeighbors, -, h⟩ := bind_eq_ok.mp h
  obtain ⟨radius, -, h⟩ := bind_eq_ok.mp h
  obtain ⟨includeZero, read, h⟩ := bind_eq_ok.mp h
  cases h
  exact read

/-- Zero comes from the mirror itself only. -/
theorem Mirror.mirror_of_zero_mem {c : Mirror} (without : c.includeZero = false)
    (zero : 0 ∈ (c.evaluate h).numbers) :
    ∃ n, h.lastNumber? = some n ∧ Wheel.mirror? n = some 0 := by
  simp only [evaluate, without] at zero
  split at zero
  · cases zero
  next n last =>
    split at zero
    · cases zero
    next m mirror =>
      have mem := (Wheel.mem_normalize.mp zero).1
      have same : 0 = m := by simpa using mem
      exact ⟨n, last, same ▸ mirror⟩

theorem Mirror.flag_read {c : Mirror} (h : read config = .ok c) :
    config.flag ["includeZero"] false = .ok c.includeZero := by
  obtain ⟨radius, -, h⟩ := bind_eq_ok.mp h
  obtain ⟨includeZero, read, h⟩ := bind_eq_ok.mp h
  cases h
  exact read

end Zero

/-! ## Conditions of every kind -/

theorem passed_of_unknown {subtype : String} {config : Config} {c : Condition}
    (h : read subtype config = .ok c) (unknown : Kind.ofSubtype subtype = .unknown)
    (spins : History) : (c.evaluate spins).passed = false := by
  rw [read, unknown] at h
  cases h
  rfl

/-- What a condition of a kind contributes with its settings, after some spins. -/
structure Outcome.Contributed (kind : Kind) (config : Config) (spins : History) (o : Outcome) :
    Prop where
  proper : o.Proper
  numberless : kind = .break ∨ kind = .timeWindow → o.numbers = []
  unknown : kind = .unknown → o.passed = false
  withoutZero : kind = .neighbors ∨ kind = .terminalPattern →
    config.flag ["includeZero"] true = .ok false → 0 ∉ o.numbers
  mirrored : kind = .mirror → config.flag ["includeZero"] false = .ok false → 0 ∈ o.numbers →
    ∃ n, spins.lastNumber? = some n ∧ Wheel.mirror? n = some 0

theorem contributed_evaluate {subtype : String} {config : Json.Object} {c : Condition}
    (h : read subtype (.obj config) = .ok c) (spins : History) :
    (c.evaluate spins).Contributed (.ofSubtype subtype) (.obj config) spins := by
  refine ⟨(formed_evaluate c spins).proper, ?_, ?_, ?_, ?_⟩
  · rintro (kind | kind) <;> rw [read, kind] at h <;> obtain ⟨c, -, rfl⟩ := map_eq_ok.mp h
    · exact c.numbers_evaluate spins
    · exact c.numbers_evaluate spins
  · intro kind
    exact passed_of_unknown h kind spins
  · rintro (kind | kind) without <;> rw [read, kind] at h <;>
      obtain ⟨c, settings, rfl⟩ := map_eq_ok.mp h
    · have excluded := (Neighbors.flag_read settings).symm.trans without
      exact Neighbors.zero_notMem (Except.ok.inj excluded)
    · have excluded := (TerminalPattern.flag_read settings).symm.trans without
      exact TerminalPattern.zero_notMem (Except.ok.inj excluded)
  · intro kind without zero
    rw [read, kind] at h
    obtain ⟨c, settings, rfl⟩ := map_eq_ok.mp h
    exact Mirror.mirror_of_zero_mem
      (Except.ok.inj ((Mirror.flag_read settings).symm.trans without)) zero

/-- The mirror of the latest number is zero, which comes in though the settings leave it out. -/
theorem contributed_evaluate_mirror : ∃ c, read "mirror" (.obj [("raio", .int 1)]) = .ok c ∧
    (c.evaluate [.word "preto", .number 5]).numbers = [0, 26, 32] ∧
    (c.evaluate [.word "preto", .number 5]).Contributed (.ofSubtype "mirror")
      (.obj [("raio", .int 1)]) [.word "preto", .number 5] := by
  have read : read "mirror" (.obj [("raio", .int 1)]) = .ok (.mirror ⟨1, false⟩) := by rfl
  refine ⟨_, read, by rfl, contributed_evaluate read _⟩

end RouletteStrategy.Condition
