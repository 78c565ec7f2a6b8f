import RouletteStrategy.Proofs.Strategy.Artifact
import RouletteStrategy.Proofs.Strategy.Refusals

/-!
# Texts that are not loaded

A text gives a strategy exactly if it denotes an artifact that passes every check and whose parts
are compiled. Any other text is refused with what is wrong with the artifact, but for the errors
that escape the loader (`Artifact.Escapes`): the text is too deep to be read, its parts have no
bytes to digest, or, once the checks are passed, a defect breaks off the compilation.
-/

namespace RouletteStrategy.Artifact

variable {o mo go : Json.Object} {metadata graph : Json} {text : String} {e : Error}
  {s : Strategy}

/-- What is checked in an artifact before its checksum: the format and the two parts. -/
structure Framed (o mo go : Json.Object) : Prop where
  format : (o.at "format").asString? = some format
  metadata : (o.at "metadata").asObject? = some mo
  graph : (o.at "graph").asObject? = some go

/-- The errors that escape the loader, and the texts on which they do. -/
inductive Escapes (text : String) : Error → Prop where
  | tooDeep (deep : Json.Parser.parse text = .error .tooDeep) : Escapes text .tooDeepToRead
  | halves {o mo go : Json.Object} {run : Text.HalfRun}
    (parse : Json.Parser.parse text = .ok (.obj o)) (framed : Framed o mo go)
    (half : Text.halfRun? (digestText (.obj mo) (.obj go)) = some run) :
    Escapes text (.notEncodable run)
  | compilation {o mo go : Json.Object} {e : Error}
    (parse : Json.Parser.parse text = .ok (.obj o)) (verified : Verified o mo go)
    (broken : Strategy.BreaksOff (merged mo go) e) : Escapes text e

/-! ## Checks -/

/-- What is digested is no higher than the artifact. -/
theorem Framed.height_digestBody (h : Framed o mo go) :
    (digestBody (.obj mo) (.obj go)).height ≤ (Json.obj o).height := by
  have metadata := Json.height_lt_of_asObject? h.metadata
  have graph := Json.height_lt_of_asObject? h.graph
  rw [digestBody, Json.height, Json.heightOfMembers, Json.heightOfMembers, Json.heightOfMembers]
  omega

/-- What was read is low enough to be written, so only halves of pairs prevent a digest. -/
theorem checksum_eq_error (low : (digestBody metadata graph).height ≤ Json.Parser.maxOpen) :
    checksum metadata graph = .error e ↔
      ∃ run, Text.halfRun? (digestText metadata graph) = some run ∧ .notEncodable run = e := by
  rw [checksum, if_neg (Nat.not_lt_of_le low)]
  cases half : Text.halfRun? (digestText metadata graph) with
  | none => simp [half]
  | some run => simp [half]

theorem verifiedParts_of_halves (low : (Json.obj o).height ≤ Json.Parser.maxOpen)
    (framed : Framed o mo go) {run : Text.HalfRun}
    (half : Text.halfRun? (digestText (.obj mo) (.obj go)) = some run) :
    verifiedParts (.obj o) = .error (.notEncodable run) := by
  have check := (checksum_eq_error (framed.height_digestBody.trans low)).mpr ⟨run, half, rfl⟩
  simp only [verifiedParts, Json.members, framed.format, framed.metadata, framed.graph, check]
  rfl

theorem framed_or_fault (o : Json.Object) : (∃ mo go, Framed o mo go) ∨
    ∃ fault, verifiedParts (.obj o) = .error (.artifact fault) := by
  by_cases format : (o.at "format").asString? = some format
  · cases metadata : (o.at "metadata").asObject? with
    | none =>
        refine .inr ⟨.missingParts, ?_⟩
        simp only [verifiedParts, Json.members, format, metadata]
        rfl
    | some mo =>
        cases graph : (o.at "graph").asObject? with
        | none =>
            refine .inr ⟨.missingParts, ?_⟩
            simp only [verifiedParts, Json.members, format, metadata, graph]
            rfl
        | some go => exact .inl ⟨mo, go, format, metadata, graph⟩
  · refine .inr ⟨.unknownFormat, ?_⟩
    simp only [verifiedParts, Json.members]
    exact if_pos format

theorem Framed.verified_or_fault (framed : Framed o mo go) {sum : String}
    (check : checksum (.obj mo) (.obj go) = .ok sum) : Verified o mo go ∨
      ∃ fault, verifiedParts (.obj o) = .error (.artifact fault) := by
  have parts : verifiedParts (.obj o) =
      if (o.at "checksum").asString? ≠ some sum then .error (.artifact .checksumMismatch)
      else if (mo.at "schemaVersion").asString?.any (· ∈ supportedVersions) then .ok (mo, go)
      else .error (.artifact (.incompatibleVersion (mo.at "schemaVersion"))) := by
    simp only [verifiedParts, Json.members, framed.format, framed.metadata, framed.graph, check]
    rfl
  by_cases same : (o.at "checksum").asString? = some sum
  · by_cases version : (mo.at "schemaVersion").asString?.any (· ∈ supportedVersions)
    · exact .inl ⟨framed.format, framed.metadata, framed.graph, ⟨sum, check, same⟩, version⟩
    · rw [if_neg (not_not_intro same), if_neg version] at parts
      exact .inr ⟨_, parts⟩
  · rw [if_pos same] at parts
    exact .inr ⟨_, parts⟩

/-! ## Compilation -/

theorem compileParts_of_breaksOff (h : Strategy.BreaksOff (merged mo go) e) :
    compileParts mo go = .error e := by
  rw [compileParts, Strategy.compileFields_of_breaksOff .text h]
  cases h <;> rfl

/-- Parts that are not compiled have issues, or break off the compilation. -/
theorem fault_or_breaksOff (h : compileParts mo go = .error e) :
    (∃ fault, e = .artifact fault) ∨ Strategy.BreaksOff (merged mo go) e := by
  cases compiled : Strategy.compileFields .text (merged mo go) with
  | ok s => cases h.symm.trans (compileParts_eq_ok.mpr compiled)
  | error e' =>
      rcases Strategy.listsIssues_or_breaksOff .text compiled with issues | broken
      · rw [compileParts, compiled] at h
        cases issues with
        | graph issues | metadata issues =>
            cases h
            exact .inl ⟨_, rfl⟩
      · cases h.symm.trans (compileParts_of_breaksOff broken)
        exact .inr broken

/-! ## Loading -/

theorem load_of_escapes (h : Escapes text e) : load text = .error e := by
  cases h with
  | tooDeep deep => simp only [load, deep]
  | halves parse framed half =>
      rw [load_eq_bind parse,
        verifiedParts_of_halves (Json.Parser.height_parse parse) framed half]
      rfl
  | compilation parse verified broken =>
      rw [load_of_verified parse verified]
      exact compileParts_of_breaksOff broken

/-- An object passes the checks or is refused by them, or it has no bytes to digest. -/
theorem verified_or_fault_or_escapes (parse : Json.Parser.parse text = .ok (.obj o)) :
    (∃ mo go, Verified o mo go) ∨
    (∃ fault, load text = .error (.artifact fault)) ∨ ∃ e, Escapes text e := by
  have told : (∃ fault, verifiedParts (.obj o) = .error (.artifact fault)) →
      ∃ fault, load text = .error (.artifact fault) := by
    rintro ⟨fault, failed⟩
    refine ⟨fault, ?_⟩
    rw [load_eq_bind parse, failed]
    rfl
  rcases framed_or_fault o with ⟨mo, go, framed⟩ | failed
  · cases check : checksum (.obj mo) (.obj go) with
    | ok sum =>
        rcases framed.verified_or_fault check with verified | failed
        · exact .inl ⟨mo, go, verified⟩
        · exact .inr (.inl (told failed))
    | error e =>
        have low := framed.height_digestBody.trans (Json.Parser.height_parse parse)
        obtain ⟨run, half, -⟩ := (checksum_eq_error low).mp check
        exact .inr (.inr ⟨_, .halves parse framed half⟩)
  · exact .inr (.inl (told failed))

/-- What passes the checks is compiled or refused, or an error escapes. -/
theorem Verified.fault_or_escapes (verified : Verified o mo go)
    (parse : Json.Parser.parse text = .ok (.obj o)) (h : compileParts mo go = .error e) :
    (∃ fault, load text = .error (.artifact fault)) ∨ ∃ e, Escapes text e := by
  rcases fault_or_breaksOff h with ⟨fault, rfl⟩ | broken
  · exact .inl ⟨fault, (load_of_verified parse verified).trans h⟩
  · exact .inr ⟨e, .compilation parse verified broken⟩

theorem fault_or_escapes (h : load text = .error e) :
    (∃ fault, e = .artifact fault) ∨ Escapes text e := by
  -- a text has one error, so it is enough to know of any
  have told : (∃ fault, load text = .error (.artifact fault)) ∨ (∃ e, Escapes text e) →
      (∃ fault, e = .artifact fault) ∨ Escapes text e := by
    rintro (⟨fault, failed⟩ | ⟨e', escapes⟩)
    · exact .inl ⟨fault, Except.error.inj (h.symm.trans failed)⟩
    · obtain rfl := Except.error.inj (h.symm.trans (load_of_escapes escapes))
      exact .inr escapes
  cases parse : Json.Parser.parse text with
  | error fault =>
      cases fault with
      | malformed => exact told (.inl ⟨.notJson, by simp only [load, parse]⟩)
      | tooDeep => exact told (.inr ⟨_, .tooDeep parse⟩)
  | ok v =>
      cases v with
      | obj o =>
          rcases verified_or_fault_or_escapes parse with ⟨mo, go, verified⟩ | rest
          · rw [load_of_verified parse verified] at h
            exact told (verified.fault_or_escapes parse h)
          · exact told rest
      | _ => exact told (.inl ⟨.unknownFormat, by simp only [load, parse]; rfl⟩)

/-- A text is loaded exactly if it denotes an artifact that passes the checks and is compiled. Where
it is not, the artifact is at fault, but for the errors that escape. -/
theorem load_cases (text : String) :
    (∀ s, load text = .ok s ↔ ∃ o mo go, Json.Parser.parse text = .ok (.obj o) ∧
      Verified o mo go ∧ Strategy.compileFields .text (merged mo go) = .ok s) ∧
    (∀ e, load text = .error e → (∃ fault, e = .artifact fault) ∨ Escapes text e) ∧
    ∀ e, Escapes text e → load text = .error e :=
  ⟨fun _ => load_eq_ok, fun _ => fault_or_escapes, fun _ => load_of_escapes⟩

end RouletteStrategy.Artifact
