import Mealy.Executor.Sizes
import Mealy.Executor.Stream

/-! The evidence of an executor result (`executor_outcome_evidence`). It holds the frames and
once more the outcome of the last one, so that the bound of the ledger is reached long before
the bound of the output. -/

namespace Mealy.Executor
open Transaction Json Memories

/-! ### Building -/

def ExecutorTerminal.toJson : ExecutorTerminal → Value
  | succeeded output outputDigest =>
    .object [("output", output), ("output_digest", .string outputDigest), ("status", .string "succeeded")]
  | failed errorClass errorMessage retryable =>
    .object [("error_class", .string errorClass), ("error_message", .string errorMessage), ("retryable", .bool retryable),
      ("status", .string "failed")]

/-- A frame as a value, whose map sorts the keys. The line of the worker has the same fields. -/
def ExecutorFrame.toJson : ExecutorFrame → Value
  | started start =>
    .object [("attempt_id", .string (uuidText start.attemptId.id)),
      ("capability_token_digest", .string start.capabilityTokenDigest), ("effect_id", .string (uuidText start.effectId.id)),
      ("executable_identity_digest", .string start.executableIdentityDigest), ("fencing_token", .nat start.fencingToken),
      ("frameType", .string "started"), ("protocol_version", .string start.protocolVersion),
      ("request_evidence_digest", .string start.requestEvidenceDigest), ("sequence", .nat start.sequence)]
  | progress sequence message =>
    .object [("frameType", .string "progress"), ("message", .string message), ("sequence", .nat sequence)]
  | terminal sequence outcome =>
    .object [("frameType", .string "terminal"), ("outcome", outcome.toJson), ("sequence", .nat sequence)]

/-- The keys are in another order than in the frame itself. -/
theorem ExecutorTerminal.size_toJson (outcome : ExecutorTerminal) : outcome.toJson.size = outcome.encoded.size := by
  cases outcome <;> rw [toJson, encoded, size_object (by simp), size_object (by simp)] <;>
    simp only [List.map_cons, List.map_nil, List.sum_cons, List.sum_nil] <;> omega

theorem ExecutorFrame.size_toJson (frame : ExecutorFrame) : frame.toJson.size = frame.encoded.size := by
  cases frame <;> rw [toJson, encoded, size_object (by simp), size_object (by simp)] <;>
    simp only [List.map_cons, List.map_nil, List.sum_cons, List.sum_nil, ExecutorTerminal.size_toJson] <;> omega

/-- The bytes of the lines that carry the frames. -/
def frameBytes (frames : List ExecutorFrame) : Nat := (frames.map fun frame => frame.toJson.size + 1).sum

def ExecutorResult.evidence (result : ExecutorResult) (requestEvidenceDigest : String) : Value :=
  .object [("durationMs", .nat result.durationMs), ("frames", .array (result.frames.map ExecutorFrame.toJson)),
    ("requestEvidenceDigest", .string requestEvidenceDigest), ("terminal", result.terminal.toJson)]

/-- An executor error is given as its text. -/
def executorOutcomeEvidence (result : Except String ExecutorResult) (requestEvidenceDigest : String) :
    EffectAttemptOutcome × Value × Option String :=
  match result with
  | .ok result =>
    match result.terminal with
    | .succeeded .. => (.succeeded, result.evidence requestEvidenceDigest, none)
    | .failed errorClass .. => (.failed, result.evidence requestEvidenceDigest, some errorClass)
  | .error error =>
    (.outcomeUnknown,
      .object [("classification", .string "sandbox_result_unproven_after_dispatch"), ("executorError", .string error),
        ("requestEvidenceDigest", .string requestEvidenceDigest)],
      some "sandbox_dispatch_outcome_unknown")

/-! ### Recording -/

/-- The `CHECK` on `effect_outcome.evidence_json`. `length` counts characters. -/
def evidenceCheck (jsonValid : String → Bool) (evidenceJson : String) : Bool :=
  jsonValid evidenceJson ∧ 2 ≤ evidenceJson.length ∧ evidenceJson.length ≤ 65536

/-- The evidence that the ledger stores for a result. -/
def ExecutorResult.material (hash : DigestFunction) (request : ExecutorRequest) (result : ExecutorResult)
    (completedAt : Millis) : Except StoreError Value :=
  let (outcome, details, errorClass) := executorOutcomeEvidence (.ok result) (hash.digest request.toJson.render)
  effectOutcomeEvidenceMaterial request.effectId request.attemptId 0 outcome.kind details errorClass completedAt

/-- The ledger accepts and stores the evidence of a result, and where it is the evidence of the
last outcome, the observation of the effect is within the bound of a message. -/
def Recordable (hash : DigestFunction) (jsonValid : String → Bool) (request : ExecutorRequest) (result : ExecutorResult)
    (completedAt : Millis) : Prop :=
  ∃ material, result.material hash request completedAt = .ok material ∧ evidenceCheck jsonValid material.render = true ∧
    ∀ (s : Store) invocation attempt outcome revision content,
      s.loadTerminalProjection request.effectId invocation = .ok (revision, content) → revision < 2 ^ 63 →
      s.lastAttempt request.effectId = some (request.attemptId, attempt) →
      s.lastOutcome request.attemptId = some outcome → outcome.evidence = material → content.size ≤ 65536

/-! ### Sizes -/

section
variable {hash : DigestFunction} {jsonValid : String → Bool} {request : ExecutorRequest} {result : ExecutorResult}
  {completedAt : Millis} {material : Value}

theorem size_evidence (hash : DigestFunction) (some_ : result.frames ≠ []) (text) :
    (result.evidence (hash.digest text)).size =
      129 + (frameBytes result.frames + result.terminal.toJson.size + (Value.nat result.durationMs).size) := by
  have frames : (Value.array (result.frames.map ExecutorFrame.toJson)).size = frameBytes result.frames + 1 := by
    rw [size_array (by simpa using some_), List.map_map]
    rfl
  rw [ExecutorResult.evidence,
    size_object_of_keys 61 (by simp) (by simp only [List.map_cons, List.map_nil]; decide +kernel)]
  simp only [List.map_cons, List.map_nil, List.sum_cons, List.sum_nil, size_string, quotedSize_digest (hash.canonical _),
    frames]
  omega

theorem size_errorClass_le {errorClass : Option String} (short : ∀ value ∈ errorClass, value ≠ "" ∧ value.utf8ByteSize ≤ 128) :
    (errorClass.elim .null .string : Value).size ≤ 770 := by
  cases errorClass with
  | none => simp
  | some value =>
    have bytes := (short value rfl).2
    have escaped := quotedSize_le value
    have chars := length_le_utf8ByteSize value
    simp only [Option.elim_some, size_string]
    omega

theorem effectOutcomeEvidenceMaterial_size {effectId attemptId kind details errorClass}
    (ok : effectOutcomeEvidenceMaterial effectId attemptId 0 kind details errorClass completedAt = .ok material)
    (time : completedAt < 2 ^ 63) : 2 ≤ material.render.length ∧ material.size ≤ details.size + 1031 := by
  simp only [effectOutcomeEvidenceMaterial, eq_ok] at ok
  obtain ⟨_, _, _, short, rfl⟩ := ok
  have version : quotedSize effectOutcomeEvidenceContractVersion = 34 := by decide +kernel
  have kinds : quotedSize kind.text ≤ 17 := by cases kind <;> decide +kernel
  have digits : (Value.nat completedAt).size ≤ 19 := size_nat_le (by decide) (Nat.lt_trans time (by decide))
  obtain ⟨_, _, _, _, zero, _⟩ := fixed_sizes
  have class_ := size_errorClass_le short
  constructor
  · have opening : "\x7b".length = 1 := rfl
    have closing : "\x7d".length = 1 := rfl
    simp only [Value.render, String.length_append, opening, closing]
    omega
  rw [size_object_of_keys 113 (by simp) (by simp only [List.map_cons, List.map_nil]; decide +kernel)]
  simp only [List.map_cons, List.map_nil, List.sum_cons, List.sum_nil, size_string, quotedSize_uuidText, version, zero]
  omega

theorem projectedOutcome_eq {s : Store} {effectId effect value attemptId attempt outcome}
    (projected : s.projectedOutcome effectId effect = .ok value)
    (last : s.lastAttempt effectId = some (attemptId, attempt)) (recorded : s.lastOutcome attemptId = some outcome) :
    value = .object [("attemptId", .string (uuidText attemptId.id)), ("evidence", outcome.evidence),
      ("evidenceDigest", .string outcome.evidenceDigest.text), ("kind", .string outcome.kind.text)] := by
  unfold Store.projectedOutcome at projected
  split at projected <;> simp only [eq_ok, last, recorded, Option.isNone_some, Option.some.injEq, exists_eq_left',
    reduceCtorEq, Bool.false_eq_true, false_and, exists_false] at projected
  all_goals
    obtain ⟨_, _, rfl⟩ := projected
    rfl

theorem loadTerminalProjection_size {s : Store} {effectId invocation revision content attemptId attempt outcome}
    (projected : s.loadTerminalProjection effectId invocation = .ok (revision, content)) (small : revision < 2 ^ 63)
    (last : s.lastAttempt effectId = some (attemptId, attempt)) (recorded : s.lastOutcome attemptId = some outcome) :
    content.size ≤ outcome.evidence.size + 600 := by
  simp only [Store.loadTerminalProjection, eq_ok, Prod.mk.injEq] at projected
  obtain ⟨effect, _, _, _, _, member, rfl, rfl⟩ := projected
  rw [projectedOutcome_eq member last recorded]
  have kinds : quotedSize outcome.kind.text ≤ 17 := by cases outcome.kind <;> decide +kernel
  have statuses : quotedSize effect.status.text ≤ 19 := by cases effect.status <;> decide +kernel
  have version : quotedSize agentEffectObservationContractVersion = 35 := by decide +kernel
  have digits : (Value.nat effect.revision).size ≤ 19 := size_nat_le (by decide) (by omega)
  rw [observationContent, size_object_of_keys 103 (by simp) (by simp only [List.map_cons, List.map_nil]; decide +kernel)]
  simp only [List.map_cons, List.map_nil, List.sum_cons, List.sum_nil, size_string, quotedSize_uuidText, version,
    Digest.quotedSize_text]
  rw [size_object_of_keys 51 (by simp) (by simp only [List.map_cons, List.map_nil]; decide +kernel)]
  simp only [List.map_cons, List.map_nil, List.sum_cons, List.sum_nil, size_string, quotedSize_uuidText, Digest.quotedSize_text]
  omega

theorem fromFrames_parts {frames duration} (accepted : ExecutorResult.fromFrames hash request frames duration = .ok result) :
    result.frames = frames ∧ result.durationMs = duration ∧ frames ≠ [] ∧ validateTerminal hash result.terminal = .ok () := by
  simp only [ExecutorResult.fromFrames, eq_ok] at accepted
  obtain ⟨_, _, start, first, _, _, _, _, _, _, terminal, _, _, valid, rfl⟩ := accepted
  refine ⟨rfl, rfl, ?_, valid⟩
  rintro rfl
  simp at first

theorem material_eq_ok (request) (completedAt) (valid : validateTerminal hash result.terminal = .ok ()) :
    ∃ kind errorClass,
      result.material hash request completedAt = effectOutcomeEvidenceMaterial request.effectId request.attemptId 0 kind
        (result.evidence (hash.digest request.toJson.render)) errorClass completedAt ∧
      ((∃ material, result.material hash request completedAt = .ok material) ↔
        (result.evidence (hash.digest request.toJson.render)).size ≤ maximumEffectOutcomeDetailsBytes) := by
  obtain ⟨kind, errorClass, same, short⟩ : ∃ kind errorClass,
      result.material hash request completedAt = effectOutcomeEvidenceMaterial request.effectId request.attemptId 0 kind
        (result.evidence (hash.digest request.toJson.render)) errorClass completedAt ∧
      ∀ value ∈ errorClass, value ≠ "" ∧ value.utf8ByteSize ≤ 128 := by
    cases ended : result.terminal with
    | succeeded output outputDigest =>
      refine ⟨.succeeded, none, ?_, by simp⟩
      simp only [ExecutorResult.material, executorOutcomeEvidence, ended, EffectAttemptOutcome.kind]
    | failed errorClass errorMessage retryable =>
      refine ⟨.failed, some errorClass, ?_, ?_⟩
      · simp only [ExecutorResult.material, executorOutcomeEvidence, ended, EffectAttemptOutcome.kind]
      simp only [ended, validateTerminal, ensure_eq_ok, validateField, decide_eq_true_eq] at valid
      obtain ⟨⟨some_, short, _⟩, _⟩ := valid
      rintro value ⟨⟩
      refine ⟨?_, short⟩
      rintro rfl
      simp at some_
  refine ⟨kind, errorClass, same, ?_⟩
  have details : acceptsDetails "effect outcome evidence details" (result.evidence (hash.digest request.toJson.render)) =
      ensure ((result.evidence (hash.digest request.toJson.render)).size ≤ maximumEffectOutcomeDetailsBytes) _ := rfl
  simp only [same, effectOutcomeEvidenceMaterial, details, eq_ok]
  constructor
  · rintro ⟨_, _, fits, _⟩
    exact fits
  · intro fits
    exact ⟨_, ⟨⟩, fits, ⟨⟩, short, rfl⟩

end

/-- A result can be recorded and observed exactly if its frames, its outcome and the digits of
its duration leave room for the fixed text of the details. -/
theorem executor_result_recordable_iff (hash : DigestFunction) (jsonValid : String → Bool) (request : ExecutorRequest)
    (frames : List ExecutorFrame) (duration : Nat) (result : ExecutorResult)
    (accepted : ExecutorResult.fromFrames hash request frames duration = .ok result)
    (completedAt : Millis) (time : completedAt < 2 ^ 63)
    (printed : ∀ material, result.material hash request completedAt = .ok material → jsonValid material.render = true) :
    Recordable hash jsonValid request result completedAt ↔
      frameBytes frames + result.terminal.toJson.size + (Value.nat duration).size ≤ maximumEffectOutcomeDetailsBytes - 129 := by
  obtain ⟨rfl, rfl, some_, valid⟩ := fromFrames_parts accepted
  have size := size_evidence hash some_ request.toJson.render
  obtain ⟨kind, errorClass, same, accepts⟩ := material_eq_ok request completedAt valid
  simp only [maximumEffectOutcomeDetailsBytes] at accepts ⊢
  constructor
  · rintro ⟨material, ok, _⟩
    have details := accepts.mp ⟨material, ok⟩
    omega
  · intro fits
    obtain ⟨material, ok⟩ := accepts.mpr (by omega)
    obtain ⟨opened, envelope⟩ := effectOutcomeEvidenceMaterial_size (same ▸ ok) time
    have chars : material.render.length ≤ material.size := length_le_utf8ByteSize material.render
    refine ⟨material, ok, ?_, fun s invocation attempt outcome revision content projected small last recorded stored => ?_⟩
    · simp only [evidenceCheck, decide_eq_true_eq]
      exact ⟨printed material ok, opened, by omega⟩
    · have content_le := loadTerminalProjection_size projected small last recorded
      rw [stored] at content_le
      omega

/-! ### A result with a long output -/

def sampleTerminal (hash : DigestFunction) (n : Nat) : ExecutorTerminal :=
  .succeeded (.string (String.ofList (List.replicate n 'a')))
    (hash.digest (Value.string (String.ofList (List.replicate n 'a'))).render)

def sampleResult (hash : DigestFunction) (request : ExecutorRequest) (n : Nat) : ExecutorResult where
  frames := [.started (request.start hash), .terminal 1 (sampleTerminal hash n)]
  terminal := sampleTerminal hash n
  durationMs := 0

theorem sampleResult_accepted (hash) (request) (n) :
    ExecutorResult.fromFrames hash request (sampleResult hash request n).frames 0 = .ok (sampleResult hash request n) := by
  have terminal : validateTerminal hash (sampleTerminal hash n) = .ok () := by
    simp [validateTerminal, sampleTerminal, ensure_eq_ok, hash.canonical]
  simp only [ExecutorResult.fromFrames, eq_ok]
  exact ⟨⟨⟩, Nat.zero_le _, request.start hash, rfl, ⟨⟩, rfl, ⟨⟩, by simp [sampleResult, ExecutorFrame.sequence, ExecutorRequest.start],
    ⟨⟩, rfl, sampleTerminal hash n, rfl, ⟨⟩, terminal, rfl⟩

theorem size_sampleResult_terminal (hash) (request) (n) : (sampleResult hash request n).terminal.toJson.size = 117 + n := by
  obtain ⟨_, _, _, _, _, _, letter⟩ := fixed_sizes
  have outcome : (sampleTerminal hash n).encoded.size = _ := @size_succeededOutcome hash _
  rw [sampleResult, ExecutorTerminal.size_toJson, outcome, size_string, quotedSize_replicate, letter]
  omega

theorem frameBytes_sampleResult {hash request} (valid : request.validate hash = .ok ()) (n) :
    frameBytes (sampleResult hash request n).frames = 644 + (Value.nat request.fencingToken).size + n := by
  obtain ⟨_, _, _, _, _, _, letter⟩ := fixed_sizes
  have first : (ExecutorFrame.started (request.start hash)).encoded.size = _ := size_startedFrame valid
  have last : (ExecutorFrame.terminal 1 (sampleTerminal hash n)).encoded.size = _ := @size_succeededFrame hash _
  simp only [frameBytes, sampleResult, List.map_cons, List.map_nil, List.sum_cons, List.sum_nil, ExecutorFrame.size_toJson,
    first, last, size_string, quotedSize_replicate, letter]
  omega

def processRequest : ExecutorRequest :=
  { sampleRequest letterDigest 3 with maximumOutputBytes := processOutputBytes }

theorem processRequest_validate : processRequest.validate letterDigest = .ok () := by
  have valid := sampleRequest_validate letterDigest (n := 3) (by decide)
  simp only [ExecutorRequest.validate, eq_ok, exists_const] at valid ⊢
  obtain ⟨version, token, identity, duration, _, rest⟩ := valid
  exact ⟨version, token, identity, duration, by decide, rest⟩

theorem short_result_recordable : Recordable letterDigest (fun _ => true) processRequest (sampleResult letterDigest processRequest 3) 7 := by
  refine (executor_result_recordable_iff letterDigest _ processRequest _ 0 _ (sampleResult_accepted _ _ _) 7 (by decide)
    (fun _ _ => rfl)).mpr ?_
  rw [frameBytes_sampleResult processRequest_validate, size_sampleResult_terminal]
  decide +kernel

/-- A process prints 16 KiB, a third of its output bound, and the ledger refuses the evidence. -/
theorem long_result_refused : processRequest.validate letterDigest = .ok () ∧ ∃ result,
    ExecutorResult.fromFrames letterDigest processRequest result.frames 0 = .ok result ∧
      frameBytes result.frames ≤ processRequest.maximumOutputBytes ∧
      ∀ jsonValid completedAt, ¬ Recordable letterDigest jsonValid processRequest result completedAt := by
  have accepted := sampleResult_accepted letterDigest processRequest 16384
  obtain ⟨_, _, _, _, _, one, _⟩ := fixed_sizes
  have bytes := frameBytes_sampleResult processRequest_validate 16384
  rw [show processRequest.fencingToken = 1 from rfl, one] at bytes
  refine ⟨processRequest_validate, sampleResult letterDigest processRequest 16384, accepted, ?_, ?_⟩
  · rw [bytes]
    decide
  · rintro jsonValid completedAt ⟨material, ok, _⟩
    obtain ⟨_, _, some_, valid⟩ := fromFrames_parts accepted
    obtain ⟨_, _, _, accepts⟩ := material_eq_ok processRequest completedAt valid
    have details := accepts.mp ⟨material, ok⟩
    rw [size_evidence _ some_, bytes, size_sampleResult_terminal] at details
    simp only [maximumEffectOutcomeDetailsBytes] at details
    omega

end Mealy.Executor
