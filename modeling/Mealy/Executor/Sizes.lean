import Mealy.Executor.Protocol

/-! How many bytes the frames of the protocol take. The keys and digests of a frame have a
fixed size, so that the rest of its fields decides whether it fits. -/

namespace Mealy.Executor
open Transaction Json Memories

theorem quotedSize_digest {text} (digest : isSha256Digest text = true) : quotedSize text = 66 := by
  simp only [isSha256Digest, decide_eq_true_eq, List.all_eq_true] at digest
  obtain ⟨bytes, hex⟩ := digest
  rw [quotedSize_ascii, bytes]
  intro c member
  have range := hex c member
  refine ⟨by omega, by omega, ?_, ?_⟩
  · rintro rfl
    exact absurd range (by decide)
  · rintro rfl
    exact absurd range (by decide)

theorem fixed_sizes : quotedSize executorProtocolVersion = 19 ∧ quotedSize "started" = 9 ∧ quotedSize "terminal" = 10 ∧
    quotedSize "succeeded" = 11 ∧ (Value.nat 0).size = 1 ∧ (Value.nat 1).size = 1 ∧ escapedSize 'a' = 1 := by
  decide +kernel

def ExecutorRequest.fieldBytes (request : ExecutorRequest) : Nat :=
  request.normalizedArguments.size + quotedSize request.capabilityToken +
    (Value.array (request.readableRoots.map ExecutorMount.toJson)).size +
    (Value.array (request.writableRoots.map ExecutorMount.toJson)).size +
    (Value.array (request.networkDestinations.map .string)).size + (Value.array (request.secretHandles.map .string)).size +
    (Value.array (request.allowedEnvironmentVariables.map .string)).size +
    ((request.idempotencyKey.map Value.string).getD .null).size + quotedSize (PolicyProfile.text request.profile) +
    (Value.bool request.allowProcessSpawn).size + (Value.nat request.fencingToken).size +
    (Value.nat request.maximumDurationMs).size + (Value.nat request.maximumOutputBytes).size +
    (Value.nat request.maximumMemoryBytes).size + (Value.nat request.maximumProcesses).size

theorem validate_digests {hash : DigestFunction} {request : ExecutorRequest} (valid : request.validate hash = .ok ()) :
    request.protocolVersion = executorProtocolVersion ∧ isSha256Digest request.executableIdentityDigest = true ∧
      request.normalizedArguments.size ≤ maximumArgumentBytes ∧ isSha256Digest request.argumentsDigest = true := by
  simp only [ExecutorRequest.validate, eq_ok, exists_const] at valid
  obtain ⟨version, _, identity, _, _, _, _, _, _, _, _, _, _, _, size, digest⟩ := valid
  exact ⟨version, identity, size, digest ▸ hash.canonical _⟩

theorem size_toJson {hash : DigestFunction} {request : ExecutorRequest} (valid : request.validate hash = .ok ()) :
    request.toJson.size = 617 + request.fieldBytes := by
  obtain ⟨version, identity, _, digest⟩ := validate_digests valid
  obtain ⟨protocol, _⟩ := fixed_sizes
  rw [ExecutorRequest.toJson, size_object_of_keys 389 (by simp) (by simp only [List.map_cons, List.map_nil]; decide +kernel)]
  simp only [List.map_cons, List.map_nil, List.sum_cons, List.sum_nil, size_string, quotedSize_uuidText, version, protocol,
    quotedSize_digest identity, quotedSize_digest digest, ExecutorRequest.fieldBytes]
  omega

/-- The worker reads a valid request exactly if its fields leave room for the fixed text of
the frame. The arguments alone may take the whole bound. -/
theorem valid_request_readable (hash : DigestFunction) (request : ExecutorRequest)
    (valid : request.validate hash = .ok ()) :
    readRequest request.toJson = .ok () ↔ request.fieldBytes ≤ maximumRequestBytes - 617 := by
  rw [readRequest, ensure_eq_ok, size_toJson valid]
  simp only [maximumRequestBytes]
  omega

def sampleRequest (hash : DigestFunction) (n : Nat) : ExecutorRequest where
  protocolVersion := executorProtocolVersion
  effectId := ⟨1⟩
  attemptId := ⟨2⟩
  fencingToken := 1
  capabilityToken := "a-valid-one-use-capability-token"
  executableIdentityDigest := hash.digest "worker"
  profile := .observe
  readableRoots := []
  writableRoots := []
  networkDestinations := []
  secretHandles := []
  allowProcessSpawn := false
  allowedEnvironmentVariables := []
  idempotencyKey := none
  normalizedArguments := .string (String.ofList (List.replicate n 'a'))
  argumentsDigest := hash.digest (Value.string (String.ofList (List.replicate n 'a'))).render
  maximumDurationMs := 1000
  maximumOutputBytes := 4096
  maximumMemoryBytes := 256 * 1024 * 1024
  maximumProcesses := 0

theorem sampleRequest_arguments (hash) (n) : (sampleRequest hash n).normalizedArguments.size = n + 2 := by
  obtain ⟨_, _, _, _, _, _, letter⟩ := fixed_sizes
  rw [sampleRequest, size_string, quotedSize_replicate, letter, Nat.mul_one]

theorem sampleRequest_validate (hash) {n} (small : n + 2 ≤ maximumArgumentBytes) :
    (sampleRequest hash n).validate hash = .ok () := by
  have size := sampleRequest_arguments hash n
  simp only [ExecutorRequest.validate, eq_ok, exists_const, size]
  have token : validateField "a-valid-one-use-capability-token" 32 512 = true := by decide +kernel
  exact ⟨rfl, token, hash.canonical _, by simp [sampleRequest], by simp [sampleRequest], rfl, rfl, by simp [sampleRequest],
    rfl, rfl, rfl, by simp [sampleRequest], by simp [sampleRequest], rfl, small, rfl⟩

theorem valid_request_readable_small :
    ∃ (hash : DigestFunction) (request : ExecutorRequest), request.validate hash = .ok () ∧ request.fieldBytes ≤ maximumRequestBytes - 617 ∧
      readRequest request.toJson = .ok () := by
  have valid : (sampleRequest letterDigest 3).validate letterDigest = .ok () := sampleRequest_validate _ (by decide)
  have fields : (sampleRequest letterDigest 3).fieldBytes ≤ maximumRequestBytes - 617 := by decide +kernel
  exact ⟨letterDigest, sampleRequest letterDigest 3, valid, fields, (valid_request_readable letterDigest _ valid).mpr fields⟩

/-- Arguments of 64 KiB are valid and never reach the operation. -/
theorem full_arguments_unreadable :
    ∃ (hash : DigestFunction) (request : ExecutorRequest), request.validate hash = .ok () ∧ readRequest request.toJson ≠ .ok () := by
  obtain ⟨hash⟩ : Nonempty DigestFunction := ⟨letterDigest⟩
  have valid : (sampleRequest hash 65534).validate hash = .ok () := sampleRequest_validate _ (by decide)
  refine ⟨hash, sampleRequest hash 65534, valid, ?_⟩
  rw [Ne, readRequest, ensure_eq_ok, size_toJson valid]
  have size := sampleRequest_arguments hash 65534
  simp only [ExecutorRequest.fieldBytes, size, maximumRequestBytes]
  omega

/-! ### A process that ended -/

structure ByteDigest where
  digest : ByteArray → String
  canonical : ∀ bytes, isSha256Digest (digest bytes) = true

/-- The parts of the two frames whose size varies: the shown text of both streams with its
escapes, the exit code, the four flags and the fencing token. -/
def processBytes (request : ExecutorRequest) (exitCode : Option Int) (stdout stderr : ByteArray) : Nat :=
  quotedSize (shownStream stdout) + quotedSize (shownStream stderr) +
    ((exitCode.map fun code => Value.number (toString code)).getD .null).size +
    (Value.bool (readBoundedStream stdout).2).size + (Value.bool (readBoundedStream stderr).2).size +
    (Value.bool (String.fromUTF8? (readBoundedStream stdout).1).isSome).size +
    (Value.bool (String.fromUTF8? (readBoundedStream stderr).1).isSome).size + (Value.nat request.fencingToken).size

section Process
variable {hash : DigestFunction} {bytes : ByteDigest} {request : ExecutorRequest} {exitCode : Option Int}
  {stdout stderr : ByteArray}

theorem size_startedFrame (valid : request.validate hash = .ok ()) :
    (startedFrame hash request).size = 477 + (Value.nat request.fencingToken).size := by
  obtain ⟨protocol, started, _, _, zero, _⟩ := fixed_sizes
  rw [startedFrame, size_object_of_keys 173 (by simp) (by simp only [List.map_cons, List.map_nil]; decide +kernel)]
  simp only [List.map_cons, List.map_nil, List.sum_cons, List.sum_nil, size_string, quotedSize_uuidText, started, zero,
    protocol, quotedSize_digest (validate_digests valid).2.1, quotedSize_digest (hash.canonical _)]
  omega

theorem size_succeededOutcome (output) : (Value.object [("status", .string "succeeded"), ("output", output),
    ("output_digest", .string (hash.digest output.render))]).size = 115 + output.size := by
  obtain ⟨_, _, _, succeeded, _⟩ := fixed_sizes
  rw [size_object_of_keys 37 (by simp) (by simp only [List.map_cons, List.map_nil]; decide +kernel)]
  simp only [List.map_cons, List.map_nil, List.sum_cons, List.sum_nil, size_string, succeeded, quotedSize_digest (hash.canonical _)]
  omega

theorem size_succeededFrame (output) : (succeededFrame hash output).size = 163 + output.size := by
  obtain ⟨_, _, terminal, _, _, one, _⟩ := fixed_sizes
  rw [succeededFrame, size_object_of_keys 36 (by simp) (by simp only [List.map_cons, List.map_nil]; decide +kernel)]
  simp only [List.map_cons, List.map_nil, List.sum_cons, List.sum_nil, size_string, terminal, one, size_succeededOutcome]
  omega

theorem size_frames (valid : request.validate hash = .ok ()) :
    (startedFrame hash request).size + (succeededFrame hash (processOutput bytes.digest exitCode stdout stderr)).size =
      903 + processBytes request exitCode stdout stderr := by
  rw [size_startedFrame valid, size_succeededFrame, processOutput,
    size_object_of_keys 130 (by simp) (by simp only [List.map_cons, List.map_nil]; decide +kernel)]
  simp only [List.map_cons, List.map_nil, List.sum_cons, List.sum_nil, size_string, quotedSize_digest (bytes.canonical _),
    processBytes]
  omega

end Process

/-- The daemon reads the result of a process exactly if what the process printed, escaped,
leaves room for the rest of the two frames. -/
theorem finished_process_readable (hash : DigestFunction) (bytes : ByteDigest) (request : ExecutorRequest)
    (valid : request.validate hash = .ok ()) (exitCode : Option Int) (stdout stderr : ByteArray) :
    readProcess hash bytes.digest request exitCode stdout stderr = .ok () ↔
      processBytes request exitCode stdout stderr ≤ processOutputBytes - 905 := by
  have total : (startedFrame hash request).size +
      (succeededFrame hash (processOutput bytes.digest exitCode stdout stderr)).size = _ := size_frames valid
  simp only [readProcess, captureFrames, eq_ok, exists_const, List.map_cons, List.map_nil, List.sum_cons, List.sum_nil,
    List.all_cons, List.all_nil, Bool.and_true, Bool.and_eq_true, decide_eq_true_eq, List.length_cons, List.length_nil]
  simp only [processOutputBytes, defaultFrameBytes]
  omega

theorem shownStream_text {text} (short : text.utf8ByteSize ≤ maximumProcessStreamBytes) :
    shownStream text.toByteArray = text := by
  have whole : (readBoundedStream text.toByteArray).1 = text.toByteArray := by
    apply ByteArray.ext
    simp only [readBoundedStream, ByteArray.data_extract]
    exact Array.extract_eq_self_of_le short
  rw [shownStream, whole, String.fromUTF8?, dif_pos text.isValidUTF8]
  rfl

def sampleByteDigest : ByteDigest := ⟨fun _ => String.ofList (List.replicate 64 'b'), fun _ => by decide +kernel⟩

theorem finished_process_readable_short :
    ∃ (hash : DigestFunction) (request : ExecutorRequest), request.validate hash = .ok () ∧
      readProcess hash sampleByteDigest.digest request (some 0) "done\nok\n".toByteArray "".toByteArray = .ok () := by
  have valid : (sampleRequest letterDigest 3).validate letterDigest = .ok () := sampleRequest_validate _ (by decide)
  refine ⟨letterDigest, sampleRequest letterDigest 3, valid, (finished_process_readable letterDigest sampleByteDigest _ valid _ _ _).mpr ?_⟩
  rw [processBytes, shownStream_text (by decide +kernel), shownStream_text (by decide +kernel)]
  decide +kernel

/-- A process that fills its standard output with a control character. -/
theorem escaped_output_exceeds :
    ∃ (hash : DigestFunction) (request : ExecutorRequest) (stdout : ByteArray), request.validate hash = .ok () ∧
      readProcess hash sampleByteDigest.digest request (some 0) stdout "".toByteArray ≠ .ok () := by
  obtain ⟨hash⟩ : Nonempty DigestFunction := ⟨letterDigest⟩
  have valid : (sampleRequest hash 3).validate hash = .ok () := sampleRequest_validate _ (by decide)
  obtain ⟨text, bytes, escaped⟩ : ∃ text : String, text.utf8ByteSize = 16384 ∧ quotedSize text = 98306 := by
    refine ⟨String.ofList (List.replicate 16384 (Char.ofNat 1)), ?_, ?_⟩
    · rw [utf8ByteSize_replicate, show (Char.ofNat 1).utf8Size = 1 by decide]
    · rw [quotedSize_replicate, show escapedSize (Char.ofNat 1) = 6 by decide +kernel]
  have shown : shownStream text.toByteArray = text := shownStream_text (by rw [bytes]; decide)
  refine ⟨hash, sampleRequest hash 3, text.toByteArray, valid, ?_⟩
  intro read
  have total : (startedFrame hash (sampleRequest hash 3)).size + (succeededFrame hash
      (processOutput sampleByteDigest.digest (some 0) text.toByteArray "".toByteArray)).size = _ := size_frames valid
  simp only [readProcess, captureFrames, eq_ok, exists_const, List.map_cons, List.map_nil, List.sum_cons, List.sum_nil] at read
  simp only [processBytes, shown, escaped] at total
  have bound := read.1
  simp only [processOutputBytes] at bound
  omega

end Mealy.Executor
