import Mealy.Executor.Sizes
import Mealy.Lib.JsonReader
import Mealy.Lib.Separated
import Mealy.Lib.Utf8Text

/-! The frames a worker answers with (`parse_frames`, `ExecutorResult::from_frames`). The
daemon reads one frame a line and takes it only if its encoding is the line itself, so that an
accepted stream is the encoding of its frames. -/

namespace Mealy.Executor
open Transaction Json Memories Utf8Text

inductive ExecutorTerminal where
  | succeeded (output : Value) (outputDigest : String)
  | failed (errorClass errorMessage : String) (retryable : Bool)

structure ExecutorStart where
  protocolVersion : String
  sequence : Nat
  effectId : EffectId
  attemptId : AttemptId
  fencingToken : Nat
  (capabilityTokenDigest executableIdentityDigest requestEvidenceDigest : String)
deriving DecidableEq

inductive ExecutorFrame where
  | started (start : ExecutorStart)
  | progress (sequence : Nat) (message : String)
  | terminal (sequence : Nat) (outcome : ExecutorTerminal)

def ExecutorFrame.sequence : ExecutorFrame → Nat
  | started start => start.sequence
  | progress sequence _ | terminal sequence _ => sequence

/-! ### Encoding -/

/-- The tag and the fields as the type declares them. -/
def ExecutorTerminal.encoded : ExecutorTerminal → Value
  | succeeded output outputDigest =>
    .object [("status", .string "succeeded"), ("output", output), ("output_digest", .string outputDigest)]
  | failed errorClass errorMessage retryable =>
    .object [("status", .string "failed"), ("error_class", .string errorClass), ("error_message", .string errorMessage),
      ("retryable", .bool retryable)]

def ExecutorFrame.encoded : ExecutorFrame → Value
  | started start =>
    .object [("frameType", .string "started"), ("protocol_version", .string start.protocolVersion),
      ("sequence", .nat start.sequence), ("effect_id", .string (uuidText start.effectId.id)),
      ("attempt_id", .string (uuidText start.attemptId.id)), ("fencing_token", .nat start.fencingToken),
      ("capability_token_digest", .string start.capabilityTokenDigest),
      ("executable_identity_digest", .string start.executableIdentityDigest),
      ("request_evidence_digest", .string start.requestEvidenceDigest)]
  | progress sequence message =>
    .object [("frameType", .string "progress"), ("sequence", .nat sequence), ("message", .string message)]
  | terminal sequence outcome =>
    .object [("frameType", .string "terminal"), ("sequence", .nat sequence), ("outcome", outcome.encoded)]

def ExecutorFrame.encode (frame : ExecutorFrame) : List UInt8 := bytes frame.encoded.render

/-- A frame within the types of its fields. The map of an output keeps its keys sorted. -/
def ExecutorFrame.Held : ExecutorFrame → Prop
  | started start => start.sequence < 2 ^ 64 ∧ start.effectId.id < 2 ^ 128 ∧ start.attemptId.id < 2 ^ 128 ∧
      0 < start.fencingToken ∧ start.fencingToken < 2 ^ 64
  | progress sequence _ => sequence < 2 ^ 64
  | terminal sequence outcome => sequence < 2 ^ 64 ∧
      ∀ output digest, outcome = .succeeded output digest → output.All IsNumber (List.Pairwise (· < ·))

/-- `serde_json` for frames. An encoded frame is read back if it is not nested too deep and its
numbers are read exactly. -/
structure FrameCodec extends Reader where
  decode : List UInt8 → Option ExecutorFrame
  decode_held : ∀ {raw frame}, decode raw = some frame → frame.Held
  decode_encode : ∀ {frame : ExecutorFrame}, frame.Held → (decode frame.encode = some frame ↔
    frame.encoded.depth ≤ 127 ∧ frame.encoded.All (Exact parse) List.Nodup)

/-! ### Reading -/

def parseLines (codec : FrameCodec) (maximumFrameBytes maximumFrames : Nat) (count : Nat) :
    List (List UInt8) → Except ExecutorError (List ExecutorFrame)
  | [] => pure []
  | raw :: rest => do
    ensure (raw ≠ []) .malformedFrame
    ensure (raw.length ≤ maximumFrameBytes ∧ count < maximumFrames) .outputLimitExceeded
    let frame ← require (codec.decode raw) .malformedFrame
    ensure (frame.encode = raw) .malformedFrame
    let frames ← parseLines codec maximumFrameBytes maximumFrames (count + 1) rest
    pure (frame :: frames)

def parseFrames (codec : FrameCodec) (maximumFrameBytes maximumFrames : Nat) (stdout : List UInt8) :
    Except ExecutorError (List ExecutorFrame) := do
  let payload ← require (if stdout.getLast? = some 10 then some stdout.dropLast else none) .malformedFrame
  ensure (payload ≠ []) .malformedFrame
  parseLines codec maximumFrameBytes maximumFrames 0 (payload.splitOn 10)

inductive ExecutorProtocolError where
  | missingStart | startMismatch | nonContiguousSequence | unexpectedFrame | invalidProgress | missingTerminal
  | invalidTerminal | durationExceeded

structure ExecutorResult where
  frames : List ExecutorFrame
  terminal : ExecutorTerminal
  durationMs : Nat

/-- The fields that a start frame has to have for a request. -/
def ExecutorRequest.start (hash : DigestFunction) (request : ExecutorRequest) : ExecutorStart where
  protocolVersion := executorProtocolVersion
  sequence := 0
  effectId := request.effectId
  attemptId := request.attemptId
  fencingToken := request.fencingToken
  capabilityTokenDigest := hash.digest request.capabilityToken
  executableIdentityDigest := request.executableIdentityDigest
  requestEvidenceDigest := hash.digest request.toJson.render

def validateProgress : ExecutorFrame → Except ExecutorProtocolError Unit
  | .progress _ message => ensure (validateField message 1 4096) .invalidProgress
  | .started _ | .terminal .. => .error .unexpectedFrame

def validateTerminal (hash : DigestFunction) : ExecutorTerminal → Except ExecutorProtocolError Unit
  | .succeeded output outputDigest =>
    ensure (isSha256Digest outputDigest ∧ hash.digest output.render = outputDigest) .invalidTerminal
  | .failed errorClass errorMessage _ =>
    ensure (validateField errorClass 1 128 ∧ validateField errorMessage 1 4096) .invalidTerminal

def ExecutorFrame.start : ExecutorFrame → Option ExecutorStart
  | started start => some start
  | _ => none

def ExecutorFrame.outcome : ExecutorFrame → Option ExecutorTerminal
  | terminal _ outcome => some outcome
  | _ => none

def ExecutorResult.fromFrames (hash : DigestFunction) (request : ExecutorRequest) (frames : List ExecutorFrame)
    (durationMs : Nat) : Except ExecutorProtocolError ExecutorResult := do
  ensure (durationMs ≤ request.maximumDurationMs) .durationExceeded
  let start ← require (frames.head?.bind ExecutorFrame.start) .missingStart
  ensure (start = request.start hash) .startMismatch
  ensure (∀ entry ∈ frames.zipIdx, entry.1.sequence = entry.2) .nonContiguousSequence
  ((frames.drop 1).take (frames.length - 2)).forM validateProgress
  let terminal ← require (frames.getLast?.bind ExecutorFrame.outcome) .missingTerminal
  validateTerminal hash terminal
  pure { frames, terminal, durationMs }

/-! ### What is accepted -/

def stream (frames : List ExecutorFrame) : List UInt8 := frames.flatMap fun frame => frame.encode ++ [10]

/-- A frame that is read back from its encoding and fits. -/
structure FrameCodec.Canonical (codec : FrameCodec) (maximumFrameBytes : Nat) (frame : ExecutorFrame) : Prop where
  held : frame.Held
  shallow : frame.encoded.depth ≤ 127
  exact_ : frame.encoded.All (Exact codec.parse) List.Nodup
  fits : frame.encode.length ≤ maximumFrameBytes

section
variable {codec : FrameCodec} {hash : DigestFunction} {request : ExecutorRequest} {maximumFrameBytes maximumFrames : Nat}

end

/-- What `execute` makes of the output of a worker. -/
def Accepts (codec : FrameCodec) (hash : DigestFunction) (request : ExecutorRequest) (maximumFrameBytes maximumFrames duration : Nat)
    (stdout : List UInt8) (frames : List ExecutorFrame) : Prop :=
  parseFrames codec maximumFrameBytes maximumFrames stdout = .ok frames ∧
    ∃ result, ExecutorResult.fromFrames hash request frames duration = .ok result ∧ result.frames = frames

section
variable (hash : DigestFunction) (request : ExecutorRequest)

end

end Mealy.Executor
