import Mealy.Lib.Json
import Mealy.Store.DelegationStore
import Mealy.Store.Memory

/-! The protocol between the daemon and its one-shot sandbox worker (`executor.rs`,
`sandbox.rs`, `mealy-fixture-worker.rs`). The daemon bounds the fields of a request one by
one and the worker the whole frame; the worker bounds the streams of a process and the
daemon the frames that carry them. -/

namespace Mealy.Executor
open Transaction Json Memories

def executorProtocolVersion : String := "mealy.executor.v1"

structure ExecutorMount where
  (hostPath sandboxPath : String)

structure ExecutorRequest where
  protocolVersion : String
  effectId : EffectId
  attemptId : AttemptId
  fencingToken : Nat
  (capabilityToken executableIdentityDigest : String)
  profile : PolicyProfile
  (readableRoots writableRoots : List ExecutorMount)
  (networkDestinations secretHandles : List String)
  allowProcessSpawn : Bool
  allowedEnvironmentVariables : List String
  idempotencyKey : Option String
  normalizedArguments : Value
  argumentsDigest : String
  (maximumDurationMs maximumOutputBytes maximumMemoryBytes maximumProcesses : Nat)

inductive ExecutorRequestError where
  | unsupportedProtocol | invalidCapabilityToken | invalidExecutableIdentityDigest | invalidDurationLimit
  | invalidOutputLimit | invalidMount | duplicateMount | invalidCanonicalSet | invalidEnvironmentVariables
  | invalidMemoryLimit | invalidProcessLimit | invalidIdempotencyKey | invalidArguments
deriving DecidableEq

/-! ### Validation -/

def maximumArgumentBytes : Nat := 64 * 1024

/-- Graphic ASCII and spaces within the bounds. -/
def validateField (value : String) (minimum maximum : Nat) : Bool :=
  minimum ≤ value.utf8ByteSize ∧ value.utf8ByteSize ≤ maximum ∧ value.toList.all fun c => 32 ≤ c.toNat ∧ c.toNat ≤ 126

/-- `windows(2)` finds no pair out of order. -/
def strictlyAscending {α : Type} (before : α → α → Bool) (values : List α) : Bool :=
  (values.zip values.tail).all fun pair => before pair.1 pair.2

def canonicalAbsolutePath (value : String) : Bool :=
  2 ≤ value.utf8ByteSize ∧ value.utf8ByteSize ≤ 4096 ∧ value.toList.head? = some '/' ∧
    value.toList.getLast? ≠ some '/' ∧ Char.ofNat 0 ∉ value.toList ∧
    ((value.toList.splitOn '/').drop 1).all fun part => part ≠ [] ∧ part ≠ ['.'] ∧ part ≠ ['.', '.']

def isBeneath (root path : String) : Bool := (root.toList ++ ['/']).isPrefixOf path.toList

def reservedSandboxPath (value : String) : Bool :=
  ["/dev", "/proc", "/runtime", "/tmp"].any fun reserved => value = reserved ∨ isBeneath reserved value

def pathsOverlap (left right : String) : Bool := left = right ∨ isBeneath left right ∨ isBeneath right left

def validateMounts (mounts : List ExecutorMount) : Bool :=
  mounts.length ≤ 32 ∧
    strictlyAscending (fun first second => first.hostPath < second.hostPath ∨
      (first.hostPath = second.hostPath ∧ first.sandboxPath < second.sandboxPath)) mounts ∧
    mounts.all fun mount => canonicalAbsolutePath mount.hostPath ∧ canonicalAbsolutePath mount.sandboxPath ∧
      !reservedSandboxPath mount.sandboxPath

def validateCanonicalSet (values : List String) : Bool :=
  values.length ≤ 64 ∧ strictlyAscending (· < ·) values ∧ values.all fun value => validateField value 1 512

def validateEnvironmentVariables (values : List String) : Bool :=
  values.length ≤ 64 ∧ strictlyAscending (· < ·) values ∧ values.all fun value =>
    value.utf8ByteSize ≤ 128 ∧ value ≠ "" ∧ (value.toList.all fun c => c = '_' || c.isAlphanum) ∧
      value.toList.head?.all fun c => !c.isDigit

def ExecutorRequest.validate (hash : DigestFunction) (request : ExecutorRequest) : Except ExecutorRequestError Unit := do
  ensure (request.protocolVersion = executorProtocolVersion) .unsupportedProtocol
  ensure (validateField request.capabilityToken 32 512) .invalidCapabilityToken
  ensure (isSha256Digest request.executableIdentityDigest) .invalidExecutableIdentityDigest
  ensure (request.maximumDurationMs ≠ 0 ∧ request.maximumDurationMs ≤ 60 * 60 * 1000) .invalidDurationLimit
  ensure (request.maximumOutputBytes ≠ 0 ∧ request.maximumOutputBytes ≤ 64 * 1024 * 1024) .invalidOutputLimit
  ensure (validateMounts request.readableRoots) .invalidMount
  ensure (validateMounts request.writableRoots) .invalidMount
  ensure ((request.readableRoots ++ request.writableRoots).Pairwise fun mount other =>
    pathsOverlap mount.hostPath other.hostPath = false ∧ pathsOverlap mount.sandboxPath other.sandboxPath = false)
    .duplicateMount
  ensure (validateCanonicalSet request.networkDestinations) .invalidCanonicalSet
  ensure (validateCanonicalSet request.secretHandles) .invalidCanonicalSet
  ensure (validateEnvironmentVariables request.allowedEnvironmentVariables) .invalidEnvironmentVariables
  ensure (request.maximumMemoryBytes ≠ 0 ∧ request.maximumMemoryBytes ≤ 64 * 1024 * 1024 * 1024) .invalidMemoryLimit
  ensure (request.maximumProcesses ≤ 1024 ∧ request.allowProcessSpawn = decide (0 < request.maximumProcesses))
    .invalidProcessLimit
  ensure (request.idempotencyKey.all fun key => validateField key 1 512) .invalidIdempotencyKey
  ensure (request.normalizedArguments.size ≤ maximumArgumentBytes ∧
    hash.digest request.normalizedArguments.render = request.argumentsDigest) .invalidArguments

/-! ### The frames -/

def PolicyProfile.text : PolicyProfile → String
  | .observe => "observe"
  | .workspaceWrite => "workspace-write"
  | .networked => "networked"
  | .serviceOperator => "service-operator"
  | .fullTrust => "full-trust"

def ExecutorMount.toJson (mount : ExecutorMount) : Value :=
  .object [("hostPath", .string mount.hostPath), ("sandboxPath", .string mount.sandboxPath)]

/-- The request as `execute` writes it to the worker. -/
def ExecutorRequest.toJson (request : ExecutorRequest) : Value :=
  .object [("protocolVersion", .string request.protocolVersion), ("effectId", .string (uuidText request.effectId.id)),
    ("attemptId", .string (uuidText request.attemptId.id)), ("fencingToken", .nat request.fencingToken),
    ("capabilityToken", .string request.capabilityToken),
    ("executableIdentityDigest", .string request.executableIdentityDigest),
    ("profile", .string (PolicyProfile.text request.profile)),
    ("readableRoots", .array (request.readableRoots.map ExecutorMount.toJson)),
    ("writableRoots", .array (request.writableRoots.map ExecutorMount.toJson)),
    ("networkDestinations", .array (request.networkDestinations.map .string)),
    ("secretHandles", .array (request.secretHandles.map .string)), ("allowProcessSpawn", .bool request.allowProcessSpawn),
    ("allowedEnvironmentVariables", .array (request.allowedEnvironmentVariables.map .string)),
    ("idempotencyKey", (request.idempotencyKey.map Value.string).getD .null),
    ("normalizedArguments", request.normalizedArguments), ("argumentsDigest", .string request.argumentsDigest),
    ("maximumDurationMs", .nat request.maximumDurationMs), ("maximumOutputBytes", .nat request.maximumOutputBytes),
    ("maximumMemoryBytes", .nat request.maximumMemoryBytes), ("maximumProcesses", .nat request.maximumProcesses)]

def maximumRequestBytes : Nat := 64 * 1024

def readRequest (frame : Value) : Except String Unit :=
  ensure (frame.size ≠ 0 ∧ frame.size ≤ maximumRequestBytes) "request frame is empty or oversized"

/-- `ExecutorFrame::Started`, as the worker echoes the request. -/
def startedFrame (hash : DigestFunction) (request : ExecutorRequest) : Value :=
  .object [("frameType", .string "started"), ("protocol_version", .string executorProtocolVersion), ("sequence", .nat 0),
    ("effect_id", .string (uuidText request.effectId.id)), ("attempt_id", .string (uuidText request.attemptId.id)),
    ("fencing_token", .nat request.fencingToken),
    ("capability_token_digest", .string (hash.digest request.capabilityToken)),
    ("executable_identity_digest", .string request.executableIdentityDigest),
    ("request_evidence_digest", .string (hash.digest request.toJson.render))]

def succeededFrame (hash : DigestFunction) (output : Value) : Value :=
  .object [("frameType", .string "terminal"), ("sequence", .nat 1),
    ("outcome", .object [("status", .string "succeeded"), ("output", output),
      ("output_digest", .string (hash.digest output.render))])]

inductive ExecutorError where
  | outputLimitExceeded | malformedFrame

def captureFrames (maximumOutputBytes maximumFrameBytes : Nat) (frames : List Value) : Except ExecutorError Unit := do
  ensure ((frames.map fun frame => frame.size + 1).sum ≤ maximumOutputBytes) .outputLimitExceeded
  ensure (frames.all fun frame => frame.size ≤ maximumFrameBytes) .outputLimitExceeded
  ensure (frames.length ≤ 64) .outputLimitExceeded

/-! ### A process of the worker -/

def maximumProcessStreamBytes : Nat := 16 * 1024

def readBoundedStream (stream : ByteArray) : ByteArray × Bool :=
  (stream.extract 0 maximumProcessStreamBytes, maximumProcessStreamBytes < stream.size)

def shownStream (stream : ByteArray) : String :=
  (String.fromUTF8? (readBoundedStream stream).1).getD "[non-UTF-8 output omitted]"

def processOutput (digestBytes : ByteArray → String) (exitCode : Option Int) (stdout stderr : ByteArray) : Value :=
  .object [("exitCode", (exitCode.map fun code => Value.number (toString code)).getD .null),
    ("stderr", .string (shownStream stderr)), ("stderrDigest", .string (digestBytes (readBoundedStream stderr).1)),
    ("stderrTruncated", .bool (readBoundedStream stderr).2),
    ("stderrUtf8", .bool (String.fromUTF8? (readBoundedStream stderr).1).isSome),
    ("stdout", .string (shownStream stdout)), ("stdoutDigest", .string (digestBytes (readBoundedStream stdout).1)),
    ("stdoutTruncated", .bool (readBoundedStream stdout).2),
    ("stdoutUtf8", .bool (String.fromUTF8? (readBoundedStream stdout).1).isSome)]

/-- The output bound of the process policy and the frame bound of the sandbox. -/
def processOutputBytes : Nat := 48 * 1024

def defaultFrameBytes : Nat := 64 * 1024

def readProcess (hash : DigestFunction) (digestBytes : ByteArray → String) (request : ExecutorRequest)
    (exitCode : Option Int) (stdout stderr : ByteArray) : Except ExecutorError Unit :=
  captureFrames processOutputBytes defaultFrameBytes
    [startedFrame hash request, succeededFrame hash (processOutput digestBytes exitCode stdout stderr)]

end Mealy.Executor
