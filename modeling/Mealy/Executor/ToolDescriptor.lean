import Mealy.Context.Validation
import Mealy.Executor.ReplaceArguments
import Mealy.Store.Evidence

/-! Tool descriptors and their serialization (`tools.rs`, `tool.rs` of the domain). The timeout
is a `Duration` in the descriptor and a number of milliseconds in its serialized form and in its
digest, so a fraction of a millisecond passes `validate` and is lost on the way. -/

namespace Mealy.Executor
open Transaction Json Memories
open Context (RiskClass)

inductive ToolConcurrency where
  | serial | parallel
deriving DecidableEq

inductive ExecutorKind where
  | builtin | sandbox | extension (id : String) | provider

structure ToolDescriptor where
  (toolId version : String)
  (inputSchema outputSchema : Value)
  (inputSchemaDigest outputSchemaDigest descriptorDigest : String)
  effectClass : EffectClass
  riskClass : RiskClass
  requiredCapabilities : List String
  timeout : Duration
  maximumOutputBytes : Fin (2 ^ 64)
  concurrency : ToolConcurrency
  conflictKeyTemplates : List String
  idempotency : IdempotencyClass
  recovery : RecoveryStrategy
  executor : ExecutorKind
  executableIdentityDigest : String

inductive ToolDescriptorValidationError where
  | invalidBoundedField (field : String) | nonCanonicalSet (field : String) | zeroTimeout | timeoutOverflow
  | zeroOutputLimit | invalidExecutor | invalidExecutableIdentityDigest | inputSchemaDigestMismatch
  | outputSchemaDigestMismatch | illegalEffectContract | missingParallelConflictKey | descriptorDigestMismatch

def EffectClass.text : EffectClass → String
  | .readOnly => "read_only"
  | .reversible => "reversible"
  | .idempotent => "idempotent"
  | .nonIdempotent => "non_idempotent"

def RiskClass.text : RiskClass → String
  | .low => "low"
  | .medium => "medium"
  | .high => "high"

def ToolConcurrency.text : ToolConcurrency → String
  | .serial => "serial"
  | .parallel => "parallel"

def ExecutorKind.asContract : ExecutorKind → String
  | .builtin => "builtin"
  | .sandbox => "sandbox"
  | .extension id => "extension:" ++ id
  | .provider => "provider"

def validateExtensionId (id : String) : Bool :=
  id ≠ "" ∧ id.utf8ByteSize ≤ 128 ∧ id ≠ "." ∧ id ≠ ".." ∧ id.toList.all isPathCharacter

def ExecutorKind.isCanonical : ExecutorKind → Bool
  | .extension id => validateExtensionId id
  | _ => true

/-- `TryFrom<String>`. -/
def ExecutorKind.ofContract (value : String) : Option ExecutorKind :=
  match value with
  | "builtin" => some .builtin
  | "sandbox" => some .sandbox
  | "provider" => some .provider
  | _ =>
    if "extension:".toList.isPrefixOf value.toList then
      let id := String.ofList (value.toList.drop 10)
      if validateExtensionId id then some (.extension id) else none
    else none

def legalEffectContract : EffectClass → IdempotencyClass → RecoveryStrategy → Bool
  | .readOnly, .pure, recovery => recovery = .retry
  | .idempotent, .idempotent, recovery => recovery = .retry ∨ recovery = .neverRetry
  | .idempotent, .keyed, recovery => recovery ≠ .compensate
  | .nonIdempotent, .nonIdempotent, recovery => recovery = .reconcile ∨ recovery = .neverRetry
  | .reversible, .idempotent, recovery => recovery ≠ .reconcile
  | .reversible, .keyed, _ => true
  | .reversible, .nonIdempotent, recovery => recovery ≠ .retry
  | _, _, _ => false

def boundedField (maximum : Nat) (value : String) : Bool := value ≠ "" ∧ value.utf8ByteSize ≤ maximum

def canonicalSet (maximum : Nat) (values : List String) : Bool :=
  values.all (boundedField maximum) ∧ strictlyAscending (· < ·) values

def texts (values : List String) : Value := .array (values.map .string)

namespace ToolDescriptor
variable (hash : DigestFunction) (tool : ToolDescriptor)

/-- The timeout, where its milliseconds fit a `u64`. -/
def timeoutMs : Option Nat := some (tool.timeout / 10 ^ 6) |>.filter fun milliseconds => milliseconds < 2 ^ 64

/-- `canonical_material`, its fields in the order of their names. -/
def canonicalMaterial : Except ToolDescriptorValidationError Value := do
  let timeoutMs ← require tool.timeoutMs .timeoutOverflow
  pure (.object [("concurrency", .string tool.concurrency.text),
    ("conflictKeyTemplates", texts tool.conflictKeyTemplates), ("contractVersion", .string "mealy.tool-descriptor.v1"),
    ("effectClass", .string (EffectClass.text tool.effectClass)),
    ("executableIdentityDigest", .string tool.executableIdentityDigest), ("executor", .string tool.executor.asContract),
    ("idempotency", .string tool.idempotency.text), ("inputSchema", tool.inputSchema),
    ("inputSchemaDigest", .string tool.inputSchemaDigest), ("maximumOutputBytes", .nat tool.maximumOutputBytes),
    ("outputSchema", tool.outputSchema), ("outputSchemaDigest", .string tool.outputSchemaDigest),
    ("recovery", .string tool.recovery.text), ("requiredCapabilities", texts tool.requiredCapabilities),
    ("riskClass", .string (RiskClass.text tool.riskClass)), ("timeoutMs", .nat timeoutMs),
    ("toolId", .string tool.toolId), ("version", .string tool.version)])

def computedDescriptorDigest : Except ToolDescriptorValidationError String :=
  tool.canonicalMaterial.map fun material => hash.digest material.render

def validate : Except ToolDescriptorValidationError Unit := do
  ensure (boundedField 256 tool.toolId) (.invalidBoundedField "tool_id")
  ensure (boundedField 128 tool.version) (.invalidBoundedField "version")
  ensure (tool.requiredCapabilities ≠ [] ∧ canonicalSet 512 tool.requiredCapabilities)
    (.nonCanonicalSet "required_capabilities")
  ensure (canonicalSet 512 tool.conflictKeyTemplates) (.nonCanonicalSet "conflict_key_templates")
  ensure (tool.timeout ≠ 0) .zeroTimeout
  ensure tool.timeoutMs.isSome .timeoutOverflow
  ensure (tool.maximumOutputBytes ≠ 0) .zeroOutputLimit
  ensure tool.executor.isCanonical .invalidExecutor
  ensure (isSha256Digest tool.executableIdentityDigest) .invalidExecutableIdentityDigest
  ensure (hash.digest tool.inputSchema.render = tool.inputSchemaDigest) .inputSchemaDigestMismatch
  ensure (hash.digest tool.outputSchema.render = tool.outputSchemaDigest) .outputSchemaDigestMismatch
  ensure (legalEffectContract tool.effectClass tool.idempotency tool.recovery) .illegalEffectContract
  ensure (¬ (tool.effectClass.isMutating ∧ tool.concurrency = .parallel ∧ tool.conflictKeyTemplates = []))
    .missingParallelConflictKey
  let digest ← tool.computedDescriptorDigest hash
  ensure (digest = tool.descriptorDigest) .descriptorDigestMismatch

/-! ### Serialization -/

/-- The derived `Serialize`; there is none for a timeout beyond a `u64` of milliseconds. -/
def serialize : Option Value := do
  let timeout ← tool.timeoutMs
  some (.object [("toolId", .string tool.toolId), ("version", .string tool.version), ("inputSchema", tool.inputSchema),
    ("outputSchema", tool.outputSchema), ("inputSchemaDigest", .string tool.inputSchemaDigest),
    ("outputSchemaDigest", .string tool.outputSchemaDigest), ("descriptorDigest", .string tool.descriptorDigest),
    ("effectClass", .string (EffectClass.text tool.effectClass)), ("riskClass", .string (RiskClass.text tool.riskClass)),
    ("requiredCapabilities", texts tool.requiredCapabilities), ("timeout", .nat timeout),
    ("maximumOutputBytes", .nat tool.maximumOutputBytes), ("concurrency", .string tool.concurrency.text),
    ("conflictKeyTemplates", texts tool.conflictKeyTemplates), ("idempotency", .string tool.idempotency.text),
    ("recovery", .string tool.recovery.text), ("executor", .string tool.executor.asContract),
    ("executableIdentityDigest", .string tool.executableIdentityDigest)])

/-- The derived `Deserialize`: every field is required and has its type. -/
def deserialize (value : Value) : Option ToolDescriptor := do
  let text key := (value.field key).bind Value.asString
  let number key := (value.field key).bind Value.asU64
  let set key := ((value.field key).bind Value.asArray).bind fun values => values.mapM Value.asString
  let variant {α : Type} key (variants : List α) (spelling : α → String) :=
    (text key).bind fun name => variants.find? fun variant => spelling variant = name
  let maximumOutputBytes ← number "maximumOutputBytes"
  let timeout ← number "timeout"
  some {
    toolId := ← text "toolId", version := ← text "version"
    inputSchema := ← value.field "inputSchema", outputSchema := ← value.field "outputSchema"
    inputSchemaDigest := ← text "inputSchemaDigest", outputSchemaDigest := ← text "outputSchemaDigest"
    descriptorDigest := ← text "descriptorDigest"
    effectClass := ← variant "effectClass" [.readOnly, .reversible, .idempotent, .nonIdempotent] EffectClass.text
    riskClass := ← variant "riskClass" [.low, .medium, .high] RiskClass.text
    requiredCapabilities := ← set "requiredCapabilities"
    timeout := Duration.fromMillis timeout
    maximumOutputBytes := Fin.ofNat (2 ^ 64) maximumOutputBytes
    concurrency := ← variant "concurrency" [.serial, .parallel] ToolConcurrency.text
    conflictKeyTemplates := ← set "conflictKeyTemplates"
    idempotency := ← variant "idempotency" [.pure, .idempotent, .keyed, .nonIdempotent] IdempotencyClass.text
    recovery := ← variant "recovery" [.retry, .reconcile, .compensate, .neverRetry] RecoveryStrategy.text
    executor := ← (text "executor").bind ExecutorKind.ofContract
    executableIdentityDigest := ← text "executableIdentityDigest" }

end ToolDescriptor

/-! ### The round trip -/

theorem ExecutorKind.ofContract_asContract {executor : ExecutorKind} (canonical : executor.isCanonical = true) :
    ofContract executor.asContract = some executor := by
  cases executor with
  | builtin | sandbox | provider => rfl
  | extension id =>
    have spelled : ("extension:" ++ id).toList = "extension:".toList ++ id.toList := String.toList_append
    have other (text : String) (starts : text.toList.head? ≠ some 'e') : "extension:" ++ id ≠ text := by
      rintro rfl
      simp [spelled] at starts
    unfold ofContract asContract
    split
    next same => exact absurd same (other _ (by decide))
    next same => exact absurd same (other _ (by decide))
    next same => exact absurd same (other _ (by decide))
    next =>
      rw [spelled, if_pos (by simp), List.drop_left' (by decide), String.ofList_toList]
      exact if_pos canonical

theorem mapM_asString (values : List String) : (values.map Value.string).mapM Value.asString = some values := by
  induction values with
  | nil => rfl
  | cons value values ih => simp [Value.asString, ih]

namespace ToolDescriptor
variable {hash : DigestFunction} {tool : ToolDescriptor}

theorem deserialize_serialize {value milliseconds} (fits : tool.timeoutMs = some milliseconds)
    (canonical : tool.executor.isCanonical = true) (serialized : tool.serialize = some value) :
    deserialize value = some { tool with timeout := Duration.fromMillis milliseconds } := by
  simp only [serialize, fits, Option.bind_eq_bind, Option.bind_some, Option.some.injEq] at serialized
  subst serialized
  have bounded : milliseconds < 2 ^ 64 := by
    simp only [timeoutMs, Option.filter_eq_some_iff, Option.some.injEq, decide_eq_true_eq] at fits
    exact fits.1 ▸ fits.2
  have effect : [EffectClass.readOnly, .reversible, .idempotent, .nonIdempotent].find?
      (fun variant => EffectClass.text variant = EffectClass.text tool.effectClass) = some tool.effectClass := by
    cases tool.effectClass <;> rfl
  have risk : [RiskClass.low, .medium, .high].find?
      (fun variant => RiskClass.text variant = RiskClass.text tool.riskClass) = some tool.riskClass := by
    cases tool.riskClass <;> rfl
  have concurrency : [ToolConcurrency.serial, .parallel].find?
      (fun variant => variant.text = tool.concurrency.text) = some tool.concurrency := by
    cases tool.concurrency <;> rfl
  have idempotency : [IdempotencyClass.pure, .idempotent, .keyed, .nonIdempotent].find?
      (fun variant => variant.text = tool.idempotency.text) = some tool.idempotency := by
    cases tool.idempotency <;> rfl
  have recovery : [RecoveryStrategy.retry, .reconcile, .compensate, .neverRetry].find?
      (fun variant => variant.text = tool.recovery.text) = some tool.recovery := by
    cases tool.recovery <;> rfl
  simp only [deserialize, Value.field, List.lookup, String.reduceBEq, Option.bind_some, asU64_nat bounded,
    asU64_nat tool.maximumOutputBytes.isLt, Value.asString, Value.asArray, texts, mapM_asString, effect, risk,
    concurrency, idempotency, recovery, ExecutorKind.ofContract_asContract canonical, Option.bind_eq_bind]
  rw [Fin.ofNat_eq_cast, Fin.cast_val_eq_self]

/-- Serializing and deserializing gives an equal descriptor, valid and with the same digest. -/
def RoundTrips (hash : DigestFunction) (tool : ToolDescriptor) : Prop :=
  ∃ value tool', tool.serialize = some value ∧ deserialize value = some tool' ∧ tool' = tool ∧
    tool'.validate hash = .ok () ∧ tool'.computedDescriptorDigest hash = tool.computedDescriptorDigest hash

theorem validate_serialize (valid : tool.validate hash = .ok ()) : ∃ value milliseconds,
    tool.serialize = some value ∧ milliseconds = tool.timeout / 10 ^ 6 ∧
      deserialize value = some { tool with timeout := Duration.fromMillis milliseconds } := by
  simp only [validate, eq_ok] at valid
  obtain ⟨_, _, _, _, _, _, _, _, _, _, _, fits, _, _, _, canonical, _⟩ := valid
  obtain ⟨milliseconds, fits⟩ := Option.isSome_iff_exists.mp fits
  obtain ⟨value, serialized⟩ : ∃ value, tool.serialize = some value := by simp [serialize, fits]
  refine ⟨value, milliseconds, serialized, ?_, deserialize_serialize fits canonical serialized⟩
  simp only [timeoutMs, Option.filter_eq_some_iff, Option.some.injEq] at fits
  exact fits.1.symm

/-- A valid descriptor survives exactly when its timeout is a whole number of milliseconds. -/
theorem tool_descriptor_round_trip_iff (valid : tool.validate hash = .ok ()) :
    tool.RoundTrips hash ↔ tool.timeout % 10 ^ 6 = 0 := by
  obtain ⟨value, milliseconds, serialized, rfl, deserialized⟩ := validate_serialize valid
  constructor
  · rintro ⟨value', tool', serialized', deserialized', rfl, _⟩
    cases serialized.symm.trans serialized'
    have same := congrArg timeout (Option.some.inj (deserialized.symm.trans deserialized'))
    exact Nat.mod_eq_zero_of_dvd ⟨_, same.symm.trans (Nat.mul_comm _ _)⟩
  · intro whole
    have same : Duration.fromMillis (tool.timeout / 10 ^ 6) = tool.timeout :=
      Nat.div_mul_cancel (Nat.dvd_of_mod_eq_zero whole)
    rw [same] at deserialized
    exact ⟨value, tool, serialized, deserialized, rfl, valid, rfl⟩

def sampleDigestFunction : DigestFunction := letterDigest

def sampleTool (timeout : Duration) : ToolDescriptor where
  toolId := "service.read"
  version := "1"
  inputSchema := .object [("type", .string "object")]
  outputSchema := .object [("type", .string "object")]
  inputSchemaDigest := sampleDigestFunction.digest ""
  outputSchemaDigest := sampleDigestFunction.digest ""
  descriptorDigest := sampleDigestFunction.digest ""
  effectClass := .readOnly
  riskClass := .low
  requiredCapabilities := ["observe"]
  timeout := timeout
  maximumOutputBytes := 1024
  concurrency := .serial
  conflictKeyTemplates := []
  idempotency := .pure
  recovery := .retry
  executor := .extension "example.reader"
  executableIdentityDigest := sampleDigestFunction.digest ""

theorem tool_descriptor_round_trip_second :
    (sampleTool (Duration.fromMillis 1000)).validate sampleDigestFunction = .ok () ∧
      (sampleTool (Duration.fromMillis 1000)).RoundTrips sampleDigestFunction :=
  ⟨rfl, (tool_descriptor_round_trip_iff rfl).mpr (by decide)⟩

/-- A timeout of half a millisecond is valid, and comes back as a zero that is refused. -/
theorem half_millisecond_lost :
    (sampleTool 500000).validate sampleDigestFunction = .ok () ∧ ∃ value,
      (sampleTool 500000).serialize = some value ∧ deserialize value = some (sampleTool 0) ∧
        (sampleTool 0).validate sampleDigestFunction = .error .zeroTimeout := by
  obtain ⟨value, _, serialized, rfl, deserialized⟩ :=
    validate_serialize (show (sampleTool 500000).validate sampleDigestFunction = .ok () from rfl)
  exact ⟨rfl, value, serialized, deserialized, rfl⟩

end ToolDescriptor

end Mealy.Executor
