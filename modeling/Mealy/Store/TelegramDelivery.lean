import Mealy.Store.Outbox

/-! The outbox driver of the daemon (`drive_outbox_batch` of `main.rs`) and the delivery
of a record through a Telegram bot. A batch claims a record, resolves its route, issues
at most one request and writes the result back; the daemon may stop between any two of
these steps. The JSON reader is a parameter. -/

namespace Mealy
open Relational Transaction

/-! ### One delivery -/

structure OutboundTelegramTarget where
  telegramChatId : Int
deriving DecidableEq

/-- The one external channel of the record's session; without one the notification is
local. -/
inductive OutboxRoute where
  | telegram (target : OutboundTelegramTarget)
  | webhook
  | discord
  | localNotification
deriving DecidableEq

inductive OutboxDeliveryResult where
  | delivered
  | failed (error : String)
  | failedAfter (error : String) (retryDelay : Duration)
  | terminal (error : String)
  | outcomeUnknown (error : String)
deriving DecidableEq

def truncationMarker : String := "\n… [truncated; inspect the session timeline for the full result]"

def truncateMessage (maximumCharacters : Nat) (text : String) : String :=
  if text.length ≤ maximumCharacters then text
  else String.ofList (text.toList.take (maximumCharacters - truncationMarker.length)) ++ truncationMarker

def truncateTelegramMessage : String → String := truncateMessage 4096

def approvalNotice (toolId : String) (targets arguments : Json.Value) (subjectDigest approvalId : String) : String :=
  "Mealy approval required\nTool: " ++ toolId ++ "\nTargets: " ++ targets.render ++ "\nArguments: " ++
    arguments.render ++ "\nSubject: " ++ subjectDigest ++ "\n\nApprove: /approve " ++ approvalId ++ " " ++
    subjectDigest ++ "\nDeny: /deny " ++ approvalId ++ " " ++ subjectDigest

section
variable (parse : String → Option Json.Value)

def renderOutbox (name : String) (truncate : String → String) (delivery : OutboxDelivery) : Except String String := do
  let payload ← require (parse delivery.payloadJson) (name ++ " payload is invalid")
  ensure payload.isObject (name ++ " payload is not an object")
  let text ← match delivery.topic with
    | "session.input_acknowledgement" => pure "Mealy accepted your message."
    | "session.input_promoted" => pure "Mealy started working on your message."
    | "session.input_steered" => pure "Mealy attached your steering update."
    | "session.interrupt_requested" => pure "Mealy recorded the interruption and queued your replacement."
    | "session.turn_completed" =>
      let status := ((payload.field "status").bind Json.Value.asString).getD "completed"
      let summary := (((payload.field "summary").bind Json.Value.asString).filter (· ≠ "")).getD
        "The turn completed without a textual summary."
      pure s!"Mealy ({status}):\n{summary}"
    | "effect.approval_requested" => do
      let approvalId ← require ((payload.field "approval_id").bind Json.Value.asString) (name ++ " approval ID is absent")
      let subjectDigest ← require ((payload.field "subject_digest").bind Json.Value.asString)
        (name ++ " approval subject is absent")
      let toolId ← require ((payload.field "tool_id").bind Json.Value.asString) (name ++ " approval tool is absent")
      let arguments ← require (payload.field "normalized_arguments") (name ++ " approval arguments are absent")
      let targets ← require (payload.field "target_resources") (name ++ " approval targets are absent")
      pure (approvalNotice toolId targets arguments subjectDigest approvalId)
    | _ => .error (name ++ " topic is unsupported")
  pure (truncate text)

def renderTelegramOutbox : OutboxDelivery → Except String String := renderOutbox parse "Telegram" truncateTelegramMessage

/-- What the credential broker says about the bot token of the binding. -/
inductive TelegramCredential where
  | unavailable | changed | accepted

def telegramMessage (credential : TelegramCredential) (delivery : OutboxDelivery) : Except String String :=
  match credential with
  | .unavailable => .error "Telegram bot credential is unavailable"
  | .changed => .error "Telegram bot credential identity changed"
  | .accepted => renderTelegramOutbox parse delivery

inductive TelegramSendAcknowledgement where
  | delivered | rejected | ambiguous
deriving DecidableEq

def classifyTelegramSendAcknowledgement (body : String) (expectedChatId : Int) : TelegramSendAcknowledgement :=
  match parse body with
  | none => .ambiguous
  | some envelope =>
    match (envelope.field "ok").bind Json.Value.asBool with
    | some false => .rejected
    | some true =>
      let result := envelope.field "result"
      if ((result.bind (·.field "message_id")).bind Json.Value.asI64).isSome ∧
          ((result.bind (·.field "chat")).bind (·.field "id")).bind Json.Value.asI64 = some expectedChatId then
        .delivered
      else .ambiguous
    | none => .ambiguous

/-- How a `sendMessage` request ends: no response, a response whose body cannot be read
within its bound, or a status with a body. -/
inductive TelegramAnswer where
  | transportError
  | unreadable
  | response (status : Nat) (body : String)

def telegramResult (target : OutboundTelegramTarget) : TelegramAnswer → OutboxDeliveryResult
  | .transportError =>
    .outcomeUnknown "Telegram sendMessage outcome is unknown; automatic retry is suppressed"
  | .unreadable =>
    .outcomeUnknown "Telegram sendMessage acknowledgement could not be read; automatic retry is suppressed"
  | .response status body =>
    if 200 ≤ status ∧ status ≤ 299 then
      match classifyTelegramSendAcknowledgement parse body target.telegramChatId with
      | .delivered => .delivered
      | .rejected => .failed "Telegram sendMessage rejected the request"
      | .ambiguous =>
        .outcomeUnknown "Telegram sendMessage acknowledgement was invalid; automatic retry is suppressed"
    else .failed s!"Telegram sendMessage returned HTTP {status}"

def TelegramAnswer.rejects (target : OutboundTelegramTarget) : TelegramAnswer → Bool
  | .transportError | .unreadable => false
  | .response status body =>
    if 200 ≤ status ∧ status ≤ 299 then
      classifyTelegramSendAcknowledgement parse body target.telegramChatId = .rejected
    else ¬ (500 ≤ status ∧ status ≤ 599)

end

/-! ### Writing the result back -/

def maximumDeliveryAttempts : Nat := 8

def claimTimeout : Duration := Duration.fromMillis 30000

/-- Bounded exponential delay with stable jitter from the record's identifier. -/
def exponentialRetryDelay (delivery : OutboxDelivery) (base maximum : Duration) :
    Except OutboxUseCaseError Duration := do
  ensure (base ≠ 0 ∧ Duration.fromMillis 1 ≤ base ∧ base ≤ maximum ∧ maximum ≤ Duration.fromHours 24)
    .invalidRetryDelay
  let baseMs := base / 10 ^ 6
  let maximumMs := maximum / 10 ^ 6
  let exponent := min (delivery.attempt - 1) 31
  let exponentialMs := min (baseMs * 2 ^ exponent) maximumMs
  let jitterWindowMs := exponentialMs / 4
  let seed := Nat.xor delivery.outboxId.id (delivery.attempt * 0x9e3779b97f4a7c15 % 2 ^ 128)
  let jitterMs := if jitterWindowMs = 0 then 0 else seed % (jitterWindowMs + 1)
  pure (Duration.fromMillis (min (exponentialMs + jitterMs) maximumMs))

def finishOutboxDelivery (now : SystemTime) (ownerId : WorkerId) (delivery : OutboxDelivery)
    (result : OutboxDeliveryResult) (maximumAttempts : Nat) (rows : Outbox) : Except OutboxUseCaseError Outbox :=
  match result with
  | .delivered => completeOutbox now ownerId delivery.outboxId rows
  | .failed error => do
    let retryDelay ← exponentialRetryDelay delivery (Duration.fromMillis 100) (Duration.fromMillis 30000)
    retryOutbox now ownerId delivery maximumAttempts retryDelay error rows
  | .failedAfter error retryDelay => retryOutbox now ownerId delivery maximumAttempts retryDelay error rows
  | .terminal error | .outcomeUnknown error =>
    retryOutbox now ownerId delivery delivery.attempt (Duration.fromMillis 1) error rows

/-! ### The driver -/

/-- Where the loop of `drive_outbox_batch` stands with its record. -/
inductive DriverStage where
  | idle
  | claimed (delivery : OutboxDelivery) (route : OutboxRoute)
  | sending (delivery : OutboxDelivery) (target : OutboundTelegramTarget)
  | answered (delivery : OutboxDelivery) (result : OutboxDeliveryResult)
deriving DecidableEq

def DriverStage.delivery : DriverStage → Option OutboxDelivery
  | .idle => none
  | .claimed delivery _ | .sending delivery _ | .answered delivery _ => some delivery

/-- The outbox and its driver. `unsettled` records every item whose latest `sendMessage`
was not definitely rejected; the daemon does not keep it. -/
structure DeliveryRun where
  rows : Outbox := .empty
  ownerId : WorkerId := ⟨0⟩
  stage : DriverStage := .idle
  unsettled : List OutboxId := []

inductive DeliveryOperation where
  | enqueue (outboxId : OutboxId) (topic payloadJson : String) (createdAt : Millis)
  | claim (now : SystemTime) (route : Option OutboxRoute)
  | prepare (credential : TelegramCredential)
  | answer (answer : TelegramAnswer)
  | deliver (result : OutboxDeliveryResult)
  | finish (now : SystemTime)
  | abort
  | restart (ownerId : WorkerId)

inductive DriverError where
  | outOfOrder
  | outbox (error : OutboxUseCaseError)

def DeliveryRun.claim (now : SystemTime) (route : Option OutboxRoute) (s : DeliveryRun) :
    Except DriverError DeliveryRun := do
  ensure (s.stage = .idle) .outOfOrder
  let (outcome, rows) ← (claimNextOutbox now s.ownerId claimTimeout maximumDeliveryAttempts s.rows).mapError .outbox
  match outcome, route with
  | .claimed delivery, some route => pure { s with rows, stage := .claimed delivery route }
  | _, _ => pure { s with rows }

def DeliveryRun.prepare (parse : String → Option Json.Value) (credential : TelegramCredential) (s : DeliveryRun) :
    Except DriverError DeliveryRun :=
  match s.stage with
  | .claimed delivery (.telegram target) =>
    match telegramMessage parse credential delivery with
    | .error error => .ok { s with stage := .answered delivery (.failed error) }
    | .ok _ => .ok { s with stage := .sending delivery target, unsettled := delivery.outboxId :: s.unsettled }
  | _ => .error .outOfOrder

def DeliveryRun.answer (parse : String → Option Json.Value) (answer : TelegramAnswer) (s : DeliveryRun) :
    Except DriverError DeliveryRun :=
  match s.stage with
  | .sending delivery target =>
    .ok { s with
      stage := .answered delivery (telegramResult parse target answer)
      unsettled :=
        if answer.rejects parse target then s.unsettled.filter (· ≠ delivery.outboxId) else s.unsettled }
  | _ => .error .outOfOrder

def DeliveryRun.deliver (result : OutboxDeliveryResult) (s : DeliveryRun) : Except DriverError DeliveryRun :=
  match s.stage with
  | .claimed _ (.telegram _) => .error .outOfOrder
  | .claimed delivery _ => .ok { s with stage := .answered delivery result }
  | _ => .error .outOfOrder

/-- An error of the last transaction ends the batch and leaves the record claimed. -/
def DeliveryRun.finish (now : SystemTime) (s : DeliveryRun) : Except DriverError DeliveryRun :=
  match s.stage with
  | .answered delivery result =>
    match finishOutboxDelivery now s.ownerId delivery result maximumDeliveryAttempts s.rows with
    | .ok rows => .ok { s with rows, stage := .idle }
    | .error _ => .ok { s with stage := .idle }
  | _ => .error .outOfOrder

def DeliveryOperation.exec (parse : String → Option Json.Value) (op : DeliveryOperation) (s : DeliveryRun) :
    Except DriverError DeliveryRun :=
  match op with
  | .enqueue outboxId topic payloadJson createdAt => do
    ensure (s.rows.get outboxId = none)
      (.outbox (.store (.unavailable "UNIQUE constraint failed: outbox.outbox_id")))
    pure { s with rows := s.rows.put outboxId { topic, payloadJson, createdAt } }
  | .claim now route => s.claim now route
  | .prepare credential => s.prepare parse credential
  | .answer received => s.answer parse received
  | .deliver result => s.deliver result
  | .finish now => s.finish now
  | .abort => .ok { s with stage := .idle }
  | .restart ownerId => .ok { s with ownerId, stage := .idle }

def deliverySystem (parse : String → Option Json.Value) : System DriverError DeliveryRun DeliveryOperation where
  initial := {}
  exec := DeliveryOperation.exec parse

end Mealy
