import Mealy.Lib.Decimal
import Mealy.Store.Admission

/-! The Telegram and the Discord adapter of the daemon: what their messages ask for and how
they are ordered. The hash function and the UUID reader are parameters. -/

namespace Mealy.Channels
open Relational Transaction

inductive InboundAction where
  | input (deliveryMode : DeliveryMode) (content : String)
  | approval (approvalId : ApprovalId) (subjectDigest : Json.Digest) (decision : ApprovalDecision)
  | ignore (reason : String)

structure ChannelLibrary where
  sha256 : String → Json.Digest
  parseApprovalId : String → Option ApprovalId

/-! ### Commands in a text -/

/-- `split_once`: what stands before and after the first character of the class. -/
def splitOnce (separator : Char → Bool) (text : String) : Option (String × String) :=
  let head := text.toList.takeWhile fun c => !separator c
  match text.toList.drop head.length with
  | [] => none
  | _ :: rest => some (String.ofList head, String.ofList rest)

theorem splitOnce_append {separator : Char → Bool} {head rest c}
    (clean : ∀ c ∈ head, separator c = false) (cut : separator c = true) :
    splitOnce separator (String.ofList (head ++ c :: rest)) = some (String.ofList head, String.ofList rest) := by
  have first : (head ++ c :: rest).takeWhile (fun c => !separator c) = head := by
    rw [List.takeWhile_append_of_pos (by simpa using clean)]
    simp [cut]
  simp [splitOnce, first]

theorem forall_mem_of_all {p : Char → Prop} [DecidablePred p] {text : List Char} (all : text.all (fun c => p c) = true) :
    ∀ c ∈ text, p c := fun c member => of_decide_eq_true (List.all_eq_true.mp all c member)

def trimStart (text : String) : String := String.ofList (text.toList.dropWhile isWhitespace)

/-- `is_sha256_digest`. -/
def isHexDigit (c : Char) : Bool := (48 ≤ c.toNat ∧ c.toNat ≤ 57) ∨ (97 ≤ c.toNat ∧ c.toNat ≤ 102)

theorem plain_of_isHexDigit {c} (hex : isHexDigit c = true) : Json.Plain c := by
  simp only [isHexDigit, decide_eq_true_eq] at hex
  refine ⟨by omega, by omega, ?_, ?_⟩ <;> rintro rfl <;> simp at hex

def sha256Digest (text : String) : Option Json.Digest :=
  if valid : text.length = 64 ∧ text.toList.all isHexDigit = true then
    some ⟨text, valid.1, fun c member => plain_of_isHexDigit (List.all_eq_true.mp valid.2 c member)⟩
  else none

section
variable (library : ChannelLibrary) (command : String → String)

def approvalArguments (decision : ApprovalDecision) : List String → InboundAction
  | [approvalId, subjectDigest] =>
    match library.parseApprovalId approvalId, sha256Digest subjectDigest with
    | some approvalId, some subjectDigest => .approval approvalId subjectDigest decision
    | _, _ => .ignore "invalid_approval_command"
  | _ => .ignore "invalid_approval_command"

def approvalAction (content : String) : Option InboundAction :=
  match words content with
  | [] => none
  | first :: fields =>
    match command first with
    | "/approve" => some (approvalArguments library .approve fields)
    | "/deny" => some (approvalArguments library .deny fields)
    | _ => none

def deliveryMode (content : String) : Except String (DeliveryMode × String) :=
  match splitOnce isWhitespace content with
  | none =>
    match command content with
    | "/queue" | "/steer" | "/interrupt" => .error "empty_delivery_control"
    | "/start" | "/help" => .error "help_command"
    | _ => .ok (.queue, content)
  | some (first, rest) =>
    let remainder := trimStart rest
    if remainder = "" then .error "empty_delivery_control"
    else
      match command first with
      | "/queue" => .ok (.queue, remainder)
      | "/steer" => .ok (.steerAtBoundary, remainder)
      | "/interrupt" => .ok (.interruptThenQueue, remainder)
      | _ => .ok (.queue, content)

def textAction (content : String) : InboundAction :=
  match approvalAction library command content with
  | some action => action
  | none =>
    match deliveryMode command content with
    | .ok (deliveryMode, content) => .input deliveryMode content
    | .error reason => .ignore reason

end

/-! ### Telegram -/

inductive FetchedTelegramAttachment where
  | text (fileName mediaType : String) (digest : Json.Digest) (content : String)
  | ignored (reason : String)

structure FetchedTelegramUpdate where
  raw : Json.Value
  attachment : Option FetchedTelegramAttachment

/-- The allowed sender and chat of a binding. -/
structure TelegramAccount where
  (telegramUserId telegramChatId : Int)

/-- A bot is addressed as `/command@name`. -/
def telegramCommand (command : String) : String :=
  ((splitOnce (· = '@') command).map Prod.fst).getD command

def telegramContent (caption : Option String) : Option FetchedTelegramAttachment → Except String String
  | some (.ignored reason) => .error reason
  | some (.text fileName mediaType digest content) =>
    .ok (caption.getD "Review the attached untrusted text file." ++ "\n\n[Untrusted Telegram attachment: name=" ++
      Json.quote fileName ++ ", media_type=" ++ mediaType ++ ", sha256=" ++ digest.text ++ "]\n" ++ content ++
      "\n[End untrusted Telegram attachment]")
  | none => require caption "unsupported_attachment"

def telegramUpdateAction (library : ChannelLibrary) (account : TelegramAccount) (update : FetchedTelegramUpdate) :
    InboundAction :=
  match (update.raw.field "message").filter Json.Value.isObject with
  | none => .ignore "unsupported_update"
  | some message =>
    match (message.field "from").filter Json.Value.isObject with
    | none => .ignore "missing_sender"
    | some sender =>
      if (sender.field "id").bind Json.Value.asI64 ≠ some account.telegramUserId ∨
          (sender.field "is_bot").bind Json.Value.asBool = some true then .ignore "sender_not_allowed"
      else if ((message.field "chat").bind (·.field "id")).bind Json.Value.asI64 ≠ some account.telegramChatId then
        .ignore "chat_not_allowed"
      else
        let caption := ((message.field "text").or (message.field "caption")).bind Json.Value.asString
        match telegramContent caption update.attachment with
        | .error reason => .ignore reason
        | .ok content =>
          if content = "" ∨ content.toList.any (fun c => c.toNat = 0) then .ignore "invalid_text"
          else textAction library telegramCommand content

/-! ### Discord -/

def utf8Bytes (text : String) : List Nat := text.toList.flatMap fun c => (String.utf8EncodeChar c).map UInt8.toNat

def validateDiscordSnowflake (value : String) : Bool :=
  value ≠ "" ∧ value.utf8ByteSize ≤ 20 ∧ value.toList.head? ≠ some '0' ∧
    value.toList.all (fun c => 48 ≤ c.toNat ∧ c.toNat ≤ 57) ∧
    Decimal.value (utf8Bytes value) < 2 ^ 64 ∧ Decimal.value (utf8Bytes value) ≠ 0

/-- A canonical decimal identifier. -/
structure Snowflake where
  text : String
  valid : validateDiscordSnowflake text = true

instance : DecidableEq Snowflake := fun a b =>
  decidable_of_iff (a.text = b.text) ⟨fun same => by cases a; cases b; cases same; rfl, fun same => by rw [same]⟩

def Snowflake.ofString (text : String) : Option Snowflake :=
  if valid : validateDiscordSnowflake text = true then some ⟨text, valid⟩ else none

def discordSnowflakePrecedes (left right : String) : Bool := Decimal.precedes (utf8Bytes left) (utf8Bytes right)

structure DiscordAccount where
  (discordUserId discordChannelId : String)

def discordMessageAction (library : ChannelLibrary) (account : DiscordAccount) (message : Json.Value) :
    InboundAction :=
  if (message.field "channel_id").bind Json.Value.asString ≠ some account.discordChannelId then
    .ignore "channel_not_allowed"
  else
    match (message.field "author").filter Json.Value.isObject with
    | none => .ignore "missing_sender"
    | some author =>
      if (author.field "id").bind Json.Value.asString ≠ some account.discordUserId ∨
          (author.field "bot").bind Json.Value.asBool = some true ∨ (message.field "webhook_id").isSome then
        .ignore "sender_not_allowed"
      else if (message.field "type").bind Json.Value.asU64 ≠ some 0 then .ignore "unsupported_message_type"
      else if ((message.field "attachments").bind Json.Value.asArray).any (fun attachments => !attachments.isEmpty) then
        .ignore "unsupported_attachment"
      else
        match (message.field "content").bind Json.Value.asString with
        | none => .ignore "missing_message_content"
        | some content =>
          if content = "" ∨ 8 * 1024 < content.utf8ByteSize ∨ content.toList.any (fun c => c.toNat = 0) then
            .ignore "invalid_text"
          else textAction library id content

def discordRawId (message : Json.Value) : Option String := (message.field "id").bind Json.Value.asString

/-! ### Both platforms -/

inductive Platform where
  | telegram | discord

theorem utf8EncodeChar_digit {c} (small : c.toNat ≤ 57) : (String.utf8EncodeChar c).map UInt8.toNat = [c.toNat] := by
  have size : c.utf8Size = 1 := by
    rw [Char.utf8Size_eq_one_iff]
    exact UInt32.le_iff_toNat_le.mpr (Nat.le_trans small (by decide))
  rw [String.utf8EncodeChar_eq_singleton size]
  simp only [List.map_cons, List.map_nil, List.cons.injEq, and_true]
  change c.val.toNat % 256 = c.val.toNat
  exact Nat.mod_eq_of_lt (Nat.lt_of_le_of_lt small (by decide))

theorem utf8Bytes_digits {text : List Char} (digits : ∀ c ∈ text, 48 ≤ c.toNat ∧ c.toNat ≤ 57) :
    (text.flatMap fun c => (String.utf8EncodeChar c).map UInt8.toNat) = text.map Char.toNat := by
  induction text with
  | nil => rfl
  | cons c text ih =>
    rw [List.flatMap_cons, utf8EncodeChar_digit (digits c (List.mem_cons_self ..)).2,
      ih fun c member => digits c (List.mem_cons_of_mem _ member)]
    rfl

namespace Snowflake

theorem digits (id : Snowflake) : ∀ c ∈ id.text.toList, 48 ≤ c.toNat ∧ c.toNat ≤ 57 := by
  have valid := id.valid
  simp only [validateDiscordSnowflake, decide_eq_true_eq, List.all_eq_true] at valid
  exact valid.2.2.2.1

theorem utf8Bytes_text (id : Snowflake) : utf8Bytes id.text = id.text.toList.map Char.toNat := utf8Bytes_digits id.digits

theorem canonical (id : Snowflake) : Decimal.Canonical (utf8Bytes id.text) := by
  rw [id.utf8Bytes_text]
  refine ⟨fun code listed => ?_, ?_⟩
  · obtain ⟨c, member, rfl⟩ := List.mem_map.mp listed
    have digit := id.digits c member
    exact ⟨digit.1, by omega⟩
  · have valid := id.valid
    simp only [validateDiscordSnowflake, decide_eq_true_eq] at valid
    obtain ⟨nonempty, _, leading, _⟩ := valid
    cases chars : id.text.toList with
    | nil => exact absurd (String.toList_inj.mp (chars.trans String.toList_empty.symm)) nonempty
    | cons c rest =>
      refine ⟨c.toNat, rest.map Char.toNat, rfl, ?_⟩
      have digit := (id.digits c (chars ▸ List.mem_cons_self ..)).1
      have other : c.toNat ≠ 48 := by
        intro zero
        have : c = '0' := Char.ext (UInt32.toNat_inj.mp zero)
        simp [chars, this] at leading
      omega

def value (id : Snowflake) : Nat := Decimal.value (utf8Bytes id.text)

theorem precedes_iff (a b : Snowflake) : discordSnowflakePrecedes a.text b.text = true ↔ a.value ≤ b.value :=
  Decimal.precedes_iff a.canonical b.canonical

end Snowflake

def discordBound : Option Snowflake → Nat
  | none => 0
  | some last => last.value + 1

end Mealy.Channels
