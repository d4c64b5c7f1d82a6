import Mealy.Store.Adapters
import Mealy.Store.TelegramDelivery

/-! What the daemon sends when an effect asks for approval. Both platforms render the same
text and cut it to their own limit; the reply is read by the platform's command parser. The
commands stand last, so that a long text loses them. -/

namespace Mealy.Channels
open Relational Transaction

def truncateDiscordMessage : String → String := truncateMessage 2000

def renderDiscordOutbox (parse : String → Option Json.Value) : OutboxDelivery → Except String String :=
  renderOutbox parse "Discord" truncateDiscordMessage

/-! ### The platforms -/

def Platform.maximumCharacters : Platform → Nat
  | .telegram => 4096
  | .discord => 2000

def Platform.renderOutbox (parse : String → Option Json.Value) : Platform → OutboxDelivery → Except String String
  | .telegram => renderTelegramOutbox parse
  | .discord => renderDiscordOutbox parse

/-- `telegram_approval_action` and `discord_approval_action`. -/
def Platform.approvalAction (library : ChannelLibrary) : Platform → String → Option InboundAction
  | .telegram => Channels.approvalAction library telegramCommand
  | .discord => Channels.approvalAction library id

/-- The payload that the ledger stores beside the approval request. -/
def approvalRequestedPayload (sessionId : SessionId) (approvalId : ApprovalId) (effectId : EffectId)
    (subjectDigest : Json.Digest) (toolId : String) (normalizedArguments : Json.Value) (targetResources : List String)
    (expiresAt : Millis) : Json.Value :=
  .object [("session_id", .string (Json.uuidText sessionId.id)), ("approval_id", .string (Json.uuidText approvalId.id)),
    ("effect_id", .string (Json.uuidText effectId.id)), ("subject_digest", .string subjectDigest.text),
    ("tool_id", .string toolId), ("normalized_arguments", normalizedArguments),
    ("target_resources", .array (targetResources.map .string)), ("expires_at_ms", .nat expiresAt)]

def decisionWord : ApprovalDecision → String
  | .approve => "/approve"
  | .deny => "/deny"

def decisionCommand (approvalId : ApprovalId) (subjectDigest : Json.Digest) (decision : ApprovalDecision) : String :=
  decisionWord decision ++ " " ++ Json.uuidText approvalId.id ++ " " ++ subjectDigest.text

/-- What the owner needs of a notice: it can be sent, it names the subject, and either command
in it decides this very approval. -/
structure Actionable (library : ChannelLibrary) (platform : Platform) (approvalId : ApprovalId)
    (subjectDigest : Json.Digest) (text : String) : Prop where
  bounded : text.length ≤ platform.maximumCharacters
  subject : subjectDigest.text.toList <:+: text.toList
  commands : ∀ decision, (decisionCommand approvalId subjectDigest decision).toList <:+: text.toList
  answers : ∀ decision, platform.approvalAction library (decisionCommand approvalId subjectDigest decision) =
    some (.approval approvalId subjectDigest decision)

/-! ### Reading a command back -/

theorem words_three {first second third} (clean : ∀ word ∈ [first, second, third], word.toList ≠ [] ∧
    ∀ c ∈ word.toList, isWhitespace c = false) :
    words (first ++ " " ++ second ++ " " ++ third) = [first, second, third] := by
  simp only [List.forall_mem_cons, List.not_mem_nil, false_imp_iff, implies_true, and_true] at clean
  obtain ⟨⟨filled, clean⟩, ⟨filled', clean'⟩, filled'', clean''⟩ := clean
  have blank : isWhitespace ' ' = true := by decide
  have spaced : (first ++ " " ++ second ++ " " ++ third).toList =
      first.toList ++ ' ' :: (second.toList ++ ' ' :: third.toList) := by simp
  rw [words, spaced, List.splitOnP_append_cons_of_forall_mem clean _ blank,
    List.splitOnP_append_cons_of_forall_mem clean' _ blank, List.splitOnP_eq_singleton clean'']
  simp [filled, filled', filled'']

theorem isWhitespace_of_hex {c} (hex : isHexDigit c = true) : isWhitespace c = false := by
  simp only [isHexDigit, decide_eq_true_eq] at hex
  simp only [isWhitespace, decide_eq_false_iff_not]
  omega

section
variable {library : ChannelLibrary} {approvalId : ApprovalId} {subjectDigest : Json.Digest}

theorem words_decisionCommand (approvalId) (hex : sha256Digest subjectDigest.text = some subjectDigest) (decision) :
    words (decisionCommand approvalId subjectDigest decision) =
      [decisionWord decision, Json.uuidText approvalId.id, subjectDigest.text] := by
  apply words_three
  intro word member
  simp only [List.mem_cons, List.not_mem_nil, or_false] at member
  rcases member with rfl | rfl | rfl
  · cases decision <;> exact ⟨by decide, forall_mem_of_all (by decide)⟩
  · refine ⟨List.ne_nil_of_length_pos ?_, Json.forall_mem_uuidText (by decide) (by decide) _⟩
    rw [String.length_toList, Json.length_uuidText]
    decide
  · refine ⟨List.ne_nil_of_length_pos ?_, ?_⟩
    · rw [String.length_toList, subjectDigest.length_text]
      decide
    · intro c member
      simp only [sha256Digest, Option.dite_none_right_eq_some, List.all_eq_true] at hex
      exact isWhitespace_of_hex (hex.1.2 c member)

theorem approvalAction_decisionCommand (reads : library.parseApprovalId (Json.uuidText approvalId.id) = some approvalId)
    (hex : sha256Digest subjectDigest.text = some subjectDigest) (platform : Platform) (decision) :
    platform.approvalAction library (decisionCommand approvalId subjectDigest decision) =
      some (.approval approvalId subjectDigest decision) := by
  have words := words_decisionCommand approvalId hex decision
  cases platform <;> cases decision <;>
    simp [Platform.approvalAction, approvalAction, words, decisionWord, approvalArguments, reads, hex, telegramCommand, splitOnce]

/-! ### What the cut leaves -/

theorem length_approvalNotice (toolId subject approval) (targets arguments) :
    (approvalNotice toolId targets arguments subject approval).length =
      toolId.length + targets.render.length + arguments.render.length + 3 * subject.length + 2 * approval.length + 97 := by
  have head : "Mealy approval required\nTool: ".length = 30 := rfl
  have targets : "\nTargets: ".length = 10 := rfl
  have arguments : "\nArguments: ".length = 12 := rfl
  have subject : "\nSubject: ".length = 10 := rfl
  have approve : "\n\nApprove: /approve ".length = 20 := rfl
  have blank : " ".length = 1 := rfl
  have deny : "\nDeny: /deny ".length = 13 := rfl
  unfold approvalNotice
  simp only [String.length_append, head, targets, arguments, subject, approve, blank, deny]
  omega

theorem infix_approvalNotice (toolId subject approval) (targets arguments) (decision) :
    (decisionWord decision ++ " " ++ approval ++ " " ++ subject).toList <:+:
      (approvalNotice toolId targets arguments subject approval).toList := by
  have approve : "\n\nApprove: /approve " = "\n\nApprove: " ++ "/approve" ++ " " := rfl
  have deny : "\nDeny: /deny " = "\nDeny: " ++ "/deny" ++ " " := rfl
  unfold approvalNotice
  simp only [approve, deny]
  generalize "Mealy approval required\nTool: " ++ toolId ++ "\nTargets: " ++ targets.render ++ "\nArguments: " ++
    arguments.render ++ "\nSubject: " ++ subject = above
  simp only [String.toList_append, List.append_assoc]
  cases decision with
  | approve =>
    refine ⟨above.toList ++ "\n\nApprove: ".toList, "\nDeny: ".toList ++ ("/deny".toList ++ (" ".toList ++ (approval.toList ++
      (" ".toList ++ subject.toList)))), ?_⟩
    simp only [decisionWord, List.append_assoc]
  | deny =>
    refine ⟨above.toList ++ ("\n\nApprove: ".toList ++ ("/approve".toList ++ (" ".toList ++ (approval.toList ++ (" ".toList ++
      (subject.toList ++ "\nDeny: ".toList)))))), [], ?_⟩
    simp only [decisionWord, List.append_assoc, List.append_nil]

theorem newline_not_mem_decisionCommand (approvalId) (subjectDigest) (decision) :
    '\n' ∉ (decisionCommand approvalId subjectDigest decision).toList := by
  intro member
  have word : '\n' ∉ (decisionWord decision).toList := by cases decision <;> decide
  have blank : '\n' ∉ " ".toList := by decide
  have identifier := Json.forall_mem_uuidText (P := (· ≠ '\n')) (by decide) (by decide) approvalId.id '\n'
  have digest := subjectDigest.plain_text '\n'
  simp only [decisionCommand, String.toList_append, List.mem_append, word, blank, false_or] at member
  rcases member with named | named
  · simp only [or_false] at named
    exact identifier named rfl
  · exact absurd (digest named) (by decide)

theorem slash_mem_decisionCommand (approvalId) (subjectDigest) (decision) :
    '/' ∈ (decisionCommand approvalId subjectDigest decision).toList := by
  cases decision <;> simp [decisionCommand, decisionWord]

theorem decisionCommand_infix_truncated {limit text} (long : limit < text.length) (decision) :
    (decisionCommand approvalId subjectDigest decision).toList <:+: (truncateMessage limit text).toList ↔
      (decisionCommand approvalId subjectDigest decision).toList <:+:
        text.toList.take (limit - truncationMarker.length) := by
  have marked : truncationMarker = String.ofList ('\n' :: truncationMarker.toList.tail) := rfl
  have plain : '/' ∉ truncationMarker.toList := by decide
  rw [truncateMessage, if_neg (Nat.not_le.mpr long), String.toList_append, String.toList_ofList, List.infix_append_iff]
  constructor
  · intro found
    rcases found with kept | inside | ⟨front, back, split, ends, begins⟩
    · exact kept
    · exact absurd (inside.subset (slash_mem_decisionCommand approvalId subjectDigest decision)) plain
    · cases back with
      | nil => exact split ▸ (by simpa using ends.isInfix)
      | cons c back =>
        have first : c = '\n' := by
          rw [marked, String.toList_ofList] at begins
          exact (List.cons_prefix_cons.mp begins).1
        exact absurd (by rw [split, first]; simp) (newline_not_mem_decisionCommand approvalId subjectDigest decision)
  · exact .inl

theorem decisionCommand_lost {limit text front back} (split : text.toList = front ++ back) (free : '/' ∉ front)
    (long : limit < front.length) (decision) :
    ¬ (decisionCommand approvalId subjectDigest decision).toList <:+: (truncateMessage limit text).toList := by
  have size := congrArg List.length split
  rw [String.length_toList, List.length_append] at size
  rw [decisionCommand_infix_truncated (by omega), split, List.take_append_of_le_length (by omega)]
  intro found
  exact free (List.mem_of_mem_take (found.subset (slash_mem_decisionCommand approvalId subjectDigest decision)))

theorem length_truncateMessage {limit} (room : truncationMarker.length ≤ limit) (text) :
    (truncateMessage limit text).length ≤ limit := by
  unfold truncateMessage
  split
  next short => exact short
  next => simp; omega

end

/-! ### The notice of a request -/

section
variable {library : ChannelLibrary} {parse : String → Option Json.Value} {delivery : OutboxDelivery}
variable {sessionId : SessionId} {approvalId : ApprovalId} {effectId : EffectId} {subjectDigest : Json.Digest}
variable {toolId : String} {normalizedArguments : Json.Value} {targetResources : List String} {expiresAt : Millis}

theorem renderOutbox_approval (topic : delivery.topic = "effect.approval_requested")
    (parsed : parse delivery.payloadJson = some (approvalRequestedPayload sessionId approvalId effectId subjectDigest toolId
      normalizedArguments targetResources expiresAt)) (platform : Platform) :
    platform.renderOutbox parse delivery = .ok (truncateMessage platform.maximumCharacters
      (approvalNotice toolId (.array (targetResources.map .string)) normalizedArguments subjectDigest.text
        (Json.uuidText approvalId.id))) := by
  cases platform
  all_goals
    simp only [Platform.renderOutbox, renderTelegramOutbox, renderDiscordOutbox, renderOutbox, parsed, topic]
    rfl

/-- A notice is actionable exactly when the tool, the targets and the arguments leave room for
the commands behind them, unless they quote the commands themselves in the part that is kept. -/
theorem approval_notice_actionable_iff
    (reads : library.parseApprovalId (Json.uuidText approvalId.id) = some approvalId)
    (hex : sha256Digest subjectDigest.text = some subjectDigest) (topic : delivery.topic = "effect.approval_requested")
    (parsed : parse delivery.payloadJson = some (approvalRequestedPayload sessionId approvalId effectId subjectDigest toolId
      normalizedArguments targetResources expiresAt)) (platform : Platform) :
    (∃ text, platform.renderOutbox parse delivery = .ok text ∧ Actionable library platform approvalId subjectDigest text) ↔
      toolId.length + (Json.Value.array (targetResources.map .string)).render.length + normalizedArguments.render.length + 361 ≤
        platform.maximumCharacters ∨
      ∀ decision, (decisionCommand approvalId subjectDigest decision).toList <:+:
        (approvalNotice toolId (.array (targetResources.map .string)) normalizedArguments subjectDigest.text
          (Json.uuidText approvalId.id)).toList.take (platform.maximumCharacters - truncationMarker.length) := by
  have size := length_approvalNotice toolId subjectDigest.text (Json.uuidText approvalId.id)
    (.array (targetResources.map .string)) normalizedArguments
  have listed := infix_approvalNotice toolId subjectDigest.text (Json.uuidText approvalId.id)
    (.array (targetResources.map .string)) normalizedArguments
  rw [renderOutbox_approval topic parsed]
  generalize approvalNotice toolId (.array (targetResources.map .string)) normalizedArguments subjectDigest.text
    (Json.uuidText approvalId.id) = notice at size listed ⊢
  rw [subjectDigest.length_text, Json.length_uuidText] at size
  have fits : toolId.length + (Json.Value.array (targetResources.map .string)).render.length +
      normalizedArguments.render.length + 361 ≤ platform.maximumCharacters ↔ notice.length ≤ platform.maximumCharacters := by
    omega
  rw [fits]
  have room : truncationMarker.length ≤ platform.maximumCharacters := by cases platform <;> decide
  have actionable (commands : ∀ decision, (decisionCommand approvalId subjectDigest decision).toList <:+:
      (truncateMessage platform.maximumCharacters notice).toList) : Actionable library platform approvalId subjectDigest
      (truncateMessage platform.maximumCharacters notice) := by
    refine ⟨length_truncateMessage room _, ?_, commands, approvalAction_decisionCommand reads hex platform⟩
    refine List.IsInfix.trans ?_ (commands .approve)
    simp only [decisionCommand, String.toList_append]
    exact (List.suffix_append _ _).isInfix
  by_cases short : notice.length ≤ platform.maximumCharacters
  · refine iff_of_true ⟨_, rfl, actionable fun decision => ?_⟩ (.inl short)
    rw [truncateMessage, if_pos short]
    exact listed decision
  · have cut := @decisionCommand_infix_truncated approvalId subjectDigest _ _ (Nat.not_le.mp short)
    constructor
    · intro found
      obtain ⟨text, rendered, sent⟩ := found
      cases rendered
      exact .inr fun decision => (cut decision).mp (sent.commands decision)
    · intro early
      have early := early.resolve_left short
      exact ⟨_, rfl, actionable fun decision => (cut decision).mpr (early decision)⟩

end

def sampleNoticeLibrary : ChannelLibrary where
  sha256 := fun _ => Json.Digest.ofNat 0
  parseApprovalId := fun _ => some ⟨1⟩

def sampleRequest (content : String) : Json.Value :=
  approvalRequestedPayload ⟨1⟩ ⟨1⟩ ⟨1⟩ (Json.Digest.ofNat 0) "workspace.create_file" (.object [("content", .string content)])
    ["notes.txt"] 9

def sampleNotice (content : String) : OutboxDelivery :=
  ⟨⟨1⟩, "effect.approval_requested", (sampleRequest content).render, 1⟩

theorem approval_notice_actionable_short :
    ∃ text, Platform.discord.renderOutbox (fun _ => some (sampleRequest "hi")) (sampleNotice "hi") = .ok text ∧
      Actionable sampleNoticeLibrary .discord ⟨1⟩ (Json.Digest.ofNat 0) text :=
  (approval_notice_actionable_iff rfl (by decide +kernel) rfl rfl .discord).mpr (.inl (by decide +kernel))

theorem escapeAll_replicate (n) : (Json.escapeAll (List.replicate n 'a')).toList = List.replicate n 'a' := by
  induction n with
  | zero => rfl
  | succ n ih => rw [List.replicate_succ, Json.escapeAll, String.toList_append, ih]; rfl

theorem approvalNotice_content (toolId subject approval content) (targets) :
    ∃ back, (approvalNotice toolId targets (.object [("content", .string content)]) subject approval).toList =
      ("Mealy approval required\nTool: " ++ toolId ++ "\nTargets: " ++ targets.render ++ "\nArguments: " ++ "\x7b" ++
        Json.quote "content" ++ ":" ++ "\"").toList ++ ((Json.escapeAll content.toList).toList ++ back) := by
  have arguments : (Json.Value.object [("content", .string content)]).render =
      "\x7b" ++ (Json.quote "content" ++ ":" ++ ("\"" ++ Json.escapeAll content.toList ++ "\"")) ++ "\x7d" := by
    simp only [Json.Value.render, Json.renderFields]
    rfl
  unfold approvalNotice
  simp only [arguments, String.toList_append, List.append_assoc]
  exact ⟨_, rfl⟩

/-- A file of two thousand and one letters leaves neither command in the text that is sent. -/
theorem approval_notice_loses_commands :
    ∃ text, Platform.discord.renderOutbox (fun _ => some (sampleRequest (String.ofList (List.replicate 2001 'a'))))
        (sampleNotice (String.ofList (List.replicate 2001 'a'))) = .ok text ∧
      ∀ decision, ¬ (decisionCommand ⟨1⟩ (Json.Digest.ofNat 0) decision).toList <:+: text.toList := by
  refine ⟨_, renderOutbox_approval rfl rfl .discord, fun decision found => ?_⟩
  obtain ⟨back, notice⟩ := approvalNotice_content "workspace.create_file" (Json.Digest.ofNat 0).text (Json.uuidText 1)
    (String.ofList (List.replicate 2001 'a')) (.array (["notes.txt"].map .string))
  rw [String.toList_ofList, escapeAll_replicate, ← List.append_assoc] at notice
  refine decisionCommand_lost notice ?_ ?_ decision found
  · intro member
    rcases List.mem_append.mp member with early | letters
    · exact absurd early (by decide +kernel)
    · exact absurd (List.eq_of_mem_replicate letters) (by decide)
  · rw [List.length_append, List.length_replicate]
    exact Nat.lt_add_left _ (by decide)

end Mealy.Channels
