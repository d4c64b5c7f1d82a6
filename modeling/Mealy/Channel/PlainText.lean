import Mealy.Store.Adapters

/-! Plain text in a chat. A text whose first word is no command is to be queued as it stands,
and a delivery control takes its own words away. Commands are recognised by two readings of the
text, all words and the part before the first whitespace, which differ where a text starts or
ends with whitespace. -/

namespace Mealy.Channels
open Transaction

/-- The commands of `QUICKSTART.md`. -/
def documentedCommands : List String := ["/queue", "/steer", "/interrupt", "/approve", "/deny"]

def controlMode : String → Option DeliveryMode
  | "/queue" => some .queue
  | "/steer" => some .steerAtBoundary
  | "/interrupt" => some .interruptThenQueue
  | _ => none

def isWord (c : Char) : Bool := !isWhitespace c

/-- What follows the first word, without its leading whitespace. -/
def afterFirstWord (text : String) : String :=
  trimStart (String.ofList ((text.toList.dropWhile isWhitespace).dropWhile isWord))

section
variable (command : String → String) (text : String)

def IsPlain : Prop := ∀ word, (words text).head? = some word → command word ∉ documentedCommands

/-- The text is queued unchanged, or is what follows its delivery control. -/
structure KeepsText (action : InboundAction) : Prop where
  plain : IsPlain command text → action = .input .queue text
  control : ∀ word mode, (words text).head? = some word → controlMode (command word) = some mode →
    afterFirstWord text ≠ "" → action = .input mode (afterFirstWord text)

/-- There is whitespace, and nothing else from there on. -/
def EndsInWhitespace : Prop := (text.toList.dropWhile isWord) ≠ [] ∧ ∀ c ∈ text.toList.dropWhile isWord, isWhitespace c

/-- A plain text does not stop at its first whitespace and is not `/start` or `/help` alone; a
control with text behind it stands at the very beginning. -/
structure WellSpaced : Prop where
  plain : IsPlain command text → ¬ EndsInWhitespace text ∧
    ((∀ c ∈ text.toList, isWord c) → command text ∉ ["/start", "/help"])
  control : ∀ word mode, (words text).head? = some word → controlMode (command word) = some mode →
    afterFirstWord text ≠ "" → text.toList.head?.all isWord

end

/-! ### The shapes of a text -/

section
variable {lead word rest : List Char}

theorem words_of_blank (blank : ∀ c ∈ lead, isWhitespace c = true) : words (String.ofList lead) = [] := by
  induction lead with
  | nil => rfl
  | cons c lead ih =>
    obtain ⟨first, others⟩ := List.forall_mem_cons.mp blank
    have shorter := ih others
    simp only [words, String.toList_ofList] at shorter ⊢
    rw [List.splitOnP_cons_eq_if_modifyHead, if_pos first]
    simpa using shorter

theorem words_head (blank : ∀ c ∈ lead, isWhitespace c = true) (clean : ∀ c ∈ word, isWhitespace c = false)
    (filled : word ≠ []) (after : rest.head?.all isWhitespace = true) :
    (words (String.ofList (lead ++ word ++ rest))).head? = some (String.ofList word) := by
  induction lead with
  | nil =>
    cases rest with
    | nil => simp [words, List.splitOnP_eq_singleton clean, filled]
    | cons c rest => simp [words, List.splitOnP_append_cons_of_forall_mem clean _ after, filled]
  | cons c lead ih =>
    obtain ⟨first, others⟩ := List.forall_mem_cons.mp blank
    have shorter := ih others
    simp only [words, String.toList_ofList, List.append_assoc, List.cons_append] at shorter ⊢
    rw [List.splitOnP_cons_eq_if_modifyHead, if_pos first]
    simpa using shorter

theorem afterFirstWord_shape (blank : ∀ c ∈ lead, isWhitespace c = true)
    (clean : ∀ c ∈ word, isWhitespace c = false) (filled : word ≠ []) (after : rest.head?.all isWhitespace = true) :
    afterFirstWord (String.ofList (lead ++ word ++ rest)) = trimStart (String.ofList rest) := by
  obtain ⟨first, others, rfl⟩ := List.exists_cons_of_ne_nil filled
  obtain ⟨start, _⟩ := List.forall_mem_cons.mp clean
  have stops : rest.dropWhile isWord = rest := by
    cases rest with
    | nil => rfl
    | cons c rest => simp_all [isWord]
  have within_ : ∀ c ∈ first :: others, isWord c = true := fun c member => by simp [isWord, clean c member]
  rw [afterFirstWord, String.toList_ofList, List.append_assoc, List.dropWhile_append_of_pos blank, List.cons_append,
    List.dropWhile_cons_of_neg (by simp [start]), ← List.cons_append, List.dropWhile_append_of_pos within_, stops]

theorem text_shape (text : String) : (∀ c ∈ text.toList, isWhitespace c = true) ∨ ∃ lead word rest,
    text = String.ofList (lead ++ word ++ rest) ∧ (∀ c ∈ lead, isWhitespace c = true) ∧
      (∀ c ∈ word, isWhitespace c = false) ∧ word ≠ [] ∧ rest.head?.all isWhitespace = true := by
  cases tail : text.toList.dropWhile isWhitespace with
  | nil => exact .inl (List.dropWhile_eq_nil_iff.mp tail)
  | cons first others =>
    have start := List.head?_dropWhile_not isWhitespace text.toList
    rw [tail, List.head?_cons] at start
    refine .inr ⟨text.toList.takeWhile isWhitespace, (first :: others).takeWhile isWord,
      (first :: others).dropWhile isWord, ?_, fun c => List.mem_takeWhile_imp, fun c member => ?_, ?_, ?_⟩
    · rw [List.append_assoc, List.takeWhile_append_dropWhile, ← tail, List.takeWhile_append_dropWhile,
        String.ofList_toList]
    · simpa [isWord] using List.mem_takeWhile_imp member
    · simp_all [isWord]
    · have stop := List.head?_dropWhile_not isWord (first :: others)
      cases after : (first :: others).dropWhile isWord with
      | nil => rfl
      | cons c rest => simpa [after, isWord] using stop

end

/-! ### What becomes of a text -/

section
variable {library : ChannelLibrary} {command : String → String} {text : String}

theorem deliveryMode_of_leading (empty : command "" = "") {c lead word rest} (first : isWhitespace c = true)
    (blank : ∀ c ∈ lead, isWhitespace c = true) (clean : ∀ c ∈ word, isWhitespace c = false) (filled : word ≠ []) :
    deliveryMode command (String.ofList (c :: lead ++ word ++ rest)) =
      .ok (.queue, String.ofList (c :: lead ++ word ++ rest)) := by
  obtain ⟨start, others, rfl⟩ := List.exists_cons_of_ne_nil filled
  have remains : trimStart (String.ofList (lead ++ start :: others ++ rest)) ≠ "" := by
    have stop := (List.forall_mem_cons.mp clean).1
    rw [trimStart, String.toList_ofList, List.append_assoc, List.dropWhile_append_of_pos blank]
    simp [stop]
  have cut : splitOnce isWhitespace (String.ofList ([] ++ c :: (lead ++ start :: others ++ rest))) = some ("", _) :=
    splitOnce_append nofun first
  simp only [List.nil_append] at cut
  simp only [deliveryMode, List.cons_append, cut, remains, if_false, empty]
  rfl

theorem deliveryMode_of_word {c word rest} (clean : ∀ c ∈ word, isWhitespace c = false) (after : isWhitespace c = true) :
    deliveryMode command (String.ofList (word ++ c :: rest)) =
      if trimStart (String.ofList rest) = "" then .error "empty_delivery_control"
      else .ok (match controlMode (command (String.ofList word)) with
        | some mode => (mode, trimStart (String.ofList rest))
        | none => (.queue, String.ofList (word ++ c :: rest))) := by
  simp only [deliveryMode, splitOnce_append clean after]
  split
  · rfl
  · unfold controlMode
    split <;> simp_all

theorem approvalAction_none (other : ∀ word, (words text).head? = some word →
    command word ≠ "/approve" ∧ command word ≠ "/deny") : approvalAction library command text = none := by
  unfold approvalAction
  split
  · rfl
  next first fields isFirst =>
    obtain ⟨notApprove, notDeny⟩ := other first (by rw [isFirst]; rfl)
    split <;> simp_all

theorem IsPlain.unapproved (plain : IsPlain command text) : approvalAction library command text = none := by
  refine approvalAction_none fun word isFirst => ?_
  have other := plain word isFirst
  simp only [documentedCommands, List.mem_cons, not_or] at other
  exact ⟨other.2.2.2.1, other.2.2.2.2.1⟩

theorem IsPlain.controlMode (plain : IsPlain command text) {word} (isFirst : (words text).head? = some word) :
    controlMode (command word) = none := by
  have other := plain word isFirst
  simp only [documentedCommands, List.mem_cons, not_or] at other
  unfold Channels.controlMode
  split <;> simp_all

theorem unapproved_of_control {word mode} (isFirst : (words text).head? = some word)
    (control : controlMode (command word) = some mode) : approvalAction library command text = none := by
  refine approvalAction_none fun word' isFirst' => ?_
  cases isFirst.symm.trans isFirst'
  constructor <;> intro same <;> simp [same, controlMode] at control

theorem trimStart_eq_empty {rest} : trimStart (String.ofList rest) = "" ↔ ∀ c ∈ rest, isWhitespace c = true := by
  rw [trimStart, String.toList_ofList, ← List.dropWhile_eq_nil_iff]
  exact String.ofList_eq_empty_iff

theorem trimStart_head {rest c others} (trimmed : trimStart (String.ofList rest) = String.ofList (c :: others)) :
    isWhitespace c = false := by
  have stop := List.head?_dropWhile_not isWhitespace rest
  rw [trimStart, String.toList_ofList] at trimmed
  simpa [String.ofList_injective trimmed] using stop

theorem keeps_blank {c lead} (blank : ∀ x ∈ c :: lead, isWhitespace x = true) :
    KeepsText command (String.ofList (c :: lead)) (textAction library command (String.ofList (c :: lead))) ↔
      WellSpaced command (String.ofList (c :: lead)) := by
  obtain ⟨first, others⟩ := List.forall_mem_cons.mp blank
  have plain : IsPlain command (String.ofList (c :: lead)) := by
    intro word isFirst
    rw [words_of_blank blank] at isFirst
    cases isFirst
  have dropped : deliveryMode command (String.ofList ([] ++ c :: lead)) = _ := deliveryMode_of_word nofun first
  rw [if_pos (trimStart_eq_empty.mpr others), List.nil_append] at dropped
  refine ⟨fun keeps => ?_, fun spaced => ?_⟩
  · have queued := keeps.plain plain
    simp only [textAction, plain.unapproved, dropped] at queued
    cases queued
  · refine absurd ?_ (spaced.plain plain).1
    rw [EndsInWhitespace, String.toList_ofList, List.dropWhile_cons_of_neg (by simp [isWord, first])]
    exact ⟨List.cons_ne_nil _ _, blank⟩

section
variable {word rest : List Char} (clean : ∀ c ∈ word, isWhitespace c = false) (filled : word ≠ [])
include clean filled

theorem keeps_leading (empty : command "" = "") {c lead} (blank : ∀ x ∈ c :: lead, isWhitespace x = true)
    (after : rest.head?.all isWhitespace = true) (isText : text = String.ofList (c :: lead ++ word ++ rest)) :
    KeepsText command text (textAction library command text) ↔ WellSpaced command text := by
  obtain ⟨first, others⟩ := List.forall_mem_cons.mp blank
  have isFirst := words_head blank clean filled after
  have queued : deliveryMode command (String.ofList (c :: lead ++ word ++ rest)) = _ :=
    deliveryMode_of_leading empty first others clean filled
  have starts : text.toList = c :: (lead ++ word ++ rest) := by simp [isText]
  rw [← isText] at isFirst queued
  refine ⟨fun keeps => ⟨fun _ => ⟨?_, fun within_ => ?_⟩, fun word' mode isWord' control follows => ?_⟩,
    fun spaced => ⟨fun plain => ?_, fun word' mode isWord' control follows => ?_⟩⟩
  · rintro ⟨_, only⟩
    rw [starts, List.dropWhile_cons_of_neg (by simp [isWord, first])] at only
    obtain ⟨start, others, rfl⟩ := List.exists_cons_of_ne_nil filled
    have blank := only start (by simp)
    simp [clean start] at blank
  · have other := within_ c (by simp [starts])
    simp [isWord, first] at other
  · have input := keeps.control word' mode isWord' control follows
    simp only [textAction, unapproved_of_control isWord' control, queued, InboundAction.input.injEq] at input
    have trimmed := input.2.symm
    rw [afterFirstWord, isText] at trimmed
    have other := trimStart_head trimmed
    rw [first] at other
    cases other
  · simp only [textAction, plain.unapproved, queued]
  · have other := spaced.control word' mode isWord' control follows
    simp [starts, isWord, first] at other

theorem keeps_alone (isText : text = String.ofList word) :
    KeepsText command text (textAction library command text) ↔ WellSpaced command text := by
  have isFirst : (words text).head? = some text := by
    have head : (words (String.ofList ([] ++ word ++ []))).head? = _ := words_head nofun clean filled rfl
    rwa [List.nil_append, List.append_nil, ← isText] at head
  have within_ : ∀ c ∈ text.toList, isWord c = true := fun c member => by
    rw [isText, String.toList_ofList] at member
    simp [isWord, clean c member]
  have nothing : afterFirstWord text = "" := by
    have after : afterFirstWord (String.ofList ([] ++ word ++ [])) = _ := afterFirstWord_shape nofun clean filled rfl
    rwa [List.nil_append, List.append_nil, ← isText] at after
  have whole : splitOnce isWhitespace text = none := by
    have all : text.toList.takeWhile (fun c => !isWhitespace c) = text.toList := List.takeWhile_eq_self_iff.mpr within_
    simp [splitOnce, all]
  refine ⟨fun keeps => ⟨fun plain => ⟨fun ends => ends.1 (List.dropWhile_eq_nil_iff.mpr within_), fun _ help => ?_⟩,
    fun _ _ _ _ follows => absurd nothing follows⟩, fun spaced => ⟨fun plain => ?_,
    fun _ _ _ _ follows => absurd nothing follows⟩⟩
  · have queued := keeps.plain plain
    simp only [List.mem_cons, List.not_mem_nil, or_false] at help
    rcases help with help | help <;> simp [textAction, plain.unapproved, deliveryMode, whole, help] at queued
  · have other := (spaced.plain plain).2 within_
    have undocumented := plain text isFirst
    simp only [documentedCommands, List.mem_cons, List.not_mem_nil, or_false, not_or] at other undocumented
    simp only [textAction, plain.unapproved, deliveryMode, whole]
    split <;> simp_all

theorem keeps_spaced {c} (after : isWhitespace c = true) (isText : text = String.ofList (word ++ c :: rest)) :
    KeepsText command text (textAction library command text) ↔ WellSpaced command text := by
  have isFirst : (words (String.ofList ([] ++ word ++ c :: rest))).head? = _ := words_head nofun clean filled after
  have follows : afterFirstWord (String.ofList ([] ++ word ++ c :: rest)) = _ :=
    afterFirstWord_shape nofun clean filled after
  have delivered : deliveryMode command (String.ofList (word ++ c :: rest)) = _ := deliveryMode_of_word clean after
  rw [List.nil_append, ← isText] at isFirst follows
  rw [← isText] at delivered
  have trimmed : afterFirstWord text = trimStart (String.ofList rest) := by
    rw [follows, trimStart, trimStart, String.toList_ofList, String.toList_ofList, List.dropWhile_cons_of_pos after]
  have ends : EndsInWhitespace text ↔ trimStart (String.ofList rest) = "" := by
    have within_ : ∀ c ∈ word, isWord c = true := fun c member => by simp [isWord, clean c member]
    rw [EndsInWhitespace, isText, String.toList_ofList, List.dropWhile_append_of_pos within_,
      List.dropWhile_cons_of_neg (by simp [isWord, after]), trimStart_eq_empty]
    simp [after]
  refine ⟨fun keeps => ⟨fun plain => ⟨fun ended => ?_, fun within_ => ?_⟩, fun _ _ _ _ _ => ?_⟩,
    fun spaced => ⟨fun plain => ?_, fun word' mode isWord' control follows => ?_⟩⟩
  · have queued := keeps.plain plain
    simp [textAction, plain.unapproved, delivered, ends.mp ended] at queued
  · have other := within_ c (by simp [isText])
    simp [isWord, after] at other
  · obtain ⟨start, others, rfl⟩ := List.exists_cons_of_ne_nil filled
    simp [isText, isWord, clean start]
  · have more := fun empty => (spaced.plain plain).1 (ends.mpr empty)
    simp only [textAction, plain.unapproved, delivered, plain.controlMode isFirst, if_neg more]
  · cases isFirst.symm.trans isWord'
    rw [trimmed] at follows ⊢
    simp only [textAction, unapproved_of_control isFirst control, delivered, control, if_neg follows]

end

theorem textAction_keeps_iff (empty : command "" = "") (filled : text ≠ "") :
    KeepsText command text (textAction library command text) ↔ WellSpaced command text := by
  rcases text_shape text with blank | ⟨lead, word, rest, isText, blank, clean, some, after⟩
  · obtain ⟨c, lead, shape⟩ := List.exists_cons_of_ne_nil fun none => filled (String.toList_eq_nil_iff.mp none)
    rw [shape] at blank
    obtain rfl : text = String.ofList (c :: lead) := by rw [← shape, String.ofList_toList]
    exact keeps_blank blank
  · cases lead with
    | cons c lead => exact keeps_leading clean some empty blank after isText
    | nil =>
      cases rest with
      | nil => exact keeps_alone clean some (by simpa using isText)
      | cons c rest => exact keeps_spaced clean some after (by simpa using isText)

end

/-! ### Both platforms -/

/-- A message of the allowed sender in the allowed chat, with a text and nothing attached. -/
structure TelegramText (account : TelegramAccount) (update : FetchedTelegramUpdate) (text : String) : Prop where
  sent : ∃ message sender, update.raw.field "message" = some message ∧ message.isObject = true ∧
    message.field "from" = some sender ∧ sender.isObject = true ∧
    (sender.field "id").bind Json.Value.asI64 = some account.telegramUserId ∧
    (sender.field "is_bot").bind Json.Value.asBool ≠ some true ∧
    ((message.field "chat").bind (·.field "id")).bind Json.Value.asI64 = some account.telegramChatId ∧
    ((message.field "text").or (message.field "caption")).bind Json.Value.asString = some text
  alone : update.attachment = none
  filled : text ≠ ""
  clean : ∀ c ∈ text.toList, c.toNat ≠ 0

structure DiscordText (account : DiscordAccount) (message : Json.Value) (text : String) : Prop where
  channel : (message.field "channel_id").bind Json.Value.asString = some account.discordChannelId
  sender : ∃ author, message.field "author" = some author ∧ author.isObject = true ∧
    (author.field "id").bind Json.Value.asString = some account.discordUserId ∧
    (author.field "bot").bind Json.Value.asBool ≠ some true ∧ message.field "webhook_id" = none
  ordinary : (message.field "type").bind Json.Value.asU64 = some 0
  alone : ∀ attachments, (message.field "attachments").bind Json.Value.asArray = some attachments → attachments = []
  content : (message.field "content").bind Json.Value.asString = some text
  filled : text ≠ ""
  short : text.utf8ByteSize ≤ 8 * 1024
  clean : ∀ c ∈ text.toList, c.toNat ≠ 0

section
variable {library : ChannelLibrary} {text : String}

theorem telegramUpdateAction_text {account update} (sent : TelegramText account update text) :
    telegramUpdateAction library account update = textAction library telegramCommand text := by
  obtain ⟨⟨message, sender, isMessage, object, isSender, senderObject, allowed, human, chat, isText⟩, alone, filled,
    clean⟩ := sent
  have valid : ¬ (text = "" ∨ text.toList.any (fun c => c.toNat = 0) = true) := by simpa [filled] using clean
  simp only [telegramUpdateAction, isMessage, Option.filter_some, object, if_true, isSender, senderObject, allowed,
    human, ne_eq, not_true_eq_false, or_self, if_false, chat, isText, alone, telegramContent, require, if_neg valid]

theorem discordMessageAction_text {account message} (sent : DiscordText account message text) :
    discordMessageAction library account message = textAction library id text := by
  obtain ⟨channel, ⟨author, isAuthor, object, allowed, human, noHook⟩, ordinary, alone, content, filled, short,
    clean⟩ := sent
  have valid : ¬ (text = "" ∨ 8 * 1024 < text.utf8ByteSize ∨ text.toList.any (fun c => c.toNat = 0) = true) := by
    simpa [filled, Nat.not_lt.mpr short] using clean
  have nothing : ((message.field "attachments").bind Json.Value.asArray).any (fun attachments => !attachments.isEmpty) =
      false := by
    cases found : (message.field "attachments").bind Json.Value.asArray with
    | none => rfl
    | some attachments => simp [alone attachments found]
  simp only [discordMessageAction, channel, ne_eq, not_true_eq_false, if_false, isAuthor, Option.filter_some, object,
    if_true, allowed, human, noHook, Option.isSome_none, Bool.false_eq_true, or_self, ordinary, nothing, content,
    if_neg valid]

end

/-- On either platform a text is kept exactly when it is well spaced. -/
theorem plain_text_kept_iff (library : ChannelLibrary) (text : String) :
    (∀ account update, TelegramText account update text →
      (KeepsText telegramCommand text (telegramUpdateAction library account update) ↔ WellSpaced telegramCommand text)) ∧
    ∀ account message, DiscordText account message text →
      (KeepsText id text (discordMessageAction library account message) ↔ WellSpaced id text) := by
  constructor
  · intro account update sent
    rw [telegramUpdateAction_text sent]
    exact textAction_keeps_iff (by decide) sent.filled
  · intro account message sent
    rw [discordMessageAction_text sent]
    exact textAction_keeps_iff rfl sent.filled

def telegramSample (text : String) : FetchedTelegramUpdate :=
  ⟨.object [("message", .object [("from", .object [("id", .number "1")]), ("chat", .object [("id", .number "2")]),
    ("text", .string text)])], none⟩

def discordSample (text : String) : Json.Value :=
  .object [("channel_id", .string "2"), ("author", .object [("id", .string "1")]), ("type", .number "0"),
    ("content", .string text)]

theorem telegramSample_text {text : String} (filled : text ≠ "") (clean : ∀ c ∈ text.toList, c.toNat ≠ 0) :
    TelegramText ⟨1, 2⟩ (telegramSample text) text :=
  ⟨⟨_, _, rfl, rfl, rfl, rfl, rfl, nofun, rfl, rfl⟩, rfl, filled, clean⟩

theorem discordSample_text {text : String} (filled : text ≠ "") (short : text.utf8ByteSize ≤ 8 * 1024)
    (clean : ∀ c ∈ text.toList, c.toNat ≠ 0) : DiscordText ⟨"1", "2"⟩ (discordSample text) text :=
  ⟨rfl, ⟨_, rfl, rfl, rfl, nofun, rfl⟩, rfl, nofun, rfl, filled, short, clean⟩

theorem plain_text_kept_greeting : TelegramText ⟨1, 2⟩ (telegramSample "hi there") "hi there" ∧
    ∀ library, telegramUpdateAction library ⟨1, 2⟩ (telegramSample "hi there") = .input .queue "hi there" := by
  have sent : TelegramText ⟨1, 2⟩ (telegramSample "hi there") "hi there" :=
    telegramSample_text (by decide) (forall_mem_of_all (by decide))
  have isFirst : (words "hi there").head? = some "hi" := by decide
  have plain : IsPlain telegramCommand "hi there" := by
    intro word isFirst'
    cases isFirst.symm.trans isFirst'
    decide
  refine ⟨sent, fun library => (((plain_text_kept_iff library _).1 _ _ sent).mpr ⟨fun _ => ⟨?_, ?_⟩, ?_⟩).plain plain⟩
  · rintro ⟨_, only⟩
    exact absurd (only 't' (by decide)) (by decide)
  · exact fun _ => by decide
  · intro word mode isFirst' control
    cases isFirst.symm.trans isFirst'
    cases control

/-- One word and a blank are dropped, and a control behind a blank is queued with its command. -/
theorem spaced_text_lost :
    (TelegramText ⟨1, 2⟩ (telegramSample "hello ") "hello " ∧ IsPlain telegramCommand "hello " ∧
      ∀ library, telegramUpdateAction library ⟨1, 2⟩ (telegramSample "hello ") = .ignore "empty_delivery_control") ∧
    DiscordText ⟨"1", "2"⟩ (discordSample " /steer stop") " /steer stop" ∧
      (words " /steer stop").head? = some "/steer" ∧ afterFirstWord " /steer stop" = "stop" ∧
      ∀ library, discordMessageAction library ⟨"1", "2"⟩ (discordSample " /steer stop") = .input .queue " /steer stop" := by
  have plain : IsPlain telegramCommand "hello " := by
    intro word isFirst
    cases (show (words "hello ").head? = some "hello" by decide).symm.trans isFirst
    decide
  refine ⟨⟨telegramSample_text (by decide) (forall_mem_of_all (by decide)), plain, fun library => ?_⟩,
    discordSample_text (by decide) (by decide) (forall_mem_of_all (by decide)), by decide, by decide, fun library => ?_⟩
  · rw [telegramUpdateAction_text (telegramSample_text (by decide) (forall_mem_of_all (by decide)))]
    simp only [textAction, plain.unapproved]
    rfl
  · rw [discordMessageAction_text (discordSample_text (by decide) (by decide) (forall_mem_of_all (by decide)))]
    rfl

end Mealy.Channels
