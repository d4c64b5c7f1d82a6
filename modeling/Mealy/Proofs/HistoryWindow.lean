import Mealy.Context.Sources

/-! The conversation that a worker is offered. The turns of the session are cut to the
bounds of the history first, and the references of a fork get what these leave over. -/

namespace Mealy.Context
open Relational Transaction RecencyWindow Memories

variable {hash : DigestFunction} {sources : List AgentContextSource} {sessionId : SessionId} {cutoff : Nat}
  {exchanges : List Exchange}

/-! ### Which sources are conversation -/

def AgentContextSource.isConversation (source : AgentContextSource) : Bool :=
  source.sourceType ∈ ["fork_conversation_user", "fork_conversation_assistant", "conversation_user",
    "conversation_assistant"]

def Exchange.pair (exchange : Exchange) : List AgentContextSource := exchange.sources (exchange.assistant.getD "")

theorem Exchange.length_pair (exchange : Exchange) : exchange.pair.length = 2 := rfl

theorem Exchange.pair_conversation (exchange : Exchange) :
    ∀ source ∈ exchange.pair, source.isConversation = true := by
  obtain ⟨forked, _⟩ := exchange
  cases forked <;> simp [Exchange.pair, Exchange.sources, AgentContextSource.isConversation, plainSource]

theorem Exchange.load_ok {exchange : Exchange} (loaded : exchange.load hash = .ok sources) : sources = exchange.pair := by
  simp only [Exchange.load, eq_ok] at loaded
  obtain ⟨assistant, inline, _, _, rfl⟩ := loaded
  rw [Exchange.pair, inline, Option.getD_some]

theorem load_exchanges {sources : List (List AgentContextSource)}
    (loaded : exchanges.mapM (Exchange.load hash) = .ok sources) : sources.flatten = exchanges.flatMap Exchange.pair := by
  induction exchanges generalizing sources with
  | nil =>
    rw [List.mapM_nil, pure_eq_ok] at loaded
    subst loaded
    rfl
  | cons exchange rest ih =>
    simp only [List.mapM_cons, eq_ok] at loaded
    obtain ⟨first, loaded, others, tail, rfl⟩ := loaded
    rw [List.flatten_cons, List.flatMap_cons, Exchange.load_ok loaded, ih tail]

namespace HistoryStore
variable {functions : ContextFunctions} {s : HistoryStore} {turnId : TurnId} {turn : Turn} {principalId : PrincipalId}

/-- A source beside the conversation and the current input: a compaction, a memory or a
result of a tool. Only results have artifacts. -/
structure Beside (source : AgentContextSource) : Prop where
  type : source.sourceType ∈ ["compaction", "memory", "tool"]
  artifact : source.message.role = .user → source.contentArtifactId = none

theorem toolSources_beside {runId}
    (loaded : s.loadReadToolContextSources runId = .ok sources) : ∀ source ∈ sources, Beside source := by
  intro source member
  obtain ⟨⟨id, output⟩, _, built⟩ := mem_of_mapM loaded member
  unfold ToolOutput.source at built
  split at built <;> cases built <;> exact ⟨by simp [toolSource, plainSource], nofun⟩

theorem effectSources_beside {runId}
    (loaded : s.loadEffectContextSources hash runId = .ok sources) : ∀ source ∈ sources, Beside source := by
  intro source member
  obtain ⟨row, _, built⟩ := mem_of_mapM loaded member
  simp only [eq_ok] at built
  obtain ⟨_, _, rfl⟩ := built
  exact ⟨by simp [toolSource, plainSource], by rintro ⟨⟩⟩

theorem memorySources_beside {content}
    (loaded : s.loadMemorySources functions turnId turn principalId content = .ok sources) :
    ∀ source ∈ sources, Beside source := by
  intro source member
  unfold loadMemorySources at loaded
  split at loaded
  next =>
    cases loaded
    exact absurd member List.not_mem_nil
  next =>
    simp only [eq_ok] at loaded
    obtain ⟨_, _, rfl⟩ := loaded
    obtain ⟨_, _, rfl⟩ := List.mem_map.mp member
    exact ⟨by simp [memorySource, plainSource], fun _ => rfl⟩

theorem compactionSource_beside {loaded}
    (found : s.loadCompactionContextSource functions turnId turn principalId = .ok loaded) :
    (loaded.elim 0 Prod.snd = (s.newestCompaction turnId turn principalId).elim 0 fun row => row.2.sourceLastCursor) ∧
      ∀ source ∈ (loaded.map Prod.fst).toList, Beside source := by
  unfold loadCompactionContextSource at found
  split at found
  next none =>
    cases found
    rw [none]
    exact ⟨rfl, by simp⟩
  next compactionId compaction some =>
    simp only [eq_ok] at found
    obtain ⟨_, _, rfl⟩ := found
    rw [some]
    refine ⟨rfl, fun source member => ?_⟩
    obtain rfl := by simpa using member
    exact ⟨by simp [plainSource], fun _ => rfl⟩

/-! ### The history -/

def compactionCutoff (s : HistoryStore) (turnId : TurnId) (turn : Turn) (principalId : PrincipalId) : Nat :=
  (s.newestCompaction turnId turn principalId).elim 0 fun row => row.2.sourceLastCursor

/-- The references of the fork, unless the cutoff lies behind the fork. -/
def forkHistory (s : HistoryStore) (turnId : TurnId) (sessionId : SessionId) (principalId : PrincipalId) (cutoff : Nat) :
    List Exchange :=
  match (s.core.turns.get turnId).filter (fun turn => turn.sessionId = sessionId), s.forkBoundary sessionId principalId with
  | some _, some (_, _, forkCursor) => if forkCursor ≤ cutoff then [] else s.forkExchanges sessionId
  | _, _ => []

def Written (s : HistoryStore) : Prop := ∀ id message, s.messages.get id = some message → 0 < message.byteLength

theorem forkExchanges_positive (written : s.Written) (sessionId) :
    ∀ exchange ∈ s.forkExchanges sessionId, 0 < exchange.bytes := by
  intro exchange member
  obtain ⟨⟨⟨_, ordinal⟩, reference⟩, _, built⟩ := List.mem_filterMap.mp ((List.mem_insertionSort _).mp member)
  simp only [Option.bind_eq_bind, Option.bind_eq_some_iff, Option.pure_def, Option.some.injEq] at built
  obtain ⟨entry, _, message, stored, rfl⟩ := built
  exact Nat.add_pos_right _ (written _ _ stored)

theorem loadForkExchanges_ok (written : s.Written) {turns bytes rows}
    (loaded : s.loadForkExchanges hash turnId sessionId principalId cutoff turns bytes = .ok rows) :
    rows = newest Exchange.bytes turns bytes (s.forkHistory turnId sessionId principalId cutoff) := by
  unfold loadForkExchanges at loaded
  split at loaded
  next spent =>
    cases loaded
    unfold forkHistory
    split
    next =>
      split
      next => rfl
      next =>
        rcases last : (s.forkExchanges sessionId).getLast? with _ | other
        · rw [List.getLast?_eq_none_iff.mp last]
          rfl
        · have positive := forkExchanges_positive written sessionId other (List.mem_of_getLast? last)
          rcases spent with rfl | rfl
          · rw [newest, ranked_exceeded _ (by omega), List.reverse_nil]
          · exact (newest_nil_of_large last positive).symm
    next => rfl
  next =>
    unfold forkHistory
    cases found : (s.core.turns.get turnId).filter (fun turn => turn.sessionId = sessionId) with
    | none =>
      simp only [found] at loaded ⊢
      cases loaded
      rfl
    | some turn =>
      cases boundary : s.forkBoundary sessionId principalId with
      | none =>
        simp only [found, boundary] at loaded ⊢
        cases loaded
        rfl
      | some row =>
        obtain ⟨checkpoint, channel, forkCursor⟩ := row
        simp only [found, boundary, eq_ok] at loaded ⊢
        obtain ⟨_, _, _, _, rfl⟩ := loaded
        split <;> rfl

/-! ### Eligible turns -/

theorem currentInput_eq_some {currentId current} :
    s.currentInput currentId sessionId principalId = some current ↔ ∃ turn session entry cursor,
      s.core.turns.get currentId = some turn ∧ turn.sessionId = sessionId ∧
      s.core.sessions.get sessionId = some session ∧ session.principalId = principalId ∧
      s.core.inbox.get turn.inboxEntryId = some entry ∧ s.admissionCursor turn.inboxEntryId = some cursor ∧
      current = { sequence := entry.sequence, cursor, epochId := s.activeEpoch currentId turn } := by
  simp only [currentInput, Option.bind_eq_bind, Option.bind_eq_some_iff, Option.filter_eq_some_iff, Option.pure_def,
    Option.some.injEq, decide_eq_true_eq]
  constructor
  · rintro ⟨turn, ⟨found, own⟩, session, ⟨owned, principal⟩, entry, consumed, cursor, admitted, rfl⟩
    exact ⟨turn, session, entry, cursor, found, own, owned, principal, consumed, admitted, rfl⟩
  · rintro ⟨turn, session, entry, cursor, found, own, owned, principal, consumed, admitted, rfl⟩
    exact ⟨turn, ⟨found, own⟩, session, ⟨owned, principal⟩, entry, consumed, cursor, admitted, rfl⟩

theorem exchangeOf_eq_some {current currentId exchange} :
    s.exchangeOf hash current currentId sessionId principalId cutoff turnId turn = some exchange ↔
      ∃ entry admitted messageId message assistant, s.core.inbox.get turn.inboxEntryId = some entry ∧
        entry.state = .promoted ∧ entry.promotedTurnId = some turnId ∧ entry.sequence < current.sequence ∧
        s.admissionCursor turn.inboxEntryId = some admitted ∧ cutoff < admitted ∧
        s.answer turnId turn principalId = some (messageId, message, assistant) ∧ turn.sessionId = sessionId ∧
        turnId ≠ currentId ∧ s.turnEpoch.get turnId = current.epochId ∧ turn.status = .completed ∧
        exchange =
          { forked := false, sequence := entry.sequence, inboxEntryId := turn.inboxEntryId, content := entry.content,
            userDigest := hash.digest entry.content, messageId, assistant := some assistant,
            assistantDigest := message.contentDigest, byteLength := message.byteLength } := by
  simp only [exchangeOf, Option.bind_eq_bind, Option.bind_eq_some_iff, Option.filter_eq_some_iff, decide_eq_true_eq,
    Option.ite_none_right_eq_some, Option.some.injEq]
  constructor
  · rintro ⟨entry, ⟨asked, promoted, named, earlier⟩, admitted, ⟨cursor, after⟩, ⟨messageId, message, assistant⟩, answered,
      ⟨own, other, epoch, completed⟩, rfl⟩
    exact ⟨entry, admitted, messageId, message, assistant, asked, promoted, named, earlier, cursor, after, answered, own,
      other, epoch, completed, rfl⟩
  · rintro ⟨entry, admitted, messageId, message, assistant, asked, promoted, named, earlier, cursor, after, answered, own,
      other, epoch, completed, rfl⟩
    exact ⟨entry, ⟨asked, promoted, named, earlier⟩, admitted, ⟨cursor, after⟩, ⟨messageId, message, assistant⟩, answered,
      ⟨own, other, epoch, completed⟩, rfl⟩

theorem mem_eligibleHistory {currentId exchange} :
    exchange ∈ s.eligibleHistory hash currentId sessionId principalId cutoff ↔
      ∃ current turnId turn, s.currentInput currentId sessionId principalId = some current ∧
        s.core.turns.get turnId = some turn ∧
        s.exchangeOf hash current currentId sessionId principalId cutoff turnId turn = some exchange ∧
        ∃ completed ∈ s.eventCursors (.turn turnId) "turn.completed", completed < current.cursor := by
  unfold eligibleHistory
  cases input : s.currentInput currentId sessionId principalId with
  | none => simp
  | some current =>
    simp only [List.mem_insertionSort, List.mem_flatMap, candidatesOf]
    constructor
    · rintro ⟨⟨turnId, turn⟩, stored, candidate⟩
      split at candidate
      next => exact absurd candidate List.not_mem_nil
      next built eligible =>
        obtain ⟨completed, earlier, rfl⟩ := List.mem_map.mp candidate
        obtain ⟨listed, before⟩ := List.mem_filter.mp earlier
        exact ⟨current, turnId, turn, rfl, (Table.mem_entries _ _ _).mp stored, eligible, completed, listed,
          of_decide_eq_true before⟩
    · rintro ⟨_, turnId, turn, same, found, eligible, completed, listed, before⟩
      cases same
      refine ⟨(turnId, turn), (Table.mem_entries _ _ _).mpr found, ?_⟩
      simp only [eligible]
      exact List.mem_map.mpr ⟨completed, List.mem_filter.mpr ⟨listed, decide_eq_true before⟩, rfl⟩

/-! ### Offered exchanges -/

theorem conversationExchanges_ok (written : s.Written)
    (offered : s.conversationExchanges hash turnId sessionId principalId cutoff = .ok exchanges) :
    exchanges = stacked Exchange.bytes maximumHistoryTurns maximumHistoryBytes
      (s.forkHistory turnId sessionId principalId cutoff)
      (s.eligibleHistory hash turnId sessionId principalId cutoff) := by
  simp only [conversationExchanges, eq_ok] at offered
  obtain ⟨forked, loaded, rfl⟩ := offered
  rw [loadForkExchanges_ok written loaded]
  rfl

def offeredExchanges (functions : ContextFunctions) (s : HistoryStore) (turnId : TurnId) (turn : Turn)
    (principalId : PrincipalId) : List Exchange :=
  match turn.kind with
  | .delegated => []
  | .canonical => stacked Exchange.bytes maximumHistoryTurns maximumHistoryBytes
      (s.forkHistory turnId turn.sessionId principalId (s.compactionCutoff turnId turn principalId))
      (s.eligibleHistory functions.hash turnId turn.sessionId principalId (s.compactionCutoff turnId turn principalId))

theorem loadContextSources_ok (written : s.Written)
    (loaded : s.loadContextSources functions turnId turn principalId = .ok sources) :
    ∃ entry rest, s.core.inbox.get turn.inboxEntryId = some entry ∧
      sources = (s.offeredExchanges functions turnId turn principalId).flatMap Exchange.pair ++
        currentUser functions.hash turn entry :: rest ∧ ∀ source ∈ rest, Beside source := by
  simp only [loadContextSources, eq_ok] at loaded
  obtain ⟨entry, found, loaded⟩ := loaded
  unfold offeredExchanges
  cases kind : turn.kind with
  | delegated =>
    simp only [kind, eq_ok] at loaded
    obtain ⟨tools, read, effects, observed, rfl⟩ := loaded
    refine ⟨entry, tools ++ effects, found, rfl, fun source member => ?_⟩
    rcases List.mem_append.mp member with tool | effect
    · exact toolSources_beside read source tool
    · exact effectSources_beside observed source effect
  | canonical =>
    simp only [kind, eq_ok] at loaded
    obtain ⟨compaction, compacted, conversation, told, memories, remembered, tools, read, effects, observed, rfl⟩ := loaded
    obtain ⟨cutoff, compactions⟩ := compactionSource_beside compacted
    rw [cutoff] at told
    simp only [loadConversationContextSources, eq_ok] at told
    obtain ⟨exchanges, offered, pairs, mapped, rfl⟩ := told
    refine ⟨entry, (compaction.map Prod.fst).toList ++ memories ++ tools ++ effects, found, ?_, fun source member => ?_⟩
    · rw [load_exchanges mapped, conversationExchanges_ok written offered]
      simp [compactionCutoff]
    · simp only [List.mem_append] at member
      rcases member with ((compaction | memory) | tool) | effect
      · exact compactions source compaction
      · exact memorySources_beside remembered source memory
      · exact toolSources_beside read source tool
      · exact effectSources_beside observed source effect

theorem Beside.foreign {source} (beside : Beside source) : source.isConversation = false := by
  have type := beside.type
  simp only [List.mem_cons, List.not_mem_nil, or_false] at type
  rcases type with same | same | same <;> simp [AgentContextSource.isConversation, same]

theorem loadContextSources_conversation (written : s.Written)
    (loaded : s.loadContextSources functions turnId turn principalId = .ok sources) :
    sources.filter AgentContextSource.isConversation =
      (s.offeredExchanges functions turnId turn principalId).flatMap Exchange.pair := by
  obtain ⟨entry, rest, _, rfl, beside⟩ := loadContextSources_ok written loaded
  have conversation : ((s.offeredExchanges functions turnId turn principalId).flatMap Exchange.pair).filter
      AgentContextSource.isConversation = (s.offeredExchanges functions turnId turn principalId).flatMap Exchange.pair := by
    rw [List.filter_eq_self]
    intro source member
    obtain ⟨exchange, _, own⟩ := List.mem_flatMap.mp member
    exact exchange.pair_conversation source own
  have others : rest.filter AgentContextSource.isConversation = [] := by
    rw [List.filter_eq_nil_iff]
    intro source member
    rw [(beside source member).foreign]
    exact Bool.false_ne_true
  rw [List.filter_append, List.filter_cons, conversation, others,
    if_neg (by simp [currentUser, plainSource, AgentContextSource.isConversation]), List.append_nil]

/-! ### The offered conversation -/

def conversationHistory (functions : ContextFunctions) (s : HistoryStore) (turnId : TurnId) (turn : Turn)
    (principalId : PrincipalId) : List Exchange :=
  s.forkHistory turnId turn.sessionId principalId (s.compactionCutoff turnId turn principalId) ++
    s.eligibleHistory functions.hash turnId turn.sessionId principalId (s.compactionCutoff turnId turn principalId)

/-- The conversation among the sources is the longest run of newest exchanges within the
bounds of the history. -/
def OffersNewest (functions : ContextFunctions) (s : HistoryStore) (turnId : TurnId) (turn : Turn)
    (principalId : PrincipalId) (sources : List AgentContextSource) : Prop :=
  ∃ offered, sources.filter AgentContextSource.isConversation = offered.flatMap Exchange.pair ∧
    IsNewest Exchange.bytes maximumHistoryTurns maximumHistoryBytes
      (s.conversationHistory functions turnId turn principalId) offered

/-- A turn of the session is left out for its size while a reference of the fork fits. -/
def SkipsOwnTurn (functions : ContextFunctions) (s : HistoryStore) (turnId : TurnId) (turn : Turn)
    (principalId : PrincipalId) : Prop :=
  Skips Exchange.bytes maximumHistoryTurns maximumHistoryBytes
    (s.forkHistory turnId turn.sessionId principalId (s.compactionCutoff turnId turn principalId))
    (s.eligibleHistory functions.hash turnId turn.sessionId principalId (s.compactionCutoff turnId turn principalId))

theorem length_pairs (exchanges : List Exchange) : (exchanges.flatMap Exchange.pair).length = 2 * exchanges.length := by
  induction exchanges with
  | nil => rfl
  | cons exchange rest ih =>
    rw [List.flatMap_cons, List.length_append, Exchange.length_pair, ih, List.length_cons]
    omega

/-- The conversation is the longest newest part of the history exactly when no turn of the
session is skipped for a reference of its fork. -/
theorem conversation_is_newest_iff (written : s.Written) (canonical : turn.kind = .canonical)
    {sources : List AgentContextSource} (loaded : s.loadContextSources functions turnId turn principalId = .ok sources) :
    OffersNewest functions s turnId turn principalId sources ↔ ¬ SkipsOwnTurn functions s turnId turn principalId := by
  have conversation := loadContextSources_conversation written loaded
  simp only [offeredExchanges, canonical] at conversation
  constructor
  · rintro ⟨offered, same, window⟩ skips
    have longer := skips.longer window
    have lengths := congrArg List.length (same.symm.trans conversation)
    rw [length_pairs, length_pairs] at lengths
    omega
  · intro never
    exact ⟨_, conversation, stacked_isNewest never⟩

end HistoryStore

/-! ### A forked session -/

def uniformHash : DigestFunction := letterDigest

def sampleFunctions : ContextFunctions where
  hash := uniformHash
  lexical := ⟨fun _ _ => false, fun _ _ => false, fun _ _ _ => 0, fun _ => false⟩
  isCanonicalCarryForward := fun _ => true

def sampleEntry (sessionId : SessionId) (sequence : Nat) (content : String) (turnId : TurnId) : InboxEntry :=
  { sessionId, sequence, dedupeKey := "", deliveryMode := .queue, content, state := .promoted,
    promotedTurnId := some turnId, interruptRequestedAt := none }

def sampleTurn (id : Nat) (status : TurnStatus) : Turn :=
  { sessionId := ⟨1⟩, inboxEntryId := ⟨id⟩, taskId := ⟨id⟩, runId := ⟨id⟩, kind := .canonical, status, createdAt := 0 }

def sampleMessage (sessionId : SessionId) (id : Nat) : Message :=
  { principalId := ⟨0⟩, sessionId, turnId := ⟨id⟩, taskId := ⟨id⟩, runId := ⟨id⟩, role := .assistant,
    mediaType := "text/plain; charset=utf-8", byteLength := 2, contentDigest := uniformHash.digest "",
    contentInline := some "ok", contentArtifactId := none, sensitivity := "internal" }

def sampleAdmission (id : Nat) : Admission :=
  { providerSelectionSource := "inherited", selectedProviderId := none, selectedModelId := none,
    admissionEventId := ⟨2 * id - 1⟩, acknowledgementOutboxId := ⟨id⟩, correlationId := ⟨0⟩, acceptedAt := 0 }

/-- Rows under the identifiers from one on. -/
def putRows {κ ρ : Type} [DecidableEq κ] (count : Nat) (key : Nat → κ) (row : Nat → ρ) (table : Table κ ρ) : Table κ ρ :=
  (List.range' 1 count).foldl (fun table id => table.put (key id) (row id)) table

def forkedSession (count : Nat) (content request : String) : HistoryStore where
  base :=
    { store := { core :=
        { sessions := Table.empty.put ⟨1⟩ ⟨⟨0⟩, ⟨0⟩, some ⟨count + 1⟩, count + 2⟩
          inbox := (putRows count InboxEntryId.mk (fun id => sampleEntry ⟨1⟩ id content ⟨id⟩)
            (Table.empty.put ⟨0⟩ (sampleEntry ⟨0⟩ 1 "hi" ⟨0⟩))).put ⟨count + 1⟩ (sampleEntry ⟨1⟩ (count + 1) request ⟨count + 1⟩)
          turns := (putRows count TurnId.mk (sampleTurn · .completed) .empty).put ⟨count + 1⟩ (sampleTurn (count + 1) .active)
          tasks := putRows count TaskId.mk (fun _ => ⟨.succeeded, 0, false, none⟩) .empty
          runs := putRows count RunId.mk (fun id => ⟨⟨id⟩, .named "assistant", .succeeded, 1, none, none, 0⟩) .empty
          loops := putRows count RunId.mk (fun _ => ⟨1, .terminal, none, none⟩) .empty } }
      journal :=
        { events := ⟨⟨0⟩, .session ⟨1⟩, 0, "session.forked"⟩ :: (List.range' 1 count).flatMap (fun id =>
            [⟨⟨2 * id - 1⟩, .session ⟨1⟩, id, "input.accepted"⟩, ⟨⟨2 * id⟩, .turn ⟨id⟩, 0, "turn.completed"⟩]) ++
            [⟨⟨2 * count + 1⟩, .session ⟨1⟩, count + 1, "input.accepted"⟩]
          timeline := (List.range (2 * count + 2)).map fun position => ⟨position + 1, ⟨position⟩⟩
          lastCursor := 2 * count + 2 }
      admissions := putRows (count + 1) InboxEntryId.mk sampleAdmission .empty }
  currentEpoch := Table.empty.put ⟨1⟩ ⟨0⟩
  turnEpoch := putRows count TurnId.mk (fun _ => ⟨0⟩) .empty
  messages := putRows count MessageId.mk (sampleMessage ⟨1⟩) (Table.empty.put ⟨0⟩ (sampleMessage ⟨0⟩ 0))
  finalMessages := putRows count RunId.mk MessageId.mk .empty
  checkpoints := Table.empty.put ⟨0⟩ ⟨some "workspace", authorityDigest uniformHash ⟨⟨0⟩, ⟨0⟩⟩ (some "workspace")⟩
  lineages := Table.empty.put ⟨1⟩ ⟨some ⟨0⟩, some ⟨0⟩⟩
  references := Table.empty.put (⟨1⟩, 1) ⟨⟨0⟩, uniformHash.digest "", ⟨0⟩, uniformHash.digest ""⟩

def ownExchange (content : String) (id : Nat) : Exchange :=
  { forked := false, sequence := id, inboxEntryId := ⟨id⟩, content, userDigest := uniformHash.digest content,
    messageId := ⟨id⟩, assistant := some "ok", assistantDigest := uniformHash.digest "", byteLength := 2 }

def forkedExchange : Exchange :=
  { forked := true, sequence := 1, inboxEntryId := ⟨0⟩, content := "hi", userDigest := uniformHash.digest "",
    messageId := ⟨0⟩, assistant := some "ok", assistantDigest := uniformHash.digest "", byteLength := 2 }

theorem of_get_putRows {κ ρ : Type} [DecidableEq κ] {count : Nat} {key : Nat → κ} {row : Nat → ρ} {table : Table κ ρ} {id stored}
    (found : (putRows count key row table).get id = some stored) :
    table.get id = some stored ∨ ∃ n ≤ count, id = key n ∧ stored = row n := by
  rw [putRows, List.range'_eq_map_range, List.foldl_map] at found
  induction count with
  | zero => exact .inl found
  | succ count ih =>
    rw [List.range_succ, List.foldl_concat] at found
    rcases Table.of_get_put found with ⟨rfl, rfl⟩ | ⟨_, earlier⟩
    · exact .inr ⟨1 + count, by omega, rfl, rfl⟩
    · exact (ih earlier).imp_right fun ⟨n, below, same⟩ => ⟨n, Nat.le_succ_of_le below, same⟩

section
variable {count : Nat} {content request : String}

theorem forkedSession_written : (forkedSession count content request).Written := by
  intro id message stored
  rcases of_get_putRows stored with first | ⟨n, _, _, rfl⟩
  · rcases Table.of_get_put first with ⟨_, rfl⟩ | ⟨_, none⟩
    · decide
    · cases none
  · exact Nat.succ_pos 1

theorem forkedSession_load {pairs}
    (told : (forkedSession count content request).conversationExchanges uniformHash ⟨count + 1⟩ ⟨1⟩ ⟨0⟩ 0 = .ok exchanges)
    (loaded : exchanges.mapM (Exchange.load uniformHash) = .ok pairs) :
    (forkedSession count content request).loadContextSources sampleFunctions ⟨count + 1⟩ (sampleTurn (count + 1) .active) ⟨0⟩ =
      .ok (exchanges.flatMap Exchange.pair ++ [HistoryStore.currentUser uniformHash (sampleTurn (count + 1) .active)
        (sampleEntry ⟨1⟩ (count + 1) request ⟨count + 1⟩)]) := by
  have conversation : (forkedSession count content request).loadConversationContextSources uniformHash ⟨count + 1⟩ ⟨1⟩ ⟨0⟩ 0 =
      .ok (exchanges.flatMap Exchange.pair) := by
    simp only [HistoryStore.loadConversationContextSources, told, ok_bind, loaded, load_exchanges loaded]
    rfl
  have compaction : (forkedSession count content request).loadCompactionContextSource sampleFunctions ⟨count + 1⟩
      (sampleTurn (count + 1) .active) ⟨0⟩ = .ok none := rfl
  have memories : (forkedSession count content request).loadMemorySources sampleFunctions ⟨count + 1⟩
      (sampleTurn (count + 1) .active) ⟨0⟩ request = .ok [] := by
    unfold HistoryStore.loadMemorySources
    cases (forkedSession count content request).activeEpoch ⟨count + 1⟩ (sampleTurn (count + 1) .active) <;> rfl
  have tools : (forkedSession count content request).loadReadToolContextSources ⟨count + 1⟩ = .ok [] := rfl
  have effects : (forkedSession count content request).loadEffectContextSources uniformHash ⟨count + 1⟩ = .ok [] := rfl
  have entry : (forkedSession count content request).core.inbox.get ⟨count + 1⟩ = some (sampleEntry ⟨1⟩ (count + 1) request ⟨count + 1⟩) :=
    Table.get_put_self ..
  simp only [HistoryStore.loadContextSources, sampleTurn, sampleFunctions] at *
  rw [entry]
  simp only [require, ok_bind, compaction, Option.elim_none, conversation, sampleEntry, memories, tools, effects]
  simp [pure, Except.pure]

theorem oneTurn_history :
    (forkedSession 1 content request).eligibleHistory uniformHash ⟨2⟩ ⟨1⟩ ⟨0⟩ 0 = [ownExchange content 1] ∧
      (forkedSession 1 content request).compactionCutoff ⟨2⟩ (sampleTurn 2 .active) ⟨0⟩ = 0 := ⟨rfl, rfl⟩

theorem fiveTurns_history :
    (forkedSession 5 content request).eligibleHistory uniformHash ⟨6⟩ ⟨1⟩ ⟨0⟩ 0 = (List.range' 1 5).map (ownExchange content) ∧
      (forkedSession 5 content request).forkHistory ⟨6⟩ ⟨1⟩ ⟨0⟩ 0 = [forkedExchange] ∧
      (forkedSession 5 content request).compactionCutoff ⟨6⟩ (sampleTurn 6 .active) ⟨0⟩ = 0 := ⟨rfl, rfl, rfl⟩

theorem fiveTurns_skips (large : 104857 < content.utf8ByteSize) (small : content.utf8ByteSize < 131000) :
    (∃ sources, (forkedSession 5 content request).loadContextSources sampleFunctions ⟨6⟩ (sampleTurn 6 .active) ⟨0⟩ = .ok sources) ∧
    (forkedSession 5 content request).SkipsOwnTurn sampleFunctions ⟨6⟩ (sampleTurn 6 .active) ⟨0⟩ := by
  obtain ⟨own, forked, cutoff⟩ := @fiveTurns_history content request
  have bytes (id) : (ownExchange content id).bytes = content.utf8ByteSize + 2 := rfl
  have four : total Exchange.bytes ((List.range' 2 4).map (ownExchange content)) = 4 * (content.utf8ByteSize + 2) := by
    simp only [List.range', List.map_cons, List.map_nil, total_cons, total_nil, bytes]
    omega
  have limit : maximumHistoryBytes = 524288 := rfl
  constructor
  · have kept : newest Exchange.bytes maximumHistoryTurns maximumHistoryBytes ((List.range' 1 5).map (ownExchange content)) =
        (List.range' 2 4).map (ownExchange content) := by
      show newest _ _ _ ([] ++ ownExchange content 1 :: (List.range' 2 4).map (ownExchange content)) = _
      exact newest_of_cut (by simp [maximumHistoryTurns]) (by omega) (by rw [bytes]; omega)
    have fits : newest Exchange.bytes 28 (maximumHistoryBytes - 4 * (content.utf8ByteSize + 2)) [forkedExchange] = [forkedExchange] :=
      newest_of_fits (by decide) (by simp [show forkedExchange.bytes = 4 from rfl]; omega)
    have told : (forkedSession 5 content request).conversationExchanges uniformHash ⟨6⟩ ⟨1⟩ ⟨0⟩ 0 =
        .ok (forkedExchange :: (List.range' 2 4).map (ownExchange content)) := by
      simp only [HistoryStore.conversationExchanges, own, kept, four, HistoryStore.loadForkExchanges]
      rw [if_neg (by simp [maximumHistoryTurns]; omega)]
      simp only [show (forkedSession 5 content request).forkExchanges ⟨1⟩ = [forkedExchange] from rfl]
      simp only [List.length_map, List.length_range', maximumHistoryTurns, Nat.reduceSub, fits]
      rfl
    exact ⟨_, forkedSession_load told rfl⟩
  · refine ⟨[], ownExchange content 1, (List.range' 2 4).map (ownExchange content), forkedExchange, ?_, ?_,
      by simp [maximumHistoryTurns], ?_, ?_⟩
    · rw [cutoff]
      exact own
    · rw [cutoff]
      exact congrArg List.getLast? forked
    · rw [bytes]
      omega
    · rw [four, show forkedExchange.bytes = 4 from rfl]
      omega

end

theorem conversation_is_newest_small : ∃ sources,
    (forkedSession 1 "hello" "now").loadContextSources sampleFunctions ⟨2⟩ (sampleTurn 2 .active) ⟨0⟩ = .ok sources ∧
      HistoryStore.OffersNewest sampleFunctions (forkedSession 1 "hello" "now") ⟨2⟩ (sampleTurn 2 .active) ⟨0⟩ sources := by
  obtain ⟨own, cutoff⟩ := @oneTurn_history "hello" "now"
  have told : (forkedSession 1 "hello" "now").conversationExchanges uniformHash ⟨2⟩ ⟨1⟩ ⟨0⟩ 0 =
      .ok [forkedExchange, ownExchange "hello" 1] := rfl
  have loaded := forkedSession_load told rfl
  refine ⟨_, loaded, (HistoryStore.conversation_is_newest_iff forkedSession_written rfl loaded).mpr ?_⟩
  rintro ⟨oldest, row, recent, other, shape, _, _, large, _⟩
  rw [cutoff] at shape
  have whole := congrArg (total Exchange.bytes) (own.symm.trans shape)
  rw [total_append] at whole
  have split : total Exchange.bytes (row :: recent) = row.bytes + total Exchange.bytes recent := total_cons row recent
  have small : total Exchange.bytes [ownExchange "hello" 1] ≤ 100 := by decide
  have bound : 100 < maximumHistoryBytes := by decide
  omega

/-- The oldest of five turns of the session is left out, the older exchange of the fork is offered. -/
theorem fork_reference_replaces_own_turn : ∃ s sources, HistoryStore.Written s ∧
    (∀ id entry, s.core.inbox.get id = some entry → entry.content.utf8ByteSize ≤ 110000) ∧
    s.core.turns.get ⟨6⟩ = some (sampleTurn 6 .active) ∧
    s.loadContextSources sampleFunctions ⟨6⟩ (sampleTurn 6 .active) ⟨0⟩ = .ok sources ∧
    ¬ HistoryStore.OffersNewest sampleFunctions s ⟨6⟩ (sampleTurn 6 .active) ⟨0⟩ sources := by
  have size : (String.ofList (List.replicate 110000 'a')).utf8ByteSize = 110000 := Json.utf8ByteSize_replicate 110000 'a'
  obtain ⟨⟨sources, loaded⟩, skips⟩ := @fiveTurns_skips _ "now" (size.symm ▸ (by decide : 104857 < 110000))
    (size.symm ▸ (by decide : 110000 < 131000))
  refine ⟨_, _, forkedSession_written, fun id entry stored => ?_, rfl, loaded, fun ⟨offered, same, window⟩ => ?_⟩
  · rcases Table.of_get_put stored with ⟨_, rfl⟩ | ⟨_, stored⟩
    · decide
    · rcases of_get_putRows stored with first | ⟨_, _, _, rfl⟩
      · rcases Table.of_get_put first with ⟨_, rfl⟩ | ⟨_, none⟩
        · decide
        · cases none
      · exact size.le
  · have conversation := HistoryStore.loadContextSources_conversation forkedSession_written loaded
    simp only [HistoryStore.offeredExchanges, show (sampleTurn 6 .active).kind = .canonical from rfl] at conversation
    have lengths := congrArg List.length (same.symm.trans conversation)
    rw [HistoryStore.length_pairs, HistoryStore.length_pairs] at lengths
    have longer := skips.longer window
    omega

end Mealy.Context
