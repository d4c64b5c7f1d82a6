import Mealy.Context.Validation
import Mealy.Proofs.HistoryWindow

/-! The request of a validation. Three builders take the first source of the user, which is
the oldest exchange that the turn is offered wherever there is one. -/

namespace Mealy.Context
open Relational Transaction RecencyWindow Memories

/-! ### The selected source -/

theorem AgentContextSource.hydrate_ok {readers : ValidationReaders} {source hydrated : AgentContextSource}
    (read : source.hydrate readers = .ok hydrated) :
    hydrated.isUser = source.isUser ∧ (source.contentArtifactId = none → hydrated = source) := by
  unfold AgentContextSource.hydrate at read
  split at read
  next => cases read; exact ⟨rfl, fun _ => rfl⟩
  next artifactId found =>
    simp only [eq_ok] at read
    obtain ⟨_, _, rfl⟩ := read
    exact ⟨rfl, fun absent => by simp [found] at absent⟩

theorem find_hydrated {readers : ValidationReaders} {sources hydrated : List AgentContextSource}
    (inline : ∀ source ∈ sources, source.isUser = true → source.contentArtifactId = none)
    (read : sources.mapM (AgentContextSource.hydrate readers) = .ok hydrated) :
    hydrated.find? AgentContextSource.isUser = sources.find? AgentContextSource.isUser := by
  induction sources generalizing hydrated with
  | nil =>
    rw [List.mapM_nil, pure_eq_ok] at read
    subst read
    rfl
  | cons source rest ih =>
    simp only [List.mapM_cons, eq_ok] at read
    obtain ⟨first, one, others, tail, rfl⟩ := read
    obtain ⟨role, same⟩ := AgentContextSource.hydrate_ok one
    rw [List.find?_cons, List.find?_cons, role]
    cases user : source.isUser with
    | true =>
      simp only
      rw [same (inline source List.mem_cons_self user)]
    | false => exact ih (fun other member => inline other (List.mem_cons_of_mem _ member)) tail

def ValidationContextDraft.RequestFrom (draft : ValidationContextDraft) (source : AgentContextSource) : Prop :=
  draft.request.field "content" = some (.string source.message.content) ∧
    draft.request.field "sourceLocator" = some (.string source.sourceLocator)

theorem contextDraft_request (readers) (snapshot) (source)
    (finalText) : (contextDraft readers snapshot source finalText).RequestFrom source := ⟨rfl, rfl⟩

section
variable {readers : ValidationReaders} {snapshot : ValidationSnapshot} {finalText : String}
  {draft : ValidationContextDraft}

theorem firstUser_of_built {criteria : TaskSuccessCriteria}
    (inline : ∀ source ∈ snapshot.contextSources, source.isUser = true → source.contentArtifactId = none)
    (other : selectBuilder snapshot criteria ≠ .freshFixture)
    (built : buildValidationContext readers snapshot finalText criteria = .ok draft) :
    ∃ source, snapshot.contextSources.find? AgentContextSource.isUser = some source ∧ draft.RequestFrom source := by
  unfold buildValidationContext at built
  split at built
  next =>
    simp only [buildDelegatedValidationContext, eq_ok] at built
    obtain ⟨hydrated, read, source, first, _, _, _, _, rfl⟩ := built
    exact ⟨source, by rw [← find_hydrated inline read, first], contextDraft_request ..⟩
  next =>
    simp only [buildGeneralAssistantValidationContext, eq_ok] at built
    obtain ⟨hydrated, read, source, first, _, _, _, _, rfl⟩ := built
    exact ⟨source, by rw [← find_hydrated inline read, first], contextDraft_request ..⟩
  next fresh => exact absurd fresh other
  next =>
    simp only [buildDeterministicReadValidationContext, eq_ok] at built
    obtain ⟨hydrated, read, source, first, _, _, rfl⟩ := built
    exact ⟨source, by rw [← find_hydrated inline read, first], contextDraft_request ..⟩

theorem governedUser_of_built {criteria} (fresh : selectBuilder snapshot criteria = .freshFixture)
    (built : buildValidationContext readers snapshot finalText criteria = .ok draft) :
    ∃ source ∈ snapshot.contextSources, source.sourceType = "user" ∧ draft.RequestFrom source := by
  simp only [buildValidationContext, fresh, buildFreshFixtureValidationContext, eq_ok] at built
  obtain ⟨source, found, _, _, rfl⟩ := built
  have chosen := List.find?_some found
  simp only [decide_eq_true_eq] at chosen
  exact ⟨source, List.mem_of_find?_eq_some found, chosen.1, contextDraft_request ..⟩

end

/-! ### The offered exchanges -/

namespace HistoryStore
variable {functions : ContextFunctions} {s : HistoryStore} {turnId : TurnId} {turn : Turn} {entry : InboxEntry}
  {principalId : PrincipalId}

/-- What the schema keeps of inputs: identifiers have 128 bits, a turn is of the session of
its input, and a fork refers to inputs of another session. -/
structure InputsIdentified (s : HistoryStore) (turn : Turn) (entry : InboxEntry) : Prop where
  bounded : ∀ id input, s.core.inbox.get id = some input → id.id < 2 ^ 128
  session : entry.sessionId = turn.sessionId
  foreign : ∀ ordinal reference source, s.references.get (turn.sessionId, ordinal) = some reference →
    s.core.inbox.get reference.sourceInboxEntryId = some source → source.sessionId ≠ turn.sessionId

theorem forkHistory_input {cutoff exchange}
    (member : exchange ∈ s.forkHistory turnId turn.sessionId principalId cutoff) :
    ∃ ordinal reference source, s.references.get (turn.sessionId, ordinal) = some reference ∧
      s.core.inbox.get reference.sourceInboxEntryId = some source ∧
      exchange.inboxEntryId = reference.sourceInboxEntryId := by
  have inside : exchange ∈ s.forkExchanges turn.sessionId := by
    unfold forkHistory at member
    split at member
    next =>
      split at member
      next => exact absurd member List.not_mem_nil
      next => exact member
    next => exact absurd member List.not_mem_nil
  obtain ⟨⟨⟨sessionId, ordinal⟩, reference⟩, selected, built⟩ :=
    List.mem_filterMap.mp ((List.mem_insertionSort _).mp inside)
  obtain ⟨stored, own⟩ := (Table.mem_select _ _ _ _).mp selected
  simp only [Option.bind_eq_bind, Option.bind_eq_some_iff, Option.pure_def, Option.some.injEq] at built
  obtain ⟨source, found, message, _, rfl⟩ := built
  simp only [decide_eq_true_eq] at own
  subst own
  exact ⟨ordinal, reference, source, stored, found, rfl⟩

theorem eligibleHistory_input {hash cutoff exchange}
    (stored : s.core.turns.get turnId = some turn) (found : s.core.inbox.get turn.inboxEntryId = some entry)
    (member : exchange ∈ s.eligibleHistory hash turnId turn.sessionId principalId cutoff) :
    ∃ source, s.core.inbox.get exchange.inboxEntryId = some source ∧ source.sequence < entry.sequence := by
  obtain ⟨current, otherId, other, input, _, eligible, _⟩ := mem_eligibleHistory.mp member
  obtain ⟨turn', _, entry', _, stored', _, _, _, found', _, rfl⟩ := currentInput_eq_some.mp input
  rw [stored] at stored'
  cases stored'
  rw [found] at found'
  cases found'
  obtain ⟨source, _, _, _, _, asked, _, _, earlier, _, _, _, _, _, _, _, rfl⟩ := exchangeOf_eq_some.mp eligible
  exact ⟨source, asked, earlier⟩

theorem offered_other (identified : s.InputsIdentified turn entry) (stored : s.core.turns.get turnId = some turn)
    (found : s.core.inbox.get turn.inboxEntryId = some entry) {exchange}
    (member : exchange ∈ s.offeredExchanges functions turnId turn principalId) :
    exchange.inboxEntryId ≠ turn.inboxEntryId ∧ exchange.inboxEntryId.id < 2 ^ 128 := by
  unfold offeredExchanges at member
  split at member
  next => exact absurd member List.not_mem_nil
  next =>
    rcases mem_of_mem_stacked member with forked | own
    · obtain ⟨ordinal, reference, source, referred, asked, same⟩ := forkHistory_input forked
      rw [same]
      refine ⟨fun equal => ?_, identified.bounded _ _ asked⟩
      rw [equal, found] at asked
      cases asked
      rw [← equal] at found
      exact identified.foreign ordinal reference entry referred found identified.session
    · obtain ⟨source, asked, earlier⟩ := eligibleHistory_input stored found own
      refine ⟨fun equal => ?_, identified.bounded _ _ asked⟩
      rw [equal, found] at asked
      cases asked
      exact Nat.lt_irrefl _ earlier

/-- The newest eligible turn of the session and the newest reference of the fork are both
missing or too large for the history. -/
def NothingOffered (functions : ContextFunctions) (s : HistoryStore) (turnId : TurnId) (turn : Turn)
    (principalId : PrincipalId) : Prop :=
  (∀ exchange, (s.eligibleHistory functions.hash turnId turn.sessionId principalId
    (s.compactionCutoff turnId turn principalId)).getLast? = some exchange → maximumHistoryBytes < exchange.bytes) ∧
  ∀ exchange, (s.forkHistory turnId turn.sessionId principalId
    (s.compactionCutoff turnId turn principalId)).getLast? = some exchange → maximumHistoryBytes < exchange.bytes

theorem offeredExchanges_nil_iff : s.offeredExchanges functions turnId turn principalId = [] ↔
    turn.kind = .delegated ∨ NothingOffered functions s turnId turn principalId := by
  unfold offeredExchanges
  cases kind : turn.kind with
  | delegated => simp
  | canonical => simpa [NothingOffered] using stacked_eq_nil_iff (by decide)

/-! ### The request -/

def IsOwnRequest (draft : ValidationContextDraft) (turn : Turn) (entry : InboxEntry) : Prop :=
  draft.request.field "content" = some (.string entry.content) ∧
    draft.request.field "sourceLocator" = some (.string ("inbox://" ++ Json.uuidText turn.inboxEntryId.id))

variable {readers : ValidationReaders} {snapshot : ValidationSnapshot} {finalText : String}
  {criteria : TaskSuccessCriteria} {draft : ValidationContextDraft}

theorem currentUser_of_type {rest} (exchanges : List Exchange)
    (beside : ∀ source ∈ rest, Beside source) {source} (user : source.sourceType = "user")
    (member : source ∈ exchanges.flatMap Exchange.pair ++ currentUser functions.hash turn entry :: rest) :
    source = currentUser functions.hash turn entry := by
  rcases List.mem_append.mp member with conversation | member
  · obtain ⟨exchange, _, own⟩ := List.mem_flatMap.mp conversation
    have conversational := exchange.pair_conversation source own
    simp [AgentContextSource.isConversation, user] at conversational
  · rcases List.mem_cons.mp member with same | member
    · exact same
    · have type := (beside source member).type
      simp [user] at type

theorem find_user (exchanges : List Exchange) (source : AgentContextSource) (user : source.isUser = true)
    (rest : List AgentContextSource) :
    (exchanges.flatMap Exchange.pair ++ source :: rest).find? AgentContextSource.isUser =
      match exchanges with
      | [] => some source
      | exchange :: _ => exchange.pair.head? := by
  cases exchanges with
  | nil => exact List.find?_cons_of_pos user
  | cons exchange others => rfl

theorem sources_inline {sources} (written : s.Written)
    (loaded : s.loadContextSources functions turnId turn principalId = .ok sources) :
    ∀ source ∈ sources, source.isUser = true → source.contentArtifactId = none := by
  obtain ⟨entry, rest, _, rfl, beside⟩ := loadContextSources_ok written loaded
  intro source member user
  rcases List.mem_append.mp member with conversation | member
  · obtain ⟨exchange, _, own⟩ := List.mem_flatMap.mp conversation
    simp only [Exchange.pair, Exchange.sources, List.mem_cons, List.not_mem_nil, or_false] at own
    rcases own with rfl | rfl <;> rfl
  · rcases List.mem_cons.mp member with rfl | member
    · rfl
    · exact (beside source member).artifact (by simpa [AgentContextSource.isUser] using user)

/-- A validation is about the input of its turn exactly when the turn is delegated, or the
builder is the one for governed actions, or no history is offered. -/
theorem validation_request_own_iff (written : s.Written) (identified : s.InputsIdentified turn entry)
    (stored : s.core.turns.get turnId = some turn) (found : s.core.inbox.get turn.inboxEntryId = some entry)
    (loaded : s.loadContextSources functions turnId turn principalId = .ok snapshot.contextSources)
    (built : buildValidationContext readers snapshot finalText criteria = .ok draft) :
    IsOwnRequest draft turn entry ↔ turn.kind = .delegated ∨ selectBuilder snapshot criteria = .freshFixture ∨
      NothingOffered functions s turnId turn principalId := by
  obtain ⟨entry', rest, found', sources, beside⟩ := loadContextSources_ok written loaded
  rw [found] at found'
  cases found'
  by_cases fresh : selectBuilder snapshot criteria = .freshFixture
  · obtain ⟨source, member, user, request⟩ := governedUser_of_built fresh built
    rw [sources] at member
    rw [currentUser_of_type _ beside user member] at request
    exact iff_of_true request (.inr (.inl fresh))
  obtain ⟨source, first, request⟩ := firstUser_of_built (sources_inline written loaded) fresh built
  rw [sources, find_user _ _ rfl] at first
  rcases offered : s.offeredExchanges functions turnId turn principalId with _ | ⟨exchange, others⟩
  · simp only [offered, Option.some.injEq] at first
    subst first
    rcases offeredExchanges_nil_iff.mp offered with delegated | nothing
    · exact iff_of_true request (.inl delegated)
    · exact iff_of_true request (.inr (.inr nothing))
  · simp only [offered, Exchange.pair, Exchange.sources, List.head?_cons, Option.some.injEq] at first
    subst first
    have member : exchange ∈ s.offeredExchanges functions turnId turn principalId := by
      rw [offered]
      exact List.mem_cons_self
    obtain ⟨other, bounded⟩ := offered_other identified stored found member
    refine iff_of_false (fun own => other ?_) (fun condition => ?_)
    · have same := request.2.symm.trans own.2
      simp only [plainSource, Option.some.injEq, Json.Value.string.injEq] at same
      have text := Json.uuidText_inj (String.append_right_inj _ |>.mp same) bounded (identified.bounded _ _ found)
      exact congrArg InboxEntryId.mk text
    · have empty : s.offeredExchanges functions turnId turn principalId = [] := by
        rw [offeredExchanges_nil_iff]
        rcases condition with delegated | governed | nothing
        · exact .inl delegated
        · exact absurd governed fresh
        · exact .inr nothing
      cases offered.symm.trans empty

end HistoryStore

/-! ### Two validations in a forked session -/

def sampleReaders : ValidationReaders :=
  { hash := uniformHash, artifact := fun _ => .error "", readToolIds := fun _ => [], governedEvidence := fun _ => .ok () }

def sampleSnapshot (contextSources : List AgentContextSource) : ValidationSnapshot :=
  { runId := ⟨2⟩, taskId := ⟨2⟩, agentRole := .named "assistant", turnKind := .canonical, contextSources,
    currentAttemptId := some ⟨0⟩, currentModelOutput := some (.final "done") }

/-- The criteria of a turn that runs a process. -/
def processCriteria : TaskSuccessCriteria := ⟨["authorization", "effect_outcome", "response_grounding"], .high⟩

theorem forkedSession_identified {content request} :
    (forkedSession 1 content request).InputsIdentified (sampleTurn 2 .active) (sampleEntry ⟨1⟩ 2 request ⟨2⟩) where
  bounded := by
    intro id input stored
    rcases Table.of_get_put stored with ⟨rfl, _⟩ | ⟨_, stored⟩
    · decide
    · rcases of_get_putRows stored with first | ⟨n, few, rfl, _⟩
      · rcases Table.of_get_put first with ⟨rfl, _⟩ | ⟨_, none⟩
        · decide
        · cases none
      · exact Nat.lt_of_le_of_lt few (by decide)
  session := rfl
  foreign := by
    intro ordinal reference source referred asked
    rcases Table.of_get_put referred with ⟨_, rfl⟩ | ⟨_, none⟩
    · cases asked
      decide
    · cases none

/-- The history is offered to a turn that runs a process, and its validation has the own request. -/
theorem validation_request_own_governed : ∃ sources draft,
    (forkedSession 1 "hello" "/run ls").loadContextSources sampleFunctions ⟨2⟩ (sampleTurn 2 .active) ⟨0⟩ = .ok sources ∧
      sources.length = 5 ∧
      buildValidationContext sampleReaders (sampleSnapshot sources) "done" processCriteria = .ok draft ∧
      HistoryStore.IsOwnRequest draft (sampleTurn 2 .active) (sampleEntry ⟨1⟩ 2 "/run ls" ⟨2⟩) := by
  have told : (forkedSession 1 "hello" "/run ls").conversationExchanges uniformHash ⟨2⟩ ⟨1⟩ ⟨0⟩ 0 =
      .ok [forkedExchange, ownExchange "hello" 1] := rfl
  have loaded := forkedSession_load told rfl
  have governed : (governedInputs.any fun input => "/run ls".startsWith input) = true := by decide +kernel
  have built : ∃ draft, buildValidationContext sampleReaders (sampleSnapshot ([forkedExchange,
      ownExchange "hello" 1].flatMap Exchange.pair ++ [HistoryStore.currentUser uniformHash (sampleTurn 2 .active)
        (sampleEntry ⟨1⟩ 2 "/run ls" ⟨2⟩)])) "done" processCriteria = .ok draft := by
    simp only [buildValidationContext, show ∀ sources, selectBuilder (sampleSnapshot sources) processCriteria = .freshFixture from
      fun _ => rfl, buildFreshFixtureValidationContext, eq_ok]
    refine ⟨_, _, List.find?_eq_some_iff_append.mpr ⟨decide_eq_true ⟨rfl, rfl, governed⟩, _, [], rfl, ?_⟩, ⟨⟩, rfl, rfl⟩
    intro source earlier
    obtain ⟨exchange, _, own⟩ := List.mem_flatMap.mp earlier
    have conversational := exchange.pair_conversation source own
    grind [AgentContextSource.isConversation]
  obtain ⟨draft, built⟩ := built
  exact ⟨_, draft, loaded, rfl, built, (HistoryStore.validation_request_own_iff forkedSession_written forkedSession_identified
    rfl rfl loaded built).mpr (.inr (.inl rfl))⟩

/-- The validation of a later turn has the request that the session was forked with. -/
theorem validation_of_forked_request : ∃ s snapshot draft, HistoryStore.Written s ∧
    HistoryStore.InputsIdentified s (sampleTurn 2 .active) (sampleEntry ⟨1⟩ 2 "now" ⟨2⟩) ∧
    s.core.turns.get ⟨2⟩ = some (sampleTurn 2 .active) ∧
    s.core.inbox.get ⟨2⟩ = some (sampleEntry ⟨1⟩ 2 "now" ⟨2⟩) ∧
    s.loadContextSources sampleFunctions ⟨2⟩ (sampleTurn 2 .active) ⟨0⟩ = .ok snapshot.contextSources ∧
    buildValidationContext sampleReaders snapshot "done" ⟨["response_present", "response_integrity"], .low⟩ = .ok draft ∧
    draft.request.field "content" = some (.string "hi") ∧
    ¬ HistoryStore.IsOwnRequest draft (sampleTurn 2 .active) (sampleEntry ⟨1⟩ 2 "now" ⟨2⟩) := by
  have told : (forkedSession 1 "hello" "now").conversationExchanges uniformHash ⟨2⟩ ⟨1⟩ ⟨0⟩ 0 =
      .ok [forkedExchange, ownExchange "hello" 1] := rfl
  refine ⟨forkedSession 1 "hello" "now", sampleSnapshot _, _, forkedSession_written, forkedSession_identified, rfl, rfl,
    forkedSession_load told rfl, rfl, rfl, fun own => ?_⟩
  have same := own.1
  simp [contextDraft, Json.Value.field, List.lookup, forkedExchange, sampleEntry, Exchange.pair, Exchange.sources,
    plainSource] at same

end Mealy.Context
