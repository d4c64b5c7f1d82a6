import Mealy.Proofs.FollowUps

/-! What a compaction takes out of the conversation. A commit is checked against a range of
the timeline, while the loader keeps the turns whose input was admitted after the end of that
range, wherever the range begins and wherever the turns were completed. -/

namespace Mealy.Context
open Relational Transaction EventLog Memories

namespace HistoryStore

structure WithinRange (s : HistoryStore) (compaction : SessionCompaction) (turnId : TurnId) (turn : Turn) : Prop where
  input : ∀ admitted ∈ s.admissionCursor turn.inboxEntryId,
    compaction.sourceFirstCursor ≤ admitted ∧ admitted ≤ compaction.sourceLastCursor
  completion : ∀ completed ∈ s.eventCursors (.turn turnId) "turn.completed",
    compaction.sourceFirstCursor ≤ completed ∧ completed ≤ compaction.sourceLastCursor

/-- The turn would be eligible without a compaction, and the loader does not find it. -/
def LeftOut (hash : DigestFunction) (s : HistoryStore) (currentId : TurnId) (current : Turn) (session : Session)
    (turn : Turn) : Prop :=
  s.FollowUpSees hash currentId current session 0 turn ∧
    ¬ s.FollowUpSees hash currentId current session (s.compactionCutoff currentId current session.principalId) turn

def ReplacesRange (hash : DigestFunction) (s : HistoryStore) (currentId : TurnId) (current : Turn) (session : Session)
    (compaction : SessionCompaction) : Prop :=
  ∀ turnId turn, s.core.turns.get turnId = some turn → s.FollowUpSees hash currentId current session 0 turn →
    (s.LeftOut hash currentId current session turn ↔ s.WithinRange compaction turnId turn)

/-- Every turn of the history that was asked before the end of the range was asked and
answered within it. -/
def RangeCovers (hash : DigestFunction) (s : HistoryStore) (currentId : TurnId) (current : Turn) (session : Session)
    (compaction : SessionCompaction) : Prop :=
  ∀ turnId turn, s.core.turns.get turnId = some turn → s.FollowUpSees hash currentId current session 0 turn →
    ∀ admitted ∈ s.admissionCursor turn.inboxEntryId, admitted ≤ compaction.sourceLastCursor →
      s.WithinRange compaction turnId turn

theorem followUpSees_cutoff {functions s}
    (reached : (historySystem functions).Reachable s) {hash currentId turnId current turn session cutoff} (found : s.core.turns.get turnId = some turn)
    (sees : s.FollowUpSees hash currentId current session 0 turn) :
    s.FollowUpSees hash currentId current session cutoff turn ↔
      ∃ admitted, s.admissionCursor turn.inboxEntryId = some admitted ∧ cutoff < admitted := by
  have order := (conversation_valid (history_valid reached).core).order
  constructor
  · rintro ⟨exchange, member, of⟩
    obtain ⟨_, otherId, other, _, otherFound, eligible, _⟩ := mem_eligibleHistory.mp member
    obtain ⟨_, admitted, _, _, _, _, _, _, _, cursor, after, _, _, _, _, _, rfl⟩ := exchangeOf_eq_some.mp eligible
    have same : otherId = turnId := order.single otherId turnId other turn otherFound found of.input
    subst same
    cases found.symm.trans otherFound
    exact ⟨admitted, cursor, after⟩
  · rintro ⟨admitted, cursor, after⟩
    obtain ⟨exchange, member, of⟩ := sees
    obtain ⟨input, otherId, other, currently, otherFound, eligible, completed⟩ := mem_eligibleHistory.mp member
    obtain ⟨entry, _, messageId, message, assistant, asked, promoted, named, earlier, _, _, rest⟩ :=
      exchangeOf_eq_some.mp eligible
    have same : other.inboxEntryId = turn.inboxEntryId := by
      obtain ⟨_, _, _, _, _, rfl⟩ := rest
      exact of.input
    refine ⟨exchange, mem_eligibleHistory.mpr ⟨input, otherId, other, currently, otherFound, ?_, completed⟩, of⟩
    exact exchangeOf_eq_some.mpr ⟨entry, admitted, messageId, message, assistant, asked, promoted, named, earlier,
      same ▸ cursor, after, rest⟩

theorem eligible_of {hash : DigestFunction} {s : HistoryStore} {currentId : TurnId} {sessionId : SessionId}
    {principalId : PrincipalId} {cutoff : Nat} {exchange : Exchange}
    (member : exchange ∈ s.eligibleHistory hash currentId sessionId principalId cutoff) :
    ∃ turnId turn, s.core.turns.get turnId = some turn ∧ exchange.Of s turn := by
  obtain ⟨_, turnId, turn, _, found, eligible, _⟩ := mem_eligibleHistory.mp member
  obtain ⟨entry, _, messageId, message, content, asked, _, _, _, _, _, answered, _, _, _, _, rfl⟩ :=
    exchangeOf_eq_some.mp eligible
  simp only [answer, Option.bind_eq_bind, Option.bind_eq_some_iff, Option.filter_eq_some_iff, Option.pure_def,
    Option.some.injEq, Prod.mk.injEq] at answered
  obtain ⟨_, _, _, _, _, _, _, final, _, ⟨stored, _⟩, _, inline, rfl, rfl, rfl⟩ := answered
  exact ⟨turnId, turn, found, rfl, rfl, ⟨entry, asked, rfl⟩, ⟨_, final, stored, inline.symm, rfl⟩⟩

/-- In every run: the newest applicable compaction of a turn takes out exactly the turns of its
range when no earlier turn of the history starts before it or ends after it. -/
theorem compaction_replaces_range_iff {functions : CompactionFunctions} {s : HistoryStore}
    (reached : (historySystem functions).Reachable s) {currentId : TurnId} {current : Turn} {session : Session}
    {compactionId : CompactionId} {compaction : SessionCompaction}
    (applied : s.newestCompaction currentId current session.principalId = some (compactionId, compaction)) :
    s.ReplacesRange functions.hash currentId current session compaction ↔
      s.RangeCovers functions.hash currentId current session compaction := by
  have cutoff : s.compactionCutoff currentId current session.principalId = compaction.sourceLastCursor := by
    rw [compactionCutoff, applied]
    rfl
  constructor
  · intro replaces turnId turn found sees admitted cursor before
    apply (replaces turnId turn found sees).mp
    refine ⟨sees, ?_⟩
    rw [cutoff, followUpSees_cutoff reached found sees]
    rintro ⟨admitted', cursor', after⟩
    cases (show s.admissionCursor turn.inboxEntryId = some admitted from cursor).symm.trans cursor'
    omega
  · intro covers turnId turn found sees
    obtain ⟨admitted, cursor, _⟩ := (followUpSees_cutoff reached found sees).mp sees
    constructor
    · rintro ⟨_, blind⟩
      apply covers turnId turn found sees admitted cursor
      by_contra after
      rw [cutoff] at blind
      exact blind ((followUpSees_cutoff reached found sees).mpr ⟨admitted, cursor, by omega⟩)
    · intro within
      refine ⟨sees, ?_⟩
      rw [cutoff, followUpSees_cutoff reached found sees]
      rintro ⟨admitted', cursor', after⟩
      have last := (within.input admitted' cursor').2
      omega

end HistoryStore

/-! ### Ranges around a turn -/

def compactAt (first last : Nat) (cited : EventId) : HistoryOperation :=
  let item (key : String) : CitedCompactionItem := ⟨key, key, [⟨cited, first, uniformHash.digest ""⟩]⟩
  .commitCompaction
    { ownership := sampleOwner, sessionId := ⟨0⟩,
      record :=
        { compactionId := ⟨0⟩, artifactId := ⟨0⟩, sourceRange := ⟨first, last⟩, promptVersion := "mealy.compaction.v1",
          configDigest := uniformHash.digest "", artifactDigest := uniformHash.digest "",
          carryForward := ⟨[item "goal"], [item "constraint"], [], [], [], []⟩ },
      summaryText := "summary", blobSizeBytes := 7, eventId := ⟨50⟩, createdAt := 41 }

def compactedRun (first last : Nat) (cited : EventId) : List HistoryOperation :=
  answeredModel ++ [answerRun, compactAt first last cited, admitAt 1 "and now?", promoteAt 1]

def compacted (first last : Nat) (s : HistoryStore) : Prop :=
  s.core.turns.get ⟨0⟩ = some (turnAt 0 .completed) ∧
    (s.eligibleHistory uniformHash ⟨1⟩ ⟨0⟩ ⟨0⟩ 0).map Exchange.inboxEntryId = [⟨0⟩] ∧ s.admissionCursor ⟨0⟩ = some 2 ∧
    s.eventCursors (.turn ⟨0⟩) "turn.completed" = [18] ∧
    ∃ compaction ∈ (s.newestCompaction ⟨1⟩ (turnAt 1 .active) ⟨0⟩).map Prod.snd,
      compaction.sourceFirstCursor = first ∧ compaction.sourceLastCursor = last

instance (first last : Nat) : DecidablePred (compacted first last) := fun s => by unfold compacted; infer_instance

abbrev followedSession : Session := ⟨⟨0⟩, ⟨0⟩, some ⟨1⟩, 3⟩

theorem compacted_applies {first last : Nat} {s : HistoryStore} (reached : (historySystem sampleCompactions).Reachable s)
    (holds : compacted first last s) :
    ∃ compactionId compaction, s.newestCompaction ⟨1⟩ (turnAt 1 .active) ⟨0⟩ = some (compactionId, compaction) ∧
      compaction.sourceFirstCursor = first ∧ compaction.sourceLastCursor = last ∧
      s.FollowUpSees uniformHash ⟨1⟩ (turnAt 1 .active) followedSession 0 (turnAt 0 .completed) ∧
      ∀ turnId turn, s.core.turns.get turnId = some turn →
        s.FollowUpSees uniformHash ⟨1⟩ (turnAt 1 .active) followedSession 0 turn →
        turnId = ⟨0⟩ ∧ turn = turnAt 0 .completed := by
  obtain ⟨found, history, _, _, compaction, newest, begins, ends⟩ := holds
  have order := (conversation_valid (history_valid reached).core).order
  have only {turnId : TurnId} {turn : Turn} (other : s.core.turns.get turnId = some turn)
      (input : turn.inboxEntryId = ⟨0⟩) : turnId = ⟨0⟩ ∧ turn = turnAt 0 .completed := by
    have same : turnId = ⟨0⟩ := order.single turnId ⟨0⟩ turn _ other found input
    subst same
    cases found.symm.trans other
    exact ⟨rfl, rfl⟩
  have input (exchange : Exchange) (member : exchange ∈ s.eligibleHistory uniformHash ⟨1⟩ ⟨0⟩ ⟨0⟩ 0) :
      exchange.inboxEntryId = ⟨0⟩ := by
    have listed : exchange.inboxEntryId ∈ [(⟨0⟩ : InboxEntryId)] := history ▸ List.mem_map_of_mem member
    exact List.mem_singleton.mp listed
  obtain ⟨⟨compactionId, compaction⟩, applied, rfl⟩ := Option.map_eq_some_iff.mp newest
  refine ⟨compactionId, compaction, applied, begins, ends, ?_, ?_⟩
  · obtain ⟨exchange, member, _⟩ := List.mem_map.mp (history ▸ List.mem_singleton_self _)
    obtain ⟨turnId, turn, other, of⟩ := HistoryStore.eligible_of member
    obtain ⟨_, same⟩ := only other (of.input.symm.trans (input exchange member))
    exact ⟨exchange, member, same ▸ of⟩
  · rintro turnId turn other ⟨exchange, member, of⟩
    exact only other (of.input.symm.trans (input exchange member))

theorem compaction_replaces_turn :
    ∃ (s : HistoryStore) (compactionId : CompactionId) (compaction : SessionCompaction),
      (historySystem sampleCompactions).Reachable s ∧
      s.newestCompaction ⟨1⟩ (turnAt 1 .active) followedSession.principalId = some (compactionId, compaction) ∧
      s.RangeCovers uniformHash ⟨1⟩ (turnAt 1 .active) followedSession compaction ∧
      s.ReplacesRange uniformHash ⟨1⟩ (turnAt 1 .active) followedSession compaction := by
  obtain ⟨s, reached, holds⟩ : ∃ s, (historySystem sampleCompactions).Reachable s ∧ compacted 2 19 s :=
    System.exists_reachableIf (compactedRun 2 19 ⟨1⟩) (by decide +kernel)
  obtain ⟨compactionId, compaction, applied, begins, ends, _, only⟩ := compacted_applies reached holds
  obtain ⟨_, _, cursor, completed, _⟩ := holds
  have covers : s.RangeCovers uniformHash ⟨1⟩ (turnAt 1 .active) followedSession compaction := by
    intro turnId turn found sees _ _ _
    obtain ⟨rfl, rfl⟩ := only turnId turn found sees
    refine ⟨?_, ?_⟩
    · intro admitted admission
      cases cursor.symm.trans admission
      omega
    · intro stamp listed
      rw [completed] at listed
      have same := List.mem_singleton.mp listed
      omega
  exact ⟨s, compactionId, compaction, reached, applied, covers,
    (HistoryStore.compaction_replaces_range_iff reached applied).mpr covers⟩

/-- A compaction of what came after the turn takes it out too. -/
theorem compaction_drops_earlier_turn :
    ∃ (s : HistoryStore) (compactionId : CompactionId) (compaction : SessionCompaction) (turn : Turn),
      (historySystem sampleCompactions).Reachable s ∧
      s.newestCompaction ⟨1⟩ (turnAt 1 .active) followedSession.principalId = some (compactionId, compaction) ∧
      s.core.turns.get ⟨0⟩ = some turn ∧ s.LeftOut uniformHash ⟨1⟩ (turnAt 1 .active) followedSession turn ∧
      (∀ admitted ∈ s.admissionCursor turn.inboxEntryId, admitted < compaction.sourceFirstCursor) ∧
      (∀ completed ∈ s.eventCursors (.turn ⟨0⟩) "turn.completed", completed < compaction.sourceFirstCursor) ∧
      ¬ s.ReplacesRange uniformHash ⟨1⟩ (turnAt 1 .active) followedSession compaction := by
  obtain ⟨s, reached, holds⟩ : ∃ s, (historySystem sampleCompactions).Reachable s ∧ compacted 19 19 s :=
    System.exists_reachableIf (compactedRun 19 19 ⟨702⟩) (by decide +kernel)
  obtain ⟨compactionId, compaction, applied, begins, ends, sees, _⟩ := compacted_applies reached holds
  obtain ⟨found, _, cursor, completed, _⟩ := holds
  have cutoff : s.compactionCutoff ⟨1⟩ (turnAt 1 .active) followedSession.principalId = 19 := by
    rw [HistoryStore.compactionCutoff, applied, ← ends]
    rfl
  have left : s.LeftOut uniformHash ⟨1⟩ (turnAt 1 .active) followedSession (turnAt 0 .completed) := by
    refine ⟨sees, ?_⟩
    rw [cutoff, HistoryStore.followUpSees_cutoff reached found sees]
    rintro ⟨admitted, admission, after⟩
    cases cursor.symm.trans admission
    omega
  refine ⟨s, compactionId, compaction, _, reached, applied, found, left, ?_, ?_, ?_⟩
  · intro admitted admission
    cases cursor.symm.trans admission
    omega
  · intro stamp listed
    rw [completed] at listed
    have same := List.mem_singleton.mp listed
    omega
  · intro replaces
    obtain ⟨input, _⟩ := (replaces ⟨0⟩ _ found sees).mp left
    have late := (input 2 cursor).1
    omega

end Mealy.Context
