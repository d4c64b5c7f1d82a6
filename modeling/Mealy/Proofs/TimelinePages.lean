import Mealy.Context.Timeline
import Mealy.Proofs.FollowUps

/-! A client that follows a timeline: it asks for the page after the last cursor it has seen
until a page announces no more events. -/

namespace Mealy.Context
open Relational Transaction EventLog

namespace HistoryStore

/-- The loop of `emit_chat_progress`, with the events it receives. It has no result where the fuel is spent
before the last page. -/
def follow (s : HistoryStore) (sessionId : SessionId) (ownership : OwnershipContext) (limit : Nat) :
    Nat → Nat → Option (Except TimelineUseCaseError (List TimelineEvent))
  | 0, _ => none
  | fuel + 1, after =>
    match s.queryTimeline ⟨sessionId, ownership, some after, limit⟩ with
    | .error error => some (.error error)
    | .ok page =>
      if page.hasMore then
        (s.follow sessionId ownership limit fuel (page.events.getLast?.elim after TimelineEvent.cursor)).map
          (Except.map (page.events ++ ·))
      else some (.ok page.events)

def after (s : HistoryStore) (sessionId : SessionId) (cursor : Nat) : List TimelineEvent :=
  (s.timeline sessionId).filter fun event => cursor < event.cursor

variable {s : HistoryStore} {sessionId : SessionId}

theorem timeline_ordered (valid : s.base.journal.Valid) :
    (s.timeline sessionId).Pairwise fun earlier later => earlier.cursor < later.cursor := by
  refine valid.ordered.filterMap _ fun row row' before event isEvent event' isEvent' => ?_
  simp only [Option.bind_eq_bind, Option.bind_eq_some_iff, Option.ite_none_right_eq_some, Option.some.injEq] at isEvent isEvent'
  obtain ⟨_, _, _, rfl⟩ := isEvent
  obtain ⟨_, _, _, rfl⟩ := isEvent'
  exact before

theorem le_highWatermark (valid : s.base.journal.Valid) {event} (member : event ∈ s.timeline sessionId) :
    event.cursor ≤ s.highWatermark sessionId := by
  have ordered := (@timeline_ordered s sessionId valid).imp Nat.le_of_lt
  rw [highWatermark, List.getLast?_eq_some_getLast (List.ne_nil_of_mem member)]
  exact ordered.rel_getLast_of_rel_getLast_getLast member (Nat.le_refl _)

theorem after_split (valid : s.base.journal.Valid) {cursor front event rest}
    (split : s.after sessionId cursor = front ++ event :: rest) :
    event ∈ s.timeline sessionId ∧ cursor < event.cursor ∧ s.after sessionId event.cursor = rest := by
  have ordered := (@timeline_ordered s sessionId valid).filter fun other => decide (cursor < other.cursor)
  obtain ⟨stored, later⟩ := List.mem_filter.mp (show event ∈ s.after sessionId cursor by rw [split]; simp)
  rw [decide_eq_true_eq] at later
  have narrowed : s.after sessionId event.cursor = (s.after sessionId cursor).filter fun other => event.cursor < other.cursor := by
    rw [after, after, List.filter_filter]
    refine List.filter_congr fun other _ => ?_
    rw [← Bool.decide_and]
    exact decide_eq_decide.mpr ⟨fun behind => ⟨behind, by omega⟩, And.left⟩
  refine ⟨stored, later, ?_⟩
  rw [narrowed, split, List.filter_append, List.filter_cons_of_neg (by simp)]
  rw [← after, split, List.pairwise_append, List.pairwise_cons] at ordered
  obtain ⟨_, ⟨behind, _⟩, before⟩ := ordered
  rw [List.filter_eq_nil_iff.mpr, List.filter_eq_self.mpr, List.nil_append]
  · exact fun other stands => by simpa using behind other stands
  · exact fun other stands => by simpa using Nat.le_of_lt (before other stands event (by simp))

end HistoryStore

/-- While the store rests, the owner of a session who follows its timeline from a cursor receives
every later event once, in the order of the cursors, after finitely many pages. -/
theorem followed_timeline_complete {functions : CompactionFunctions} {s : HistoryStore} {sessionId : SessionId}
    {session : Session} {ownership : OwnershipContext} {limit cursor fuel : Nat}
    (reached : (historySystem functions).Reachable s) (found : s.core.sessions.get sessionId = some session)
    (owned : session.ownedBy ownership = true) (positive : 0 < limit) (bounded : limit ≤ 1000)
    (retained : s.earliestCursor ≤ cursor + 1) (known : cursor ≤ s.highWatermark sessionId)
    (enough : (s.after sessionId cursor).length < fuel) :
    s.follow sessionId ownership limit fuel cursor = some (.ok (s.after sessionId cursor)) ∧
      (s.after sessionId cursor).Pairwise fun earlier later => earlier.cursor < later.cursor := by
  have valid := (history_valid reached).journal
  refine ⟨?_, (HistoryStore.timeline_ordered valid).filter _⟩
  induction fuel generalizing cursor with
  | zero => omega
  | succ fuel ih =>
    have page : s.queryTimeline ⟨sessionId, ownership, some cursor, limit⟩ = .ok
        ⟨(s.after sessionId cursor).take limit, s.highWatermark sessionId, limit < (s.after sessionId cursor).length⟩ := by
      simp [HistoryStore.queryTimeline, Nat.ne_of_gt positive, bounded, HistoryStore.timelinePage,
        HistoryStore.authorizeTimeline, found, owned, require, ensure, retained, known, HistoryStore.after, List.take_take, List.length_take]
      congr
    simp only [HistoryStore.follow, page, decide_eq_true_eq]
    split
    next more =>
      -- The page is full, and the next one goes on behind its last event.
      have some_ : (s.after sessionId cursor).take limit ≠ [] := by
        rw [← List.length_pos_iff, List.length_take]
        omega
      obtain ⟨front, event, full⟩ := (List.eq_nil_or_concat _).resolve_left some_
      rw [List.concat_eq_append] at full
      have split := List.take_append_drop limit (s.after sessionId cursor)
      rw [full, List.append_assoc, List.singleton_append] at split
      obtain ⟨stored, later, rest⟩ := HistoryStore.after_split valid split.symm
      have shorter := congrArg List.length split
      simp only [List.length_append, List.length_cons] at shorter
      have next := @ih event.cursor (by omega) (HistoryStore.le_highWatermark valid stored) (by rw [rest]; omega)
      rw [full, List.getLast?_concat, Option.elim_some, next, Option.map_some, Except.map, rest, List.append_assoc, List.singleton_append, split]
    next whole =>
      rw [List.take_of_length_le (Nat.le_of_not_lt whole)]

theorem followed_timeline_pages :
    ∃ s : HistoryStore, (historySystem sampleCompactions).Reachable s ∧
      s.follow ⟨0⟩ sampleOwner 5 20 0 = some (.ok (s.after ⟨0⟩ 0)) ∧ (s.after ⟨0⟩ 0).length = 19 := by
  obtain ⟨s, reached, owned, retained, length⟩ : ∃ s, (historySystem sampleCompactions).Reachable s ∧
      (s.core.sessions.get ⟨0⟩).any (fun session => session.ownedBy sampleOwner) = true ∧ s.earliestCursor ≤ 1 ∧
      (s.after ⟨0⟩ 0).length = 19 :=
    System.exists_reachableIf (answeredModel ++ [answerRun]) (by decide +kernel)
  obtain ⟨session, found, owned⟩ := Option.any_eq_true _ _ |>.mp owned
  exact ⟨s, reached, (followed_timeline_complete reached found owned (by decide) (by decide) retained (Nat.zero_le _) (by omega)).1, length⟩

end Mealy.Context
