import Mealy.Lib.Table
import Mealy.Lib.Transaction

/-! A journal of numbered events. Every event belongs to an aggregate and takes the
aggregate's next number, which a counter beside the journal remembers; a timeline
stamps the events of all aggregates with increasing cursors. -/

namespace EventLog
open Relational Transaction

variable {α ε : Type}

structure Event (α ε : Type) where
  eventId : ε
  aggregate : α
  sequence : Nat
  eventType : String

structure TimelineRow (ε : Type) where
  cursor : Nat
  eventId : ε

/-- Events and timeline rows in the order of their insertion, the counter of each
aggregate and the last cursor that was given out. -/
structure Log (α ε : Type) where
  events : List (Event α ε) := []
  counters : Table α Nat := .empty
  timeline : List (TimelineRow ε) := []
  lastCursor : Nat := 0

inductive Placement where
  | next
  | existing
  | first
  | created
deriving DecidableEq

inductive Rejection where
  | duplicate | unnumbered | exhausted

structure Entry (α ε : Type) where
  placement : Placement
  eventId : ε
  aggregate : α
  eventType : String

namespace Log
variable [DecidableEq α]

/-- The successor of a counter, within the range of its column. -/
def successor (limit n : Nat) : Except Rejection Nat := if n + 1 ≤ limit then .ok (n + 1) else .error .exhausted

def sequenceFor (log : Log α ε) (limit : Nat) (aggregate : α) : Placement → Except Rejection Nat
  | .next =>
    match log.counters.get aggregate with
    | none => .ok 0
    | some n => successor limit n
  | .existing =>
    match log.counters.get aggregate with
    | none => .error .unnumbered
    | some n => successor limit n
  | .first | .created => .ok 0

section Append
variable [DecidableEq ε]

def insert (limit : Nat) (event : Event α ε) (log : Log α ε) : Except Rejection (Log α ε) := do
  ensure (∀ other ∈ log.events, other.eventId ≠ event.eventId ∧
    ¬ (other.aggregate = event.aggregate ∧ other.sequence = event.sequence)) .duplicate
  ensure (∀ row ∈ log.timeline, row.eventId ≠ event.eventId) .duplicate
  ensure (log.lastCursor + 1 ≤ limit) .exhausted
  pure { log with
    events := log.events ++ [event],
    timeline := log.timeline ++ [{ cursor := log.lastCursor + 1, eventId := event.eventId }],
    lastCursor := log.lastCursor + 1 }

def append (limit : Nat) (entry : Entry α ε) (log : Log α ε) : Except Rejection (Log α ε) := do
  let sequence ← log.sequenceFor limit entry.aggregate entry.placement
  let inserted ← log.insert limit
    { eventId := entry.eventId, aggregate := entry.aggregate, sequence, eventType := entry.eventType }
  ensure (entry.placement = .created → log.counters.get entry.aggregate = none) .duplicate
  pure { inserted with counters := inserted.counters.put entry.aggregate sequence }

def appendAll (limit : Nat) : List (Entry α ε) → Log α ε → Except Rejection (Log α ε)
  | [], log => .ok log
  | entry :: rest, log => do
    let appended ← log.append limit entry
    appendAll limit rest appended

end Append

/-- The numbers of an aggregate's events, in the order of their insertion. -/
def sequencesOf (log : Log α ε) (aggregate : α) : List Nat :=
  (log.events.filter fun event => event.aggregate = aggregate).map Event.sequence

/-- How many numbers the counter of an aggregate has given out. -/
def issued (log : Log α ε) (aggregate : α) : Nat := (log.counters.get aggregate).elim 0 (· + 1)

def cursorOf [DecidableEq ε] (log : Log α ε) (eventId : ε) : Option Nat :=
  (log.timeline.find? fun row => row.eventId = eventId).map TimelineRow.cursor

/-- Every aggregate is numbered from zero without gaps up to its counter, and the
timeline follows the journal row by row with growing cursors. -/
structure Valid (log : Log α ε) : Prop where
  numbered : ∀ aggregate, log.sequencesOf aggregate = List.range (log.issued aggregate)
  stamped : log.timeline.map TimelineRow.eventId = log.events.map Event.eventId
  distinct : (log.events.map Event.eventId).Nodup
  ordered : log.timeline.Pairwise fun earlier later => earlier.cursor < later.cursor
  bounded : ∀ row ∈ log.timeline, row.cursor ≤ log.lastCursor

theorem Valid.empty : Valid ({} : Log α ε) := by
  constructor <;> simp [sequencesOf, issued]

theorem Valid.taken {log : Log α ε} (valid : log.Valid) {aggregate : α} {n} (below : n < log.issued aggregate) :
    ∃ event ∈ log.events, event.aggregate = aggregate ∧ event.sequence = n := by
  have member : n ∈ log.sequencesOf aggregate := by rw [valid.numbered]; exact List.mem_range.mpr below
  simp only [sequencesOf, List.mem_map, List.mem_filter, decide_eq_true_eq] at member
  obtain ⟨event, ⟨stored, own⟩, number⟩ := member
  exact ⟨event, stored, own, number⟩

theorem Valid.sequences {log : Log α ε} (valid : log.Valid) (aggregate : α) :
    (log.counters.get aggregate = none → log.sequencesOf aggregate = []) ∧
    ∀ n, log.counters.get aggregate = some n → log.sequencesOf aggregate = List.range (n + 1) := by
  have numbered := valid.numbered aggregate
  constructor
  · intro none
    simpa [issued, none] using numbered
  · intro n some
    simpa [issued, some] using numbered

/-! ### One append -/

variable [DecidableEq ε]

theorem successor_eq_ok {limit n m} : successor limit n = .ok m ↔ n + 1 ≤ limit ∧ m = n + 1 := by
  unfold successor
  split
  next fits => simp [fits, eq_comm]
  next exceeds => simp [exceeds]

theorem insert_ok {limit} {event : Event α ε} {log log' : Log α ε} (inserted : log.insert limit event = .ok log') :
    (∀ other ∈ log.events, other.eventId ≠ event.eventId ∧
      ¬ (other.aggregate = event.aggregate ∧ other.sequence = event.sequence)) ∧
    log' = { log with
      events := log.events ++ [event],
      timeline := log.timeline ++ [{ cursor := log.lastCursor + 1, eventId := event.eventId }],
      lastCursor := log.lastCursor + 1 } := by
  simp only [insert, eq_ok] at inserted
  obtain ⟨_, fresh, _, _, _, _, rfl⟩ := inserted
  exact ⟨fresh, rfl⟩

theorem append_ok {limit} {entry : Entry α ε} {log log' : Log α ε} (valid : log.Valid)
    (appended : log.append limit entry = .ok log') :
    (∀ other ∈ log.events, other.eventId ≠ entry.eventId) ∧
    log' = { log with
      events := log.events ++ [{ eventId := entry.eventId, aggregate := entry.aggregate,
                                 sequence := log.issued entry.aggregate, eventType := entry.eventType }],
      counters := log.counters.put entry.aggregate (log.issued entry.aggregate),
      timeline := log.timeline ++ [{ cursor := log.lastCursor + 1, eventId := entry.eventId }],
      lastCursor := log.lastCursor + 1 } := by
  simp only [append, eq_ok] at appended
  obtain ⟨sequence, placed, _, inserted, _, _, rfl⟩ := appended
  obtain ⟨fresh, rfl⟩ := insert_ok inserted
  have next : sequence = log.issued entry.aggregate := by
    have zero (first : sequence = 0) : sequence = log.issued entry.aggregate := by
      by_contra other
      have given : 0 < log.issued entry.aggregate := by omega
      obtain ⟨event, stored, own, number⟩ := valid.taken given
      exact (fresh event stored).2 ⟨own, by rw [number, first]⟩
    unfold sequenceFor at placed
    unfold issued at zero ⊢
    split at placed <;> try split at placed
    next none => simpa [none] using (Except.ok.inj placed).symm
    next n some => simpa [some] using (successor_eq_ok.mp placed).2
    next => cases placed
    next n some => simpa [some] using (successor_eq_ok.mp placed).2
    next => exact zero (Except.ok.inj placed).symm
    next => exact zero (Except.ok.inj placed).symm
  subst next
  exact ⟨fun other stored => (fresh other stored).1, rfl⟩

theorem Valid.append {limit} {entry : Entry α ε} {log log' : Log α ε} (valid : log.Valid)
    (appended : log.append limit entry = .ok log') : log'.Valid := by
  obtain ⟨fresh, rfl⟩ := append_ok valid appended
  refine ⟨fun aggregate => ?_, ?_, ?_, ?_, fun row member => ?_⟩
  · have before := valid.numbered aggregate
    by_cases own : aggregate = entry.aggregate
    · subst own
      simp only [sequencesOf, issued, Table.get_put_self, List.filter_append, List.map_append, Option.elim_some]
        at before ⊢
      rw [before, List.range_succ]
      simp
    · have other : ¬ entry.aggregate = aggregate := fun same => own same.symm
      simp only [sequencesOf, issued, Table.get_put_ne _ _ own, List.filter_append, List.map_append] at before ⊢
      rw [before]
      simp [other]
  · simp [valid.stamped]
  · rw [List.map_append, List.nodup_append]
    refine ⟨valid.distinct, by simp, ?_⟩
    rintro _ old _ new rfl
    obtain ⟨other, stored, same⟩ := List.mem_map.mp old
    exact fresh other stored (by simpa [same] using new)
  · rw [List.pairwise_append]
    refine ⟨valid.ordered, by simp, fun earlier member later last => ?_⟩
    have bound := valid.bounded earlier member
    rw [List.mem_singleton.mp last]
    exact Nat.lt_succ_of_le bound
  · rcases List.mem_append.mp member with old | last
    · exact Nat.le_succ_of_le (valid.bounded row old)
    · rw [List.mem_singleton.mp last]

theorem Valid.appendAll {limit} {entries} {log log' : Log α ε} (valid : log.Valid)
    (appended : log.appendAll limit entries = .ok log') : log'.Valid := by
  induction entries generalizing log with
  | nil => cases appended; exact valid
  | cons entry rest ih =>
    obtain ⟨middle, first, others⟩ := bind_eq_ok.mp appended
    exact ih (valid.append first) others

theorem appendAll_append {limit} {first second} {log middle log' : Log α ε}
    (before : log.appendAll limit first = .ok middle) (after : middle.appendAll limit second = .ok log') :
    log.appendAll limit (first ++ second) = .ok log' := by
  induction first generalizing log with
  | nil => cases before; exact after
  | cons entry rest ih =>
    obtain ⟨next, appended, others⟩ := bind_eq_ok.mp before
    exact bind_eq_ok.mpr ⟨next, appended, ih others⟩

/-! ### What the log shows -/

theorem Valid.stamp {log : Log α ε} (valid : log.Valid) {before after} {event : Event α ε}
    (split : log.events = before ++ event :: after) :
    ∃ row, log.timeline.filter (fun other => other.eventId = event.eventId) = [row] ∧
      ∀ earlier ∈ before, ∀ other ∈ log.timeline, other.eventId = earlier.eventId → other.cursor < row.cursor := by
  have stamped := valid.stamped
  have distinct := valid.distinct
  have ordered := valid.ordered
  rw [split, List.map_append, List.map_cons] at stamped distinct
  obtain ⟨rows, rest, timeline, sameBefore, sameRest⟩ := List.map_eq_append_iff.mp stamped
  obtain ⟨row, later, rfl, same, sameAfter⟩ := List.map_eq_cons_iff.mp sameRest
  simp only [List.nodup_append, List.nodup_cons] at distinct
  obtain ⟨_, ⟨absentAfter, _⟩, apart⟩ := distinct
  have absent (other : TimelineRow ε) (member : other ∈ rows ∨ other ∈ later) : other.eventId ≠ event.eventId := by
    rcases member with earlier | late
    · exact apart _ (sameBefore ▸ List.mem_map_of_mem earlier) _ (List.mem_cons_self ..)
    · exact fun bad => absentAfter (bad ▸ sameAfter ▸ List.mem_map_of_mem late)
  refine ⟨row, ?_, fun earlier member other stored named => ?_⟩
  · have none (list : List (TimelineRow ε)) (differ : ∀ other ∈ list, other.eventId ≠ event.eventId) :
        list.filter (fun other => other.eventId = event.eventId) = [] := by
      simpa [List.filter_eq_nil_iff] using differ
    rw [timeline, List.filter_append, List.filter_cons, none rows fun other member => absent other (.inl member),
      none later fun other member => absent other (.inr member)]
    simp [same]
  · have inBefore : other.eventId ∈ before.map Event.eventId := named ▸ List.mem_map_of_mem member
    have inRows : other ∈ rows := by
      rw [timeline, List.mem_append, List.mem_cons] at stored
      rcases stored with earlier | rfl | late
      · exact earlier
      · exact absurd same (apart _ inBefore _ (List.mem_cons_self ..))
      · exact absurd rfl (apart _ inBefore _ (List.mem_cons_of_mem _ (sameAfter ▸ List.mem_map_of_mem late)))
    rw [timeline, List.pairwise_append] at ordered
    exact ordered.2.2 _ inRows _ (List.mem_cons_self ..)

/-! ### Appends keep what is there -/

theorem append_timeline {limit} {entry : Entry α ε} {log log' : Log α ε}
    (appended : log.append limit entry = .ok log') : log.timeline <+: log'.timeline := by
  simp only [append, eq_ok] at appended
  obtain ⟨_, _, _, inserted, _, _, rfl⟩ := appended
  obtain ⟨_, rfl⟩ := insert_ok inserted
  exact List.prefix_append _ _

theorem appendAll_timeline {limit} {entries} {log log' : Log α ε}
    (appended : log.appendAll limit entries = .ok log') : log.timeline <+: log'.timeline := by
  induction entries generalizing log with
  | nil => cases appended; exact List.prefix_rfl
  | cons entry rest ih =>
    obtain ⟨middle, first, others⟩ := bind_eq_ok.mp appended
    exact (append_timeline first).trans (ih others)

omit [DecidableEq α] in
theorem cursorOf_kept {log log' : Log α ε} {eventId : ε} {cursor} (grown : log.timeline <+: log'.timeline)
    (found : log.cursorOf eventId = some cursor) : log'.cursorOf eventId = some cursor := by
  obtain ⟨rows, timeline⟩ := grown
  obtain ⟨row, first, same⟩ := Option.map_eq_some_iff.mp found
  rw [cursorOf, ← timeline, List.find?_append, first]
  simp [same]

theorem append_cursor {limit} {entry : Entry α ε} {log log' : Log α ε}
    (appended : log.append limit entry = .ok log') : ∃ cursor, log'.cursorOf entry.eventId = some cursor := by
  simp only [append, eq_ok] at appended
  obtain ⟨_, _, _, inserted, _, _, rfl⟩ := appended
  obtain ⟨_, rfl⟩ := insert_ok inserted
  let row : TimelineRow ε := { cursor := log.lastCursor + 1, eventId := entry.eventId }
  have found : ((log.timeline ++ [row]).find? fun row => row.eventId = entry.eventId).isSome := by
    rw [List.find?_isSome]
    exact ⟨row, List.mem_append_right _ (List.mem_singleton_self _), by simp [row]⟩
  obtain ⟨row, first⟩ := Option.isSome_iff_exists.mp found
  exact ⟨row.cursor, by rw [cursorOf, first]; rfl⟩

theorem appendAll_cursor {limit} {entries} {log log' : Log α ε} {entry : Entry α ε}
    (appended : log.appendAll limit entries = .ok log') (listed : entry ∈ entries) :
    ∃ cursor, log'.cursorOf entry.eventId = some cursor := by
  induction entries generalizing log with
  | nil => cases listed
  | cons first rest ih =>
    obtain ⟨middle, head, others⟩ := bind_eq_ok.mp appended
    rcases List.mem_cons.mp listed with rfl | later
    · obtain ⟨cursor, stamped⟩ := append_cursor head
      exact ⟨cursor, cursorOf_kept (appendAll_timeline others) stamped⟩
    · exact ih others later

/-! ### Which appends are accepted -/

omit [DecidableEq ε] in
theorem Valid.length_le {log : Log α ε} (valid : log.Valid) : log.events.length ≤ log.lastCursor + 1 := by
  have distinct : (log.timeline.map TimelineRow.cursor).Nodup :=
    List.Pairwise.map _ (fun _ _ => Nat.ne_of_lt) valid.ordered
  have bounded : log.timeline.map TimelineRow.cursor ⊆ List.range (log.lastCursor + 1) := by
    intro cursor member
    obtain ⟨row, stored, rfl⟩ := List.mem_map.mp member
    have bound := valid.bounded row stored
    exact List.mem_range.mpr (by omega)
  have short := (List.subperm_of_subset distinct bounded).length_le
  have same := congrArg List.length valid.stamped
  simp only [List.length_map, List.length_range] at short same
  omega

omit [DecidableEq ε] in
theorem Valid.issued_le {log : Log α ε} (valid : log.Valid) (aggregate : α) :
    log.issued aggregate ≤ log.lastCursor + 1 := by
  have numbers := congrArg List.length (valid.numbered aggregate)
  have filtered := List.length_filter_le (fun event => decide (event.aggregate = aggregate)) log.events
  have short := valid.length_le
  simp only [sequencesOf, List.length_map, List.length_range] at numbers
  omega

theorem append_next_iff {limit} {entry : Entry α ε} {log : Log α ε} (valid : log.Valid)
    (next : entry.placement = .next) :
    (∃ log', log.append limit entry = .ok log') ↔
      (∀ other ∈ log.events, other.eventId ≠ entry.eventId) ∧ log.lastCursor + 1 ≤ limit := by
  constructor
  · rintro ⟨log', appended⟩
    refine ⟨(append_ok valid appended).1, ?_⟩
    simp only [append, insert, eq_ok] at appended
    obtain ⟨_, _, _, ⟨_, _, _, _, _, room, _⟩, _⟩ := appended
    exact room
  · rintro ⟨fresh, room⟩
    have placed : log.sequenceFor limit entry.aggregate entry.placement = .ok (log.issued entry.aggregate) := by
      have bound := valid.issued_le entry.aggregate
      rw [next, sequenceFor]
      unfold issued at bound ⊢
      cases counter : log.counters.get entry.aggregate with
      | none => rfl
      | some n =>
        simp only [counter, Option.elim_some] at bound ⊢
        exact successor_eq_ok.mpr ⟨by omega, rfl⟩
    have unnumbered (other : Event α ε) (stored : other ∈ log.events) :
        ¬ (other.aggregate = entry.aggregate ∧ other.sequence = log.issued entry.aggregate) := by
      rintro ⟨own, number⟩
      have listed : other.sequence ∈ log.sequencesOf entry.aggregate :=
        List.mem_map_of_mem (List.mem_filter.mpr ⟨stored, decide_eq_true own⟩)
      rw [valid.numbered, List.mem_range] at listed
      omega
    have unstamped (row : TimelineRow ε) (stored : row ∈ log.timeline) : row.eventId ≠ entry.eventId := by
      have listed : row.eventId ∈ log.events.map Event.eventId := valid.stamped ▸ List.mem_map_of_mem stored
      obtain ⟨other, member, same⟩ := List.mem_map.mp listed
      exact same ▸ fresh other member
    simp only [append, insert, placed, eq_ok]
    exact ⟨_, _, rfl, _, ⟨(), fun other stored => ⟨fresh other stored, unnumbered other stored⟩, (), unstamped, (), room,
      rfl⟩, (), by simp [next], rfl⟩

theorem appendAll_next_iff {limit} {entries} {log : Log α ε} (valid : log.Valid)
    (next : ∀ entry ∈ entries, entry.placement = .next) :
    (∃ log', log.appendAll limit entries = .ok log') ↔
      (entries.map Entry.eventId).Nodup ∧ (∀ entry ∈ entries, ∀ other ∈ log.events, other.eventId ≠ entry.eventId) ∧
        (entries ≠ [] → log.lastCursor + entries.length ≤ limit) := by
  induction entries generalizing log with
  | nil => simp [appendAll]
  | cons entry rest ih =>
    have own := next entry (List.mem_cons_self ..)
    have others (later : Entry α ε) (listed : later ∈ rest) := next later (List.mem_cons_of_mem _ listed)
    constructor
    · rintro ⟨log', appended⟩
      obtain ⟨middle, first, last⟩ := bind_eq_ok.mp appended
      obtain ⟨fresh, room⟩ := (append_next_iff valid own).mp ⟨middle, first⟩
      obtain ⟨distinct, new, enough⟩ := (ih (valid.append first) others).mp ⟨log', last⟩
      obtain ⟨_, rfl⟩ := append_ok valid first
      refine ⟨List.nodup_cons.mpr ⟨?_, distinct⟩, ?_, ?_⟩
      · intro repeated
        obtain ⟨later, listed, same⟩ := List.mem_map.mp repeated
        exact new later listed _ (List.mem_append_right _ (List.mem_singleton_self _)) same.symm
      · intro later listed other stored
        rcases List.mem_cons.mp listed with rfl | listed
        · exact fresh other stored
        · exact new later listed other (List.mem_append_left _ stored)
      · intro _
        rw [List.length_cons]
        by_cases last : rest = []
        · subst last
          exact room
        · have room' := enough last
          dsimp only at room'
          omega
    · rintro ⟨distinct, new, enough⟩
      obtain ⟨apart, distinct⟩ := List.nodup_cons.mp distinct
      have room := enough (List.cons_ne_nil _ _)
      rw [List.length_cons] at room
      have one : log.lastCursor + 1 ≤ limit := by omega
      obtain ⟨middle, first⟩ := (append_next_iff valid own).mpr ⟨new entry (List.mem_cons_self ..), one⟩
      have accepted := ih (valid.append first) others
      obtain ⟨_, rfl⟩ := append_ok valid first
      let event : Event α ε := ⟨entry.eventId, entry.aggregate, log.issued entry.aggregate, entry.eventType⟩
      have fresh (later : Entry α ε) (listed : later ∈ rest) (other : Event α ε) (stored : other ∈ log.events ++ [event]) :
          other.eventId ≠ later.eventId := by
        rcases List.mem_append.mp stored with old | added
        · exact new later (List.mem_cons_of_mem _ listed) other old
        · rw [List.mem_singleton.mp added]
          intro same
          exact apart (List.mem_map.mpr ⟨later, listed, same.symm⟩)
      obtain ⟨log', last⟩ := accepted.mpr ⟨distinct, fresh, fun _ => by dsimp only; omega⟩
      exact ⟨log', bind_eq_ok.mpr ⟨_, first, last⟩⟩

end Log
end EventLog
