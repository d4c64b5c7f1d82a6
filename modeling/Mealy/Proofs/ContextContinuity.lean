import Mealy.Proofs.Conversation
import Mealy.Proofs.ResourceClaims
import Mealy.Store.ContextEpochs

/-! Context continuity. Two consecutive compiled turns of a session with the same
identities run in one epoch, as long as no delegated turn compiles a context; a
delegated turn opens an epoch of its own and moves the session to it. -/

namespace Mealy
open Relational Transaction

variable {sha256 : String → String} {runId : RunId} {first : Turn} {snapshot : EpochSnapshot}

/-! ### What a step does to the epochs -/

structure Driven (s : Store) (runId : RunId) (turnId : TurnId) (turn : Turn) : Prop where
  stored : s.turns.get turnId = some turn
  carried : turn.runId = runId
  active : turn.status = .active

theorem Store.loadFencedOwner_driven {s fence now owner}
    (loaded : s.loadFencedOwner fence now = .ok owner) : Driven s fence.runId owner.turnId owner.turn := by
  obtain ⟨_, _, _, _, _, carried, _, _, active, _⟩ := Store.loadFencedOwner_ok.mp loaded
  obtain ⟨stored, same⟩ := Store.turnOfRun_some carried
  exact ⟨stored, same, active⟩

/-- What a step does while no delegated turn compiles a context. -/
inductive EpochMove (s : ContextStore) : ContextStore → Prop where
  | quiet {core} (conversation : ConversationMove s.core core) : EpochMove s { s with core }
  | loaded {runId turnId turn snapshot} (driven : Driven s.core runId turnId turn)
      (pointed : snapshot.contextEpoch.map Prod.fst = s.loadedEpoch turnId turn)
      (read : ∀ epochId epoch, snapshot.contextEpoch = some (epochId, epoch) → s.epochs.get epochId = some epoch) :
      EpochMove s { s with snapshots := s.snapshots.put runId snapshot }
  | opened {core runId turnId turn snapshot epochId} {epoch : ContextEpoch} {retired : Table ContextEpochId ContextEpoch}
      (frame : QuietFrame s.core core) (driven : Driven s.core runId turnId turn) (canonical : turn.kind = .canonical)
      (loaded : s.snapshots.get runId = some snapshot) (stale : snapshot.isStale epoch.identity = true)
      (unbound : s.turnEpoch.get turnId = none) (fresh : retired.get epochId = none)
      (kept : ∀ otherId, (retired.get otherId).map ContextEpoch.identity =
        (s.epochs.get otherId).map ContextEpoch.identity) :
      EpochMove s { s with
        core, epochs := retired.put epochId epoch, currentEpoch := s.currentEpoch.put turn.sessionId epochId,
        turnEpoch := s.turnEpoch.put turnId epochId }
  | joined {core runId turnId turn epochId} (frame : QuietFrame s.core core) (driven : Driven s.core runId turnId turn)
      (canonical : turn.kind = .canonical) (unbound : s.turnEpoch.get turnId = none)
      (pointed : s.currentEpoch.get turn.sessionId = some epochId) :
      EpochMove s { s with core, turnEpoch := s.turnEpoch.put turnId epochId }

theorem retireCurrentEpoch_keeps {sessionId at_ s retired} (done : retireCurrentEpoch sessionId at_ s = .ok retired)
    (otherId) :
    (retired.get otherId).map ContextEpoch.identity = (s.epochs.get otherId).map ContextEpoch.identity := by
  unfold retireCurrentEpoch at done
  split at done
  next => cases done; rfl
  next currentId pointed =>
    simp only [eq_ok] at done
    obtain ⟨epoch, stored, _, _, rfl⟩ := done
    have same : ContextEpoch.identity { epoch with retiredAt := some at_ } = epoch.identity := rfl
    exact Table.map_get_put_same stored same otherId

theorem loadAgentRun_move {fence observedAt s s'}
    (ok : loadAgentRun fence observedAt s = .ok s') : EpochMove s s' := by
  simp only [loadAgentRun, eq_ok] at ok
  obtain ⟨owner, loaded, row, read, rfl⟩ := ok
  have driven := Store.loadFencedOwner_driven loaded
  unfold ContextStore.loadContextEpoch at read
  split at read
  next absent =>
    cases read
    exact .loaded driven (by rw [absent]; rfl) (fun _ _ none => nomatch none)
  next epochId pointed =>
    simp only [eq_ok] at read
    obtain ⟨epoch, stored, rfl⟩ := read
    refine .loaded driven (by rw [pointed]; rfl) fun _ _ same => ?_
    cases same
    exact stored

theorem enterEpoch_move {compiled owner core s entered}
    (loaded : s.snapshots.get runId = some snapshot) (driven : Driven s.core runId owner.turnId owner.turn)
    (canonical : owner.turn.kind = .canonical) (frame : QuietFrame s.core core)
    (enters : enterEpoch sha256 compiled snapshot owner s = .ok entered) : EpochMove s { entered with core } := by
  unfold enterEpoch at enters
  split at enters
  next stale =>
    simp only [insertContextEpoch, eq_ok] at enters
    obtain ⟨_, _, _, _, _, _, retired, done, _, ⟨fresh, _⟩, _, unbound, rfl⟩ := enters
    exact .opened frame driven canonical loaded stale unbound fresh (retireCurrentEpoch_keeps done)
  next =>
    split at enters
    next epochId epoch _ =>
      unfold bindLoadedEpoch at enters
      split at enters
      next =>
        simp only [eq_ok] at enters
        obtain ⟨_, _, rfl⟩ := enters
        exact .quiet (.same frame.inbox frame.turns frame.sessions)
      next unbound =>
        simp only [eq_ok] at enters
        obtain ⟨_, ⟨pointed, _⟩, rfl⟩ := enters
        exact .joined frame driven canonical unbound pointed
    next => cases enters

theorem ContextOperation.epoch_move {op : ContextOperation} {s s' : ContextStore}
    (allowed : op.compilesDelegate s = false) (ok : op.exec sha256 s = .ok s') : EpochMove s s' := by
  cases op with
  | store op other =>
    simp only [exec, eq_ok] at ok
    obtain ⟨core, step, rfl⟩ := ok
    exact .quiet (conversation_move (Operation.exec_eq_ok.mp step).2)
  | loadAgentRun fence observedAt => exact loadAgentRun_move ok
  | prepareNextModel commit compiled =>
    simp only [exec, Mealy.prepareNextModel, eq_ok] at ok
    obtain ⟨snapshot, loaded, owner, owned, entered, enters, core, step, rfl⟩ := ok
    have canonical : owner.turn.kind = .canonical := by
      obtain ⟨_, _, _, _, _, carried, _⟩ := Store.loadFencedOwner_ok.mp owned
      simp only [compilesDelegate, carried, Option.any_some, decide_eq_false_iff_not] at allowed
      cases kind : owner.turn.kind with
      | canonical => rfl
      | delegated => exact absurd kind allowed
    exact enterEpoch_move loaded (Store.loadFencedOwner_driven owned) canonical
      (quiet_frame rfl (Operation.exec_eq_ok.mp step).2) enters

/-! ### The turns in the epochs -/

def ContextStore.CompiledIn (s : ContextStore) (turnId : TurnId) (epochId : ContextEpochId)
    (identity : ContextIdentity) : Prop :=
  s.turnEpoch.get turnId = some epochId ∧ (s.epochs.get epochId).map ContextEpoch.identity = some identity

/-- Two canonical turns of a session, with no compiled canonical turn between them. -/
structure ContextStore.Consecutive (s : ContextStore) (firstId secondId : TurnId) (first second : Turn) : Prop where
  storedFirst : s.core.turns.get firstId = some first
  storedSecond : s.core.turns.get secondId = some second
  home : first.sessionId = second.sessionId
  canonical : first.kind = .canonical ∧ second.kind = .canonical
  precedes : s.core.Precedes first second
  between : ∀ otherId other, s.core.turns.get otherId = some other → other.sessionId = second.sessionId →
    other.kind = .canonical → s.core.Precedes first other → s.core.Precedes other second →
    s.turnEpoch.get otherId = none

/-- Consecutive turns with the same identities share an epoch, and the first turn is
history of the second from the moment that the second is active. -/
structure ContextContinuity (s : ContextStore) : Prop where
  shared : ∀ firstId secondId first second, s.Consecutive firstId secondId first second →
    ∀ epochId epochId' identity, s.CompiledIn firstId epochId identity → s.CompiledIn secondId epochId' identity →
      epochId' = epochId ∧ s.historyEpoch secondId second = some epochId
  offered : ∀ firstId secondId first second, s.Consecutive firstId secondId first second → ∀ epochId,
    s.turnEpoch.get firstId = some epochId → s.turnEpoch.get secondId = none → second.status = .active →
      s.historyEpoch secondId second = some epochId

/-- The session is in the epoch of its last compiled turn, and a loaded run that is not
compiled yet has seen that epoch. -/
structure EpochsValid (s : ContextStore) : Prop where
  bound : ∀ turnId epochId, s.turnEpoch.get turnId = some epochId →
    (∃ turn, s.core.turns.get turnId = some turn) ∧ ∃ epoch, s.epochs.get epochId = some epoch
  pointed : ∀ sessionId epochId, s.currentEpoch.get sessionId = some epochId → ∃ epoch, s.epochs.get epochId = some epoch
  read : ∀ runId snapshot epochId epoch, s.snapshots.get runId = some snapshot →
    snapshot.contextEpoch = some (epochId, epoch) →
      (s.epochs.get epochId).map ContextEpoch.identity = some epoch.identity
  carried : ∀ runId snapshot, s.snapshots.get runId = some snapshot →
    ∃ turnId turn, s.core.turns.get turnId = some turn ∧ turn.runId = runId
  seen : ∀ runId snapshot turnId turn, s.snapshots.get runId = some snapshot →
    s.core.turns.get turnId = some turn → turn.runId = runId → turn.kind = .canonical → turn.status = .active →
    s.turnEpoch.get turnId = none → snapshot.contextEpoch.map Prod.fst = s.currentEpoch.get turn.sessionId
  last : ∀ turnId turn epochId, s.core.turns.get turnId = some turn → turn.kind = .canonical →
    s.turnEpoch.get turnId = some epochId →
    (∀ otherId other, s.core.turns.get otherId = some other → other.sessionId = turn.sessionId →
      other.kind = .canonical → s.core.Precedes turn other → s.turnEpoch.get otherId = none) →
    s.currentEpoch.get turn.sessionId = some epochId
  shared : ∀ firstId secondId first second, s.Consecutive firstId secondId first second →
    ∀ epochId epochId' identity, s.CompiledIn firstId epochId identity → s.CompiledIn secondId epochId' identity →
      epochId' = epochId

/-! ### Every step keeps the epochs valid -/

theorem ContextStore.Consecutive.before {s : ContextStore} {core : Store} (order : TurnOrder s.core)
    (move : ConversationMove s.core core) {firstId secondId : TurnId} {second first' second' : Turn}
    (pair : Consecutive { s with core } firstId secondId first' second')
    (stored : s.core.turns.get firstId = some first) (stored' : s.core.turns.get secondId = some second) :
    s.Consecutive firstId secondId first second := by
  obtain ⟨_, same, ⟨session, _, input, kind⟩, _⟩ := move.turn_kept stored
  obtain ⟨_, same', ⟨session', _, input', kind'⟩, _⟩ := move.turn_kept stored'
  obtain ⟨found, found', home, ⟨canonical, canonical'⟩, precedes, between⟩ := pair
  rw [found] at same
  rw [found'] at same'
  cases same
  cases same'
  rw [kind] at canonical
  rw [kind'] at canonical'
  obtain ⟨entry, consumed, _⟩ := order.consumes _ _ stored canonical
  obtain ⟨entry', consumed', _⟩ := order.consumes _ _ stored' canonical'
  refine ⟨stored, stored', by rw [← session, home, session'], ⟨canonical, canonical'⟩,
    (move.precedes_iff ⟨_, consumed⟩ ⟨_, consumed'⟩ input input').mp precedes, ?_⟩
  intro otherId other known ofSession kindOther after before
  obtain ⟨other', knownLater, ⟨sessionOther, _, inputOther, kindLater⟩, _⟩ := move.turn_kept known
  obtain ⟨entryOther, consumedOther, _⟩ := order.consumes _ _ known kindOther
  exact between otherId other' knownLater (by rw [sessionOther, ofSession, session']) (kindLater.trans kindOther)
    ((move.precedes_iff ⟨_, consumed⟩ ⟨_, consumedOther⟩ input inputOther).mpr after)
    ((move.precedes_iff ⟨_, consumedOther⟩ ⟨_, consumed'⟩ inputOther input').mpr before)

theorem EpochsValid.quiet {s : ContextStore} {core : Store} (valid : EpochsValid s) (order : TurnOrder s.core)
    (move : ConversationMove s.core core) : EpochsValid { s with core } := by
  refine ⟨?_, valid.pointed, valid.read, ?_, ?_, ?_, ?_⟩
  · intro turnId epochId isBound
    obtain ⟨⟨turn, stored⟩, recorded⟩ := valid.bound turnId epochId isBound
    obtain ⟨turn', kept, _⟩ := move.turn_kept stored
    exact ⟨⟨turn', kept⟩, recorded⟩
  · intro runId snapshot loaded
    obtain ⟨turnId, turn, stored, carried⟩ := valid.carried runId snapshot loaded
    obtain ⟨turn', kept, ⟨_, run, _⟩, _⟩ := move.turn_kept stored
    exact ⟨turnId, turn', kept, run.trans carried⟩
  · intro runId snapshot turnId turn' loaded stored ofRun canonical active unbound
    rcases move.turn_before stored with ⟨turn, before⟩ | ⟨_, alone⟩
    · obtain ⟨_, kept, ⟨session, run, _, kind⟩, running⟩ := move.turn_kept before
      cases stored.symm.trans kept
      rw [session]
      rw [kind] at canonical
      exact valid.seen runId snapshot turnId turn loaded before (run.symm.trans ofRun) canonical
        (running canonical active) unbound
    · obtain ⟨otherId, other, known, carried⟩ := valid.carried runId snapshot loaded
      exact absurd (carried.trans ofRun.symm) (alone otherId other known)
  · intro turnId turn' epochId stored canonical isBound nothingLater
    obtain ⟨⟨turn, before⟩, _⟩ := valid.bound turnId epochId isBound
    obtain ⟨_, kept, ⟨session, _, input, kind⟩, _⟩ := move.turn_kept before
    cases stored.symm.trans kept
    rw [kind] at canonical
    rw [session]
    obtain ⟨entry, consumed, _⟩ := order.consumes _ _ before canonical
    refine valid.last turnId turn epochId before canonical isBound fun otherId other known ofSession kindOther after => ?_
    obtain ⟨other', knownLater, ⟨sessionOther, _, inputOther, kindLater⟩, _⟩ := move.turn_kept known
    obtain ⟨entryOther, consumedOther, _⟩ := order.consumes _ _ known kindOther
    exact nothingLater otherId other' knownLater (by rw [sessionOther, ofSession, session]) (kindLater.trans kindOther)
      ((move.precedes_iff ⟨_, consumed⟩ ⟨_, consumedOther⟩ input inputOther).mpr after)
  · intro firstId secondId first' second' pair epochId epochId' identity compiled compiled'
    obtain ⟨⟨first, before⟩, _⟩ := valid.bound _ _ compiled.1
    obtain ⟨⟨second, before'⟩, _⟩ := valid.bound _ _ compiled'.1
    exact valid.shared _ _ first second (pair.before order move before before') _ _ _ compiled compiled'

theorem ContextStore.loadedEpoch_unbound {s : ContextStore} {turnId : TurnId} {turn : Turn}
    (unbound : s.turnEpoch.get turnId = none) (canonical : turn.kind = .canonical) :
    s.loadedEpoch turnId turn = s.currentEpoch.get turn.sessionId := by
  simp [loadedEpoch, unbound, canonical]

theorem EpochsValid.loaded {s : ContextStore} {turnId turn} (valid : EpochsValid s) (turns : TurnsValid s.core)
    (driven : Driven s.core runId turnId turn) (pointed : snapshot.contextEpoch.map Prod.fst = s.loadedEpoch turnId turn)
    (read : ∀ epochId epoch, snapshot.contextEpoch = some (epochId, epoch) → s.epochs.get epochId = some epoch) :
    EpochsValid { s with snapshots := s.snapshots.put runId snapshot } := by
  refine ⟨valid.bound, valid.pointed, ?_, ?_, ?_, valid.last, ?_⟩
  · intro otherId other epochId epoch stored same
    rcases Table.of_get_put stored with ⟨_, rfl⟩ | ⟨_, stored⟩
    · rw [read epochId epoch same]
      rfl
    · exact valid.read otherId other epochId epoch stored same
  · intro otherId other stored
    rcases Table.of_get_put stored with ⟨rfl, _⟩ | ⟨_, stored⟩
    · exact ⟨turnId, turn, driven.stored, driven.carried⟩
    · exact valid.carried otherId other stored
  · intro otherId other otherTurnId otherTurn stored found ofRun canonical active unbound
    rcases Table.of_get_put stored with ⟨rfl, rfl⟩ | ⟨_, stored⟩
    · obtain rfl := turns.unique _ _ _ _ found driven.stored (by rw [ofRun, driven.carried])
      cases driven.stored.symm.trans found
      exact pointed.trans (ContextStore.loadedEpoch_unbound unbound canonical)
    · exact valid.seen otherId other otherTurnId otherTurn stored found ofRun canonical active unbound
  · rintro firstId secondId first second ⟨found, found', home, canonical, precedes, between⟩
    exact valid.shared firstId secondId first second ⟨found, found', home, canonical, precedes, between⟩

/-- The active turn enters an epoch, which becomes the current one. It is the epoch that
the session was in, or has other identities. -/
structure Entered (s s' : ContextStore) (turnId : TurnId) (turn : Turn) (epochId : ContextEpochId) : Prop where
  turns : s'.core.turns = s.core.turns
  inbox : s'.core.inbox = s.core.inbox
  grown : ∀ otherId epoch, s.epochs.get otherId = some epoch →
    (s'.epochs.get otherId).map ContextEpoch.identity = some epoch.identity
  recorded : ∃ epoch, s'.epochs.get epochId = some epoch
  current : ∀ sessionId, s'.currentEpoch.get sessionId =
    if sessionId = turn.sessionId then some epochId else s.currentEpoch.get sessionId
  bound : s'.turnEpoch = s.turnEpoch.put turnId epochId
  snapshots : s'.snapshots = s.snapshots
  stored : s.core.turns.get turnId = some turn
  active : turn.status = .active
  canonical : turn.kind = .canonical
  unbound : s.turnEpoch.get turnId = none
  fair : ∀ otherId, s.currentEpoch.get turn.sessionId = some otherId →
    (s'.epochs.get otherId).map ContextEpoch.identity = (s'.epochs.get epochId).map ContextEpoch.identity →
      epochId = otherId

namespace Entered
variable {s s' : ContextStore} {turnId : TurnId} {turn : Turn} {epochId : ContextEpochId}
  (entered : Entered s s' turnId turn epochId)
include entered

theorem precedes_iff {second} :
    s'.core.Precedes first second ↔ s.core.Precedes first second := by
  unfold Store.Precedes
  rw [entered.inbox]

theorem bound_other {otherId} (different : otherId ≠ turnId) :
    s'.turnEpoch.get otherId = s.turnEpoch.get otherId := by
  rw [entered.bound, Table.get_put_ne _ _ different]

theorem precedes (last : ActiveTurnsLast s.core) {otherId other}
    (stored : s.core.turns.get otherId = some other) (home : other.sessionId = turn.sessionId)
    (canonical : other.kind = .canonical) (different : otherId ≠ turnId) : s.core.Precedes other turn :=
  last otherId turnId other turn stored entered.stored home canonical entered.canonical entered.active different

theorem alone (last : ActiveTurnsLast s.core) {otherId other}
    (stored : s.core.turns.get otherId = some other) (canonical : other.kind = .canonical)
    (active : other.status = .active) (different : otherId ≠ turnId) : other.sessionId ≠ turn.sessionId := by
  intro home
  exact (entered.precedes last stored home canonical different).asymm
    (last turnId otherId turn other entered.stored stored home.symm entered.canonical canonical active different.symm)

theorem compiledIn (valid : EpochsValid s) {otherId otherEpoch identity} (different : otherId ≠ turnId)
    (compiled : s'.CompiledIn otherId otherEpoch identity) : s.CompiledIn otherId otherEpoch identity := by
  obtain ⟨isBound, same⟩ := compiled
  rw [entered.bound_other different] at isBound
  obtain ⟨_, epoch, recorded⟩ := valid.bound _ _ isBound
  rw [entered.grown _ _ recorded] at same
  exact ⟨isBound, by rw [recorded]; exact same⟩

theorem follows (valid : EpochsValid s) (last : ActiveTurnsLast s.core) {firstId firstEpoch}
    (pair : s'.Consecutive firstId turnId first turn) (isBound : s.turnEpoch.get firstId = some firstEpoch) :
    s.currentEpoch.get turn.sessionId = some firstEpoch := by
  obtain ⟨found, _, home, ⟨canonical, _⟩, _, between⟩ := pair
  rw [entered.turns] at found between
  rw [← home]
  refine valid.last firstId first firstEpoch found canonical isBound fun otherId other known ofSession kind after => ?_
  by_cases same : otherId = turnId
  · rw [same, entered.unbound]
  · rw [← entered.bound_other same]
    exact between otherId other known (ofSession.trans home) kind (entered.precedes_iff.mpr after)
      (entered.precedes_iff.mpr (entered.precedes last known (ofSession.trans home) kind same))

theorem shared (valid : EpochsValid s) (last : ActiveTurnsLast s.core)
    {firstId secondId second} (pair : s'.Consecutive firstId secondId first second) {firstEpoch secondEpoch identity}
    (compiled : s'.CompiledIn firstId firstEpoch identity) (compiled' : s'.CompiledIn secondId secondEpoch identity) :
    secondEpoch = firstEpoch := by
  have stored := entered.stored
  rw [← entered.turns] at stored
  by_cases entering : secondId = turnId
  · subst entering
    obtain rfl : second = turn := Option.some.inj (pair.storedSecond.symm.trans stored)
    have different : firstId ≠ secondId := by
      rintro rfl
      obtain rfl : first = second := Option.some.inj (pair.storedFirst.symm.trans stored)
      exact pair.precedes.asymm pair.precedes
    have before := entered.compiledIn valid different compiled
    have same : secondEpoch = epochId := by
      have isBound := compiled'.1
      rw [entered.bound, Table.get_put_self] at isBound
      exact (Option.some.inj isBound).symm
    rw [same] at compiled' ⊢
    exact entered.fair firstEpoch (entered.follows valid last pair before.1) (compiled.2.trans compiled'.2.symm)
  · by_cases leading : firstId = turnId
    · subst leading
      obtain rfl : first = turn := Option.some.inj (pair.storedFirst.symm.trans stored)
      have found := pair.storedSecond
      rw [entered.turns] at found
      exact absurd (entered.precedes_iff.mp pair.precedes)
        (entered.precedes last found pair.home.symm pair.canonical.2 entering).asymm
    · obtain ⟨found, found', home, canonical, precedes, between⟩ := pair
      rw [entered.turns] at found found' between
      refine valid.shared firstId secondId first second ⟨found, found', home, canonical,
        entered.precedes_iff.mp precedes, fun otherId other known ofSession kind after before => ?_⟩ _ _ _
        (entered.compiledIn valid leading compiled) (entered.compiledIn valid entering compiled')
      by_cases same : otherId = turnId
      · rw [same, entered.unbound]
      · rw [← entered.bound_other same]
        exact between otherId other known ofSession kind (entered.precedes_iff.mpr after)
          (entered.precedes_iff.mpr before)

theorem valid (valid : EpochsValid s) (last : ActiveTurnsLast s.core) : EpochsValid s' := by
  constructor
  · intro otherId otherEpoch isBound
    rw [entered.turns]
    rw [entered.bound] at isBound
    rcases Table.of_get_put isBound with ⟨rfl, rfl⟩ | ⟨_, isBound⟩
    · exact ⟨⟨turn, entered.stored⟩, entered.recorded⟩
    · obtain ⟨stored, epoch, recorded⟩ := valid.bound _ _ isBound
      obtain ⟨epoch', recorded', _⟩ := Option.map_eq_some_iff.mp (entered.grown _ _ recorded)
      exact ⟨stored, epoch', recorded'⟩
  · intro sessionId otherEpoch pointed
    rw [entered.current] at pointed
    split at pointed
    next => cases pointed; exact entered.recorded
    next =>
      obtain ⟨epoch, recorded⟩ := valid.pointed _ _ pointed
      obtain ⟨epoch', recorded', _⟩ := Option.map_eq_some_iff.mp (entered.grown _ _ recorded)
      exact ⟨epoch', recorded'⟩
  · intro runId snapshot otherEpoch epoch loaded same
    rw [entered.snapshots] at loaded
    obtain ⟨epoch', recorded, identity⟩ := Option.map_eq_some_iff.mp (valid.read _ _ _ _ loaded same)
    rw [entered.grown _ _ recorded, identity]
  · rw [entered.snapshots, entered.turns]
    exact valid.carried
  · intro runId snapshot otherId other loaded stored ofRun canonical active unbound
    rw [entered.snapshots] at loaded
    rw [entered.turns] at stored
    have different : otherId ≠ turnId := by
      rintro rfl
      rw [entered.bound, Table.get_put_self] at unbound
      cases unbound
    rw [entered.bound_other different] at unbound
    rw [entered.current, if_neg (entered.alone last stored canonical active different)]
    exact valid.seen runId snapshot otherId other loaded stored ofRun canonical active unbound
  · intro otherId other otherEpoch stored canonical isBound nothingLater
    have found := stored
    rw [entered.turns] at found
    rw [entered.current]
    by_cases same : otherId = turnId
    · subst same
      obtain rfl : other = turn := Option.some.inj (found.symm.trans entered.stored)
      rw [if_pos rfl, ← isBound, entered.bound, Table.get_put_self]
    · have elsewhere : other.sessionId ≠ turn.sessionId := by
        intro home
        have later := nothingLater turnId turn (by rw [entered.turns, entered.stored]) home.symm entered.canonical
          (entered.precedes_iff.mpr (entered.precedes last found home canonical same))
        rw [entered.bound, Table.get_put_self] at later
        cases later
      rw [if_neg elsewhere]
      rw [entered.bound_other same] at isBound
      refine valid.last otherId other otherEpoch found canonical isBound fun thirdId third known ofSession kind after => ?_
      have different : thirdId ≠ turnId := by
        rintro rfl
        obtain rfl : third = turn := Option.some.inj (known.symm.trans entered.stored)
        exact elsewhere ofSession.symm
      rw [← entered.bound_other different]
      exact nothingLater thirdId third (by rw [entered.turns, known]) ofSession kind (entered.precedes_iff.mpr after)
  · exact fun firstId secondId first second pair _ _ _ => entered.shared valid last pair

end Entered

theorem identity_kept_put {epochs retired : Table ContextEpochId ContextEpoch} {epochId}
    (epoch) (fresh : retired.get epochId = none)
    (kept : ∀ otherId, (retired.get otherId).map ContextEpoch.identity = (epochs.get otherId).map ContextEpoch.identity)
    (otherId other) (recorded : epochs.get otherId = some other) :
    ((retired.put epochId epoch).get otherId).map ContextEpoch.identity = some other.identity := by
  have same := kept otherId
  rw [recorded] at same
  have different : otherId ≠ epochId := by
    rintro rfl
    rw [fresh] at same
    cases same
  rw [Table.get_put_ne _ _ different]
  exact same

theorem EpochsValid.step {s s'} (valid : EpochsValid s) (conversation : ConversationValid s.core)
    (turns : TurnsValid s.core) (move : EpochMove s s') : EpochsValid s' := by
  cases move with
  | quiet move => exact valid.quiet conversation.order move
  | loaded driven pointed read => exact valid.loaded turns driven pointed read
  | @opened _ runId turnId turn snapshot epochId epoch _ frame driven canonical loaded stale unbound fresh kept =>
    have grown := identity_kept_put epoch fresh kept
    refine Entered.valid ⟨frame.turns, frame.inbox, grown, ⟨epoch, Table.get_put_self ..⟩, fun _ => Table.get_put .., rfl,
      rfl, driven.stored, driven.active, canonical, unbound, ?_⟩ valid conversation.last
    -- the run has read the epoch that the session is in, and found it stale
    intro otherId pointed same
    have seen := valid.seen runId snapshot turnId turn loaded driven.stored driven.carried canonical driven.active unbound
    rw [pointed] at seen
    obtain ⟨⟨_, other⟩, row, rfl⟩ := Option.map_eq_some_iff.mp seen
    obtain ⟨recorded, found, identity⟩ := Option.map_eq_some_iff.mp (valid.read runId snapshot _ other loaded row)
    rw [grown _ recorded found, identity, Table.get_put_self] at same
    simp only [EpochSnapshot.isStale, row, Option.all_some, decide_eq_true_eq] at stale
    exact absurd (Option.some.inj same) stale
  | joined frame driven canonical unbound pointed =>
    refine Entered.valid ⟨frame.turns, frame.inbox, fun _ _ recorded => congrArg _ recorded, valid.pointed _ _ pointed,
      fun sessionId => ?_, rfl, rfl, driven.stored, driven.active, canonical, unbound,
      fun _ same _ => Option.some.inj (pointed.symm.trans same)⟩ valid conversation.last
    split
    next same => rw [same, pointed]
    next => rfl

/-! ### Every run -/

theorem ContextOperation.core_step {op : ContextOperation} {s s' : ContextStore}
    (ok : op.exec sha256 s = .ok s') : s'.core = s.core ∨ ∃ step : Operation, step.exec s.core = .ok s'.core := by
  cases op with
  | store op other =>
    simp only [exec, eq_ok] at ok
    obtain ⟨core, step, rfl⟩ := ok
    exact .inr ⟨op, step⟩
  | loadAgentRun fence observedAt =>
    simp only [exec, Mealy.loadAgentRun, eq_ok] at ok
    obtain ⟨_, _, _, _, rfl⟩ := ok
    exact .inl rfl
  | prepareNextModel commit compiled =>
    simp only [exec, Mealy.prepareNextModel, eq_ok] at ok
    obtain ⟨_, _, _, _, _, _, core, step, rfl⟩ := ok
    exact .inr ⟨_, step⟩

theorem ContextStore.core_reached {s : ContextStore}
    (reached : (contextSystem sha256).Reachable s) : s.core.Reachable := by
  induction reached with
  | initial => exact .initial
  | step _ _ step before =>
    rcases ContextOperation.core_step step with same | ⟨_, stepped⟩
    · rw [same]
      exact before
    · exact .step before trivial stepped

def ContextStore.UndelegatedReachable (sha256 : String → String) (s : ContextStore) : Prop :=
  (contextSystem sha256).ReachableIf (fun op s => op.compilesDelegate s = false) s

theorem epochs_valid {s : ContextStore} (reached : s.UndelegatedReachable sha256) :
    EpochsValid s := by
  have start : EpochsValid (contextSystem sha256).initial := by
    constructor <;> simp [contextSystem, ContextStore.CompiledIn]
  exact System.ReachableIf.invariant_with (fun _ => ContextStore.core_reached) start
    (fun _ _ _ before valid allowed step => valid.step (conversation_valid before) (workGraph before).turns
      (ContextOperation.epoch_move allowed step)) reached

theorem prepareNextModel_compiles {commit compiled s s'} (valid : EpochsValid s)
    (ok : prepareNextModel sha256 commit compiled s = .ok s') :
    ∃ turnId turn epochId, s.core.turnOfRun commit.fence.runId = some (turnId, turn) ∧
      s'.CompiledIn turnId epochId compiled.identity := by
  simp only [prepareNextModel, eq_ok] at ok
  obtain ⟨snapshot, loaded, owner, owned, entered, enters, core, step, rfl⟩ := ok
  obtain ⟨_, _, _, _, _, carried, _⟩ := Store.loadFencedOwner_ok.mp owned
  unfold enterEpoch at enters
  split at enters
  next =>
    simp only [insertContextEpoch, eq_ok] at enters
    obtain ⟨_, _, _, _, _, _, retired, _, _, _, _, _, rfl⟩ := enters
    exact ⟨_, _, compiled.epochId, carried, Table.get_put_self .., by simp⟩
  next current =>
    split at enters
    next epochId epoch row =>
      have identity : epoch.identity = compiled.identity := by simpa [EpochSnapshot.isStale, row] using current
      have recorded := valid.read _ _ _ _ loaded row
      rw [identity] at recorded
      unfold bindLoadedEpoch at enters
      split at enters
      next bound isBound =>
        simp only [eq_ok] at enters
        obtain ⟨_, rfl, rfl⟩ := enters
        exact ⟨_, _, bound, carried, isBound, recorded⟩
      next =>
        simp only [eq_ok] at enters
        obtain ⟨_, _, rfl⟩ := enters
        exact ⟨_, _, epochId, carried, Table.get_put_self .., recorded⟩
    next => cases enters

/-- While no delegated turn compiles a context, consecutive turns with the same identities
share their epoch, and a prepared attempt runs in an epoch with its own identities. -/
theorem context_continuity {sha256 : String → String} {s : ContextStore} (reached : s.UndelegatedReachable sha256) :
    ContextContinuity s ∧ ∀ commit compiled s',
      (contextSystem sha256).exec (.prepareNextModel commit compiled) s = .ok s' →
        ∃ turnId turn epochId, s.core.turnOfRun commit.fence.runId = some (turnId, turn) ∧
          s'.CompiledIn turnId epochId compiled.identity := by
  have valid := epochs_valid reached
  have last := (conversation_valid (ContextStore.core_reached reached.reachable)).last
  refine ⟨⟨?_, ?_⟩, fun _ _ _ committed => prepareNextModel_compiles valid committed⟩
  · intro firstId secondId first second pair epochId epochId' identity compiled compiled'
    obtain rfl := valid.shared firstId secondId first second pair _ _ _ compiled compiled'
    exact ⟨rfl, by simp [ContextStore.historyEpoch, compiled'.1]⟩
  · intro firstId secondId first second pair epochId isBound unbound active
    rw [ContextStore.historyEpoch, unbound, Option.none_or, ← pair.home]
    refine valid.last firstId first epochId pair.storedFirst pair.canonical.1 isBound fun otherId other known ofSession
      canonical after => ?_
    by_cases same : otherId = secondId
    · rw [same, unbound]
    · exact pair.between otherId other known (ofSession.trans pair.home) canonical after
        (last otherId secondId other second known pair.storedSecond (ofSession.trans pair.home) canonical
          pair.canonical.2 active same)

/-! ### A conversation of two turns -/

def sampleDigest (text : String) : String := text.append (String.ofList (List.replicate (64 - text.length) '0'))

def sampleContext (runId : RunId) : CompiledContext :=
  let baseline := if runId = ⟨1⟩ then "delegate" else "assistant"
  { identity := ⟨baseline, sampleDigest baseline, sampleDigest "config", sampleDigest "policy", "workspace"⟩,
    baselineText := baseline, epochId := ⟨runId.id⟩, createdAt := 20 }

def compiling (op : Operation) : List ContextOperation :=
  if other : op.preparesModel = false then [.store op other]
  else match op with
    | .prepareModelAttempt commit =>
      [.loadAgentRun commit.fence commit.preparedAt, .prepareNextModel commit (sampleContext commit.fence.runId)]
    | _ => []

def answeredTurn : List Operation :=
  claimedRun ++
  [.prepareModelAttempt ⟨sampleFence, ⟨0⟩, 1, [⟨0⟩], sampleLimits, 10, 10, 10, 100, 20, 20, 5000⟩,
   .dispatchModelAttempt ⟨sampleFence, ⟨0⟩, 100, 21⟩,
   .recordModelResult ⟨sampleFence, ⟨0⟩, .final "done", ⟨1, 1, 1⟩, 10, 22⟩,
   .completeRun ⟨sampleFence, .succeeded, "done", some ⟨⟨0⟩, "done"⟩, 40⟩]

def returnedFence : LeaseFence := ⟨⟨2⟩, ⟨0⟩, ⟨0⟩, 3⟩

/-- The first turn asks a delegate, which fails, and then answers. -/
def delegatingTurn : List Operation :=
  claimedChild ++
  [.prepareModelAttempt ⟨sampleChildFence, ⟨1⟩, 1, [⟨1⟩], sampleLimits, 10, 10, 10, 100, 26, 26, 5000⟩,
   .completeRun sampleChildFailure,
   .claimNext ⟨⟨2⟩, ⟨0⟩, 31, 100000, ⟨5, 5, 5⟩⟩,
   .prepareModelAttempt ⟨returnedFence, ⟨2⟩, 2, [⟨0⟩], sampleLimits, 10, 10, 10, 100, 32, 32, 5000⟩,
   .dispatchModelAttempt ⟨returnedFence, ⟨2⟩, 100, 33⟩,
   .recordModelResult ⟨returnedFence, ⟨2⟩, .final "done", ⟨1, 1, 1⟩, 10, 34⟩,
   .completeRun ⟨returnedFence, .succeeded, "done", some ⟨⟨2⟩, "done"⟩, 40⟩]

def nextTurn : List Operation :=
  [.admitInput ⟨⟨0⟩, sampleOwner, ⟨2⟩, "second", .queue, "again", 50⟩,
   .promoteNext ⟨⟨0⟩, sampleOwner, ⟨2⟩, ⟨2⟩, ⟨2⟩, .named "assistant", false, 51⟩,
   .claimNext ⟨⟨3⟩, ⟨0⟩, 52, 100000, ⟨5, 5, 5⟩⟩,
   .prepareModelAttempt ⟨⟨⟨3⟩, ⟨2⟩, ⟨0⟩, 1⟩, ⟨3⟩, 1, [⟨2⟩], sampleLimits, 10, 10, 10, 100, 53, 53, 5000⟩]

def ContextStore.twoTurns (s : ContextStore) : Bool :=
  (s.core.turns.get ⟨0⟩).any (fun first => first.kind = .canonical ∧ first.status = .completed ∧
    (s.core.turns.get ⟨2⟩).any fun second => second.kind = .canonical ∧ first.sessionId = second.sessionId ∧
      (s.core.inbox.get first.inboxEntryId).any fun entry =>
        (s.core.inbox.get second.inboxEntryId).any fun entry' => entry.sequence < entry'.sequence) ∧
  s.core.turns.any (fun turnId turn => turn.kind = .canonical ∧ turnId ≠ ⟨0⟩ ∧ turnId ≠ ⟨2⟩) = false

theorem ContextStore.twoTurns_consecutive {s : ContextStore} (two : s.twoTurns = true) :
    ∃ first second, s.Consecutive ⟨0⟩ ⟨2⟩ first second ∧ first.status = .completed := by
  simp only [twoTurns, Option.any_eq_true, decide_eq_true_eq, Bool.decide_and, Bool.and_eq_true] at two
  obtain ⟨⟨first, found, canonical, completed, second, found', canonical', home, entry, input, entry', input', smaller⟩,
    only⟩ := two
  have precedes : s.core.Precedes first second := ⟨entry, entry', input, input', smaller⟩
  refine ⟨first, second, ⟨found, found', home, ⟨canonical, canonical'⟩, precedes, ?_⟩, completed⟩
  intro otherId other known ofSession kind after before
  have named : otherId = ⟨0⟩ ∨ otherId = ⟨2⟩ := by
    have none := (Table.any_eq_false ..).mp only otherId other known
    simp [kind] at none
    exact or_iff_not_imp_left.mpr none
  rcases named with rfl | rfl
  · obtain rfl : first = other := Option.some.inj (found.symm.trans known)
    exact absurd after after.asymm
  · obtain rfl : second = other := Option.some.inj (found'.symm.trans known)
    exact absurd before before.asymm

def ContextStore.sameIdentity (s : ContextStore) : Bool :=
  (s.turnEpoch.get ⟨0⟩).any fun epochId => (s.turnEpoch.get ⟨2⟩).any fun epochId' =>
    (s.epochs.get epochId).any fun epoch => (s.epochs.get epochId').any fun epoch' => epoch.identity = epoch'.identity

theorem ContextStore.sameIdentity_compiled {s : ContextStore} (same : s.sameIdentity = true) :
    ∃ epochId epochId' identity, s.CompiledIn ⟨0⟩ epochId identity ∧ s.CompiledIn ⟨2⟩ epochId' identity := by
  simp only [sameIdentity, Option.any_eq_true, decide_eq_true_eq] at same
  obtain ⟨epochId, bound, epochId', bound', epoch, recorded, epoch', recorded', identity⟩ := same
  exact ⟨epochId, epochId', epoch.identity, ⟨bound, by rw [recorded]; rfl⟩,
    ⟨bound', by rw [recorded', identity]; rfl⟩⟩

theorem context_continuity_answered :
    ∃ (s : ContextStore) (first second : Turn) (epochId : ContextEpochId),
      s.UndelegatedReachable sampleDigest ∧ s.Consecutive ⟨0⟩ ⟨2⟩ first second ∧ first.status = .completed ∧
      s.turnEpoch.get ⟨0⟩ = some epochId ∧ s.turnEpoch.get ⟨2⟩ = some epochId := by
  obtain ⟨s, reached, two, same⟩ : ∃ s : ContextStore, s.UndelegatedReachable sampleDigest ∧
      s.twoTurns = true ∧ s.sameIdentity = true :=
    System.exists_reachableIf ((answeredTurn ++ nextTurn).flatMap compiling) (by decide +kernel)
  obtain ⟨first, second, pair, completed⟩ := ContextStore.twoTurns_consecutive two
  obtain ⟨epochId, epochId', identity, compiled, compiled'⟩ := ContextStore.sameIdentity_compiled same
  obtain ⟨rfl, _⟩ := (context_continuity reached).1.shared _ _ _ _ pair _ _ _ compiled compiled'
  exact ⟨s, first, second, _, reached, pair, completed, compiled.1, compiled'.1⟩

/-- A turn that delegates leaves the session in the epoch of its child: the next turn is
compiled from the identities of the first, runs in another epoch and has lost the first
turn as history. -/
theorem delegation_rotates_context :
    ∃ (s : ContextStore) (first second : Turn) (epochId epochId' : ContextEpochId) (identity : ContextIdentity),
      (contextSystem sampleDigest).Reachable s ∧ s.Consecutive ⟨0⟩ ⟨2⟩ first second ∧ first.status = .completed ∧
      s.CompiledIn ⟨0⟩ epochId identity ∧ s.CompiledIn ⟨2⟩ epochId' identity ∧ epochId' ≠ epochId ∧
      s.historyEpoch ⟨2⟩ second ≠ some epochId := by
  obtain ⟨s, reached, two, same, apart⟩ : ∃ s : ContextStore, (contextSystem sampleDigest).Reachable s ∧
      s.twoTurns = true ∧ s.sameIdentity = true ∧ s.turnEpoch.get ⟨0⟩ ≠ s.turnEpoch.get ⟨2⟩ :=
    System.exists_reachableIf ((delegatingTurn ++ nextTurn).flatMap compiling) (by decide +kernel)
  obtain ⟨first, second, pair, completed⟩ := ContextStore.twoTurns_consecutive two
  obtain ⟨epochId, epochId', identity, compiled, compiled'⟩ := ContextStore.sameIdentity_compiled same
  have different : epochId' ≠ epochId := by
    rintro rfl
    exact apart (compiled.1.trans compiled'.1.symm)
  refine ⟨s, first, second, epochId, epochId', identity, reached, pair, completed, compiled, compiled', different, ?_⟩
  simpa [ContextStore.historyEpoch, compiled'.1] using different

end Mealy
