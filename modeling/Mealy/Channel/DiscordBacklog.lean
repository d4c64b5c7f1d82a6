import Mealy.Store.Adapters

/-! The backlog of a Discord channel (`main.rs`). A full page is followed by requests for the
messages before it, until one reaches the floor. What is below the last bound and above the
floor has still to be fetched, whatever the channel gains and loses between the requests. -/

namespace Mealy.Channels
open Transaction

inductive DiscordFetchError where
  | credentialUnavailable | credential | credentialMismatch | transport | unauthorized | forbidden | notFound
  | rateLimited (delay : Nat)
  | server | http | oversized | malformed | backlogExceeded

inductive DiscordQuery where
  | latest
  | after (id : Snowflake)
  | before (id : Snowflake)

/-- A message of a checked page, with what `discord_message_id` finds in it. -/
structure DiscordMessage where
  value : Json.Value
  id : Snowflake
  identified : (discordRawId value).bind Snowflake.ofString = some id

def discordMessageId (value : Json.Value) : Except DiscordFetchError DiscordMessage :=
  match identified : (discordRawId value).bind Snowflake.ofString with
  | some id => .ok { value, id, identified }
  | none => .error .malformed

structure DiscordPollTarget where
  tokenDigest : String
  discordChannelId : String
  afterMessageId : Option Snowflake

structure FetchedDiscordBatch where
  messages : List DiscordMessage
  nextPollAfter : Nat

/-- The credential store, the hash function, the check of a token, the digest of a message
and the answer of the REST interface to each request, decoded, with its delay. -/
structure DiscordLibrary where
  readCredential : Except DiscordFetchError String
  sha256 : String → String
  validToken : String → Bool
  canonicalDigest : Json.Value → String
  answer : Nat → DiscordQuery → Except DiscordFetchError (List Json.Value × Nat)

def minimumDiscordMessageId : List DiscordMessage → Except DiscordFetchError Snowflake
  | [] => .error .malformed
  | first :: rest => .ok (rest.foldl (fun least message =>
      if discordSnowflakePrecedes least.text message.id.text then least else message.id) first.id)

section
variable (library : DiscordLibrary) (target : DiscordPollTarget)

def fetchDiscordPage (request : Nat) (query : DiscordQuery) : Except DiscordFetchError (List DiscordMessage × Nat) := do
  let (values, nextPollAfter) ← library.answer request query
  ensure (values.length ≤ 100) .malformed
  let messages ← values.mapM fun value => do
    let message ← discordMessageId value
    ensure ((value.field "channel_id").bind Json.Value.asString = some target.discordChannelId) .malformed
    pure message
  pure (messages, nextPollAfter)

def DiscordMessage.isAbove (floor : Snowflake) (message : DiscordMessage) : Bool :=
  !discordSnowflakePrecedes message.id.text floor.text

def walkPage (floor before : Snowflake) (messages : List DiscordMessage) (page : List DiscordMessage) :
    Except DiscordFetchError (List DiscordMessage × Option Snowflake) := do
  let relevant := page.filter (·.isAbove floor)
  let crossedFloor := page.any fun message => !message.isAbove floor
  if relevant.isEmpty then pure (messages, none)
  else
    let nextBefore ← minimumDiscordMessageId relevant
    ensure (!discordSnowflakePrecedes before.text nextBefore.text) .malformed
    let messages := messages ++ relevant
    ensure (messages.length ≤ 10000 ∧ (Json.Value.array (messages.map DiscordMessage.value)).size ≤ 16 * 1024 * 1024)
      .backlogExceeded
    pure (messages, if crossedFloor ∨ page.length ≠ 100 then none else some nextBefore)

theorem walkPage_grows {floor before messages page messages' next}
    (walked : walkPage floor before messages page = .ok (messages', some next)) :
    messages.length < messages'.length ∧ messages'.length ≤ 10000 := by
  simp only [walkPage] at walked
  split at walked
  next => cases walked
  next some_ =>
    simp only [eq_ok, Prod.mk.injEq] at walked
    obtain ⟨_, _, _, _, _, ⟨fits, _⟩, rfl, _⟩ := walked
    have positive := List.length_pos_iff.mpr fun none => some_ (List.isEmpty_iff.mpr none)
    simp only [List.length_append] at fits ⊢
    omega

def walkBack (floor : Snowflake) (request : Nat) (messages : List DiscordMessage) (nextPollAfter : Nat) (before : Snowflake) :
    List Snowflake × Except DiscordFetchError (List DiscordMessage × Nat) :=
  match fetchDiscordPage library target request (.before before) with
  | .error error => ([before], .error error)
  | .ok (page, pageDelay) =>
    match walked : walkPage floor before messages page with
    | .error error => ([before], .error error)
    | .ok (messages', none) => ([before], .ok (messages', max nextPollAfter pageDelay))
    | .ok (messages', some nextBefore) =>
      let rest := walkBack floor (request + 1) messages' (max nextPollAfter pageDelay) nextBefore
      (before :: rest.1, rest.2)
termination_by 10000 - messages.length
decreasing_by
  have grows := walkPage_grows walked
  omega

def finishBatch (messages : List DiscordMessage) (nextPollAfter : Nat) : Except DiscordFetchError FetchedDiscordBatch := do
  let messages := messages.insertionSort fun left right => discordSnowflakePrecedes left.id.text right.id.text
  ensure (messages.IsChain fun left right =>
    left.id = right.id → library.canonicalDigest left.value = library.canonicalDigest right.value) .malformed
  pure { messages := messages.destutter fun left right => left.id ≠ right.id, nextPollAfter }

def checkCredential : Except DiscordFetchError Unit := do
  let token ← library.readCredential
  ensure (library.sha256 token = target.tokenDigest ∧ library.validToken token) .credentialMismatch

def firstQuery (target : DiscordPollTarget) : DiscordQuery := target.afterMessageId.elim .latest .after

/-- `fetch_discord_messages`, with the bounds of the requests that follow the first one. -/
def fetchDiscordMessages : List Snowflake × Except DiscordFetchError FetchedDiscordBatch :=
  match checkCredential library target, fetchDiscordPage library target 0 (firstQuery target) with
  | .error error, _ | .ok _, .error error => ([], .error error)
  | .ok _, .ok (messages, nextPollAfter) =>
    if messages.length = 100 then
      match target.afterMessageId, minimumDiscordMessageId messages with
      | none, _ => ([], .error .backlogExceeded)
      | some _, .error error => ([], .error error)
      | some floor, .ok before =>
        let walk := walkBack library target floor 1 messages nextPollAfter before
        (walk.1, walk.2 >>= fun (messages, nextPollAfter) => finishBatch library messages nextPollAfter)
    else ([], finishBatch library messages nextPollAfter)

end

/-! ### The channel -/

def DiscordQuery.selects : DiscordQuery → Nat → Prop
  | latest, _ => True
  | after floor, id => floor.value < id
  | before bound, id => id < bound.value

def DiscordMessage.number (message : DiscordMessage) : Nat := message.id.value

/-- The at most hundred largest numbers of the channel that the query selects. -/
structure IsPage (query : DiscordQuery) (channel : Finset Nat) (page : List DiscordMessage) : Prop where
  distinct : (page.map DiscordMessage.number).Nodup
  selected : ∀ message ∈ page, message.number ∈ channel ∧ query.selects message.number
  largest : ∀ number ∈ channel, query.selects number → (∃ message ∈ page, message.number = number) ∨
    page.length = 100 ∧ ∀ message ∈ page, number < message.number

/-- Each page that is accepted shows the channel as it is at its request. -/
def Answers (library : DiscordLibrary) (target : DiscordPollTarget) (channel : Nat → Finset Nat) : Prop :=
  ∀ request query page delay, fetchDiscordPage library target request query = .ok (page, delay) →
    IsPage query (channel request) page

/-- After the requests up to `last`: what stood in the channel at all of them and is neither
below the floor nor below the bound `lower` has been fetched. -/
structure Covered (channel : Nat → Finset Nat) (floor last lower : Nat) (messages : List DiscordMessage) : Prop where
  distinct : (messages.map DiscordMessage.number).Nodup
  above : ∀ message ∈ messages, floor ≤ message.number ∧ lower ≤ message.number
  complete : ∀ number, (∀ request ≤ last, number ∈ channel request) → floor ≤ number →
    number < lower ∨ ∃ message ∈ messages, message.number = number

theorem minimum_ok {messages least} (found : minimumDiscordMessageId messages = .ok least) :
    (∃ message ∈ messages, message.id = least) ∧ ∀ message ∈ messages, least.value ≤ message.number := by
  cases messages with
  | nil => cases found
  | cons first rest =>
    have folded : ∀ start : Snowflake, let least := rest.foldl (fun least message =>
        if discordSnowflakePrecedes least.text message.id.text then least else message.id) start
        (least = start ∨ ∃ message ∈ rest, message.id = least) ∧ least.value ≤ start.value ∧
          ∀ message ∈ rest, least.value ≤ message.number := by
      clear found
      induction rest with
      | nil => simp
      | cons second rest ih =>
        intro start
        have order := Snowflake.precedes_iff start second.id
        simp only [List.foldl_cons, List.mem_cons, forall_eq_or_imp, exists_eq_or_imp]
        split
        next before => grind [DiscordMessage.number]
        next behind => grind [DiscordMessage.number]
    cases found
    obtain ⟨chosen, start, others⟩ := folded first.id
    refine ⟨?_, List.forall_mem_cons.mpr ⟨start, others⟩⟩
    rcases chosen with same | ⟨message, member, same⟩
    · exact ⟨first, List.mem_cons_self, same.symm⟩
    · exact ⟨message, List.mem_cons_of_mem _ member, same⟩

theorem isAbove_iff {floor : Snowflake} {message : DiscordMessage} : message.isAbove floor = true ↔ floor.value < message.number := by
  rw [DiscordMessage.isAbove, Bool.not_eq_true', ← Bool.not_eq_true, Snowflake.precedes_iff, not_le]
  rfl

theorem walkPage_ok {floor before messages page messages' next}
    (walked : walkPage floor before messages page = .ok (messages', next)) :
    messages' = messages ++ page.filter (·.isAbove floor) ∧
      (next = none ∧ (page.length ≠ 100 ∨ ∃ message ∈ page, message.number ≤ floor.value) ∨
        ∃ lowest ∈ page, next = some lowest.id ∧ ∀ message ∈ page, lowest.number ≤ message.number) := by
  simp only [walkPage] at walked
  split at walked
  next empty =>
    have none := List.isEmpty_iff.mp empty
    cases walked
    refine ⟨by rw [none, List.append_nil], .inl ⟨rfl, ?_⟩⟩
    cases page with
    | nil => exact .inl (by simp)
    | cons first rest =>
      refine .inr ⟨first, List.mem_cons_self, not_lt.mp fun above => ?_⟩
      exact List.filter_eq_nil_iff.mp none first List.mem_cons_self (isAbove_iff.mpr above)
  next =>
    simp only [eq_ok, Prod.mk.injEq] at walked
    obtain ⟨nextBefore, least, _, _, _, _, rfl, rfl⟩ := walked
    obtain ⟨⟨lowest, listed, rfl⟩, minimal⟩ := minimum_ok least
    refine ⟨rfl, ?_⟩
    split
    next ended =>
      refine .inl ⟨rfl, ended.symm.imp_right fun crossed => ?_⟩
      obtain ⟨message, member, below⟩ := List.any_eq_true.mp crossed
      exact ⟨message, member, not_lt.mp fun above => by simp [isAbove_iff.mpr above] at below⟩
    next more =>
      have all : ∀ message ∈ page, message.isAbove floor = true := by simpa using (not_or.mp more).1
      exact .inr ⟨lowest, (List.mem_filter.mp listed).1, rfl,
        fun message member => minimal message (List.mem_filter.mpr ⟨member, all message member⟩)⟩

theorem walkPage_covered {channel : Nat → Finset Nat} {floor before : Snowflake} {last : Nat} {messages page messages' next}
    (covered : Covered channel (floor.value + 1) last before.value messages)
    (shown : IsPage (.before before) (channel (last + 1)) page)
    (walked : walkPage floor before messages page = .ok (messages', next)) :
    Covered channel (floor.value + 1) (last + 1) (next.elim (floor.value + 1) Snowflake.value) messages' ∧
      ∀ id ∈ next, id.value < before.value := by
  obtain ⟨rfl, ends⟩ := walkPage_ok walked
  have falls : ∀ id ∈ next, id.value < before.value := by
    intro id held
    obtain ⟨rfl, _⟩ | ⟨lowest, listed, rfl, _⟩ := ends
    · cases held
    · cases held
      exact (shown.selected lowest listed).2
  refine ⟨⟨?_, fun message member => ?_, fun number stood reached => ?_⟩, falls⟩
  · rw [List.map_append]
    refine List.nodup_append'.mpr ⟨covered.distinct, shown.distinct.sublist (List.filter_sublist.map _), ?_⟩
    intro number first second
    obtain ⟨message, member, rfl⟩ := List.mem_map.mp first
    obtain ⟨other, chosen, same⟩ := List.mem_map.mp second
    have far := (covered.above message member).2
    have near : other.number < before.value := (shown.selected other (List.mem_filter.mp chosen).1).2
    omega
  · have floors : floor.value + 1 ≤ message.number := by
      rcases List.mem_append.mp member with old | new
      · exact (covered.above message old).1
      · exact isAbove_iff.mp (List.mem_filter.mp new).2
    refine ⟨floors, ?_⟩
    obtain ⟨rfl, _⟩ | ⟨lowest, listed, rfl, minimal⟩ := ends
    · exact floors
    · rcases List.mem_append.mp member with old | new
      · exact (falls _ rfl).le.trans (covered.above message old).2
      · exact minimal message (List.mem_filter.mp new).1
  · rcases covered.complete number (fun request early => stood request (by omega)) reached with
      below | ⟨message, member, same⟩
    · rcases shown.largest number (stood (last + 1) le_rfl) below with ⟨message, member, rfl⟩ | ⟨full, greater⟩
      · exact .inr ⟨message, List.mem_append_right _ (List.mem_filter.mpr ⟨member, isAbove_iff.mpr reached⟩), rfl⟩
      · obtain ⟨rfl, short | ⟨message, member, under⟩⟩ | ⟨lowest, listed, rfl, _⟩ := ends
        · exact absurd full short
        · have := greater message member
          omega
        · exact .inl (greater lowest listed)
    · exact .inr ⟨message, List.mem_append_left _ member, same⟩

/-- The bounds of a walk fall, and it makes no more requests than messages fit. -/
structure WalksDown (before : Snowflake) (messages : List DiscordMessage) (bounds : List Snowflake) : Prop where
  falling : bounds.Pairwise fun earlier later => later.value < earlier.value
  below : ∀ bound ∈ bounds, bound.value ≤ before.value
  finite : messages.length ≤ 10000 → bounds.length + messages.length ≤ 10001

theorem WalksDown.single (before) (messages) : WalksDown before messages [before] :=
  ⟨List.pairwise_singleton .., by simp, fun fits => by simp only [List.length_singleton]; omega⟩

section
variable {library : DiscordLibrary} {target : DiscordPollTarget} {channel : Nat → Finset Nat}

theorem walkBack_covered (answers : Answers library target channel) {floor before request messages delay}
    (covered : Covered channel (floor.value + 1) request before.value messages) :
    let walk := walkBack library target floor (request + 1) messages delay before
    WalksDown before messages walk.1 ∧ ∀ messages' delay', walk.2 = .ok (messages', delay') →
      Covered channel (floor.value + 1) (request + walk.1.length) (floor.value + 1) messages' := by
  generalize start : request + 1 = first
  fun_induction walkBack library target floor first messages delay before generalizing request with
  | case1 => exact ⟨.single .., fun _ _ failed => nomatch failed⟩
  | case2 => exact ⟨.single .., fun _ _ failed => nomatch failed⟩
  | case3 first messages delay before page pageDelay fetched messages' walked =>
    subst start
    refine ⟨.single .., fun _ _ ok => ?_⟩
    cases ok
    exact (walkPage_covered covered (answers _ _ _ _ fetched) walked).1
  | case4 first messages delay before page pageDelay fetched messages' next walked rest =>
    rename_i ih
    subst start
    obtain ⟨kept, falls⟩ := walkPage_covered covered (answers _ _ _ _ fetched) walked
    have grows := walkPage_grows walked
    obtain ⟨down, ends⟩ : WalksDown next messages' rest.1 ∧ ∀ messages' delay', rest.2 = .ok (messages', delay') →
        Covered channel (floor.value + 1) (request + 1 + rest.1.length) (floor.value + 1) messages' := ih kept rfl
    have lower := falls next rfl
    refine ⟨⟨List.pairwise_cons.mpr ⟨fun bound member => ?_, down.falling⟩, ?_, fun _ => ?_⟩, fun messages' delay' ok => ?_⟩
    · have := down.below bound member
      omega
    · intro bound member
      rcases List.mem_cons.mp member with rfl | later
      · exact le_rfl
      · have := down.below bound later
        omega
    · have := down.finite grows.2
      simp only [List.length_cons]
      omega
    · have done := ends messages' delay' ok
      rwa [Nat.add_right_comm] at done

theorem finishBatch_sorted {messages delay batch} (distinct : (messages.map DiscordMessage.number).Nodup)
    (finished : finishBatch library messages delay = .ok batch) :
    (batch.messages.map DiscordMessage.number).Pairwise (· < ·) ∧ ∀ message, message ∈ batch.messages ↔ message ∈ messages := by
  let precedes (left right : DiscordMessage) : Prop := discordSnowflakePrecedes left.id.text right.id.text = true
  have : Std.Total precedes := ⟨fun _ _ => Decimal.precedes_total ..⟩
  have : IsTrans DiscordMessage precedes := ⟨fun _ _ _ => Decimal.precedes_trans⟩
  have perm := List.perm_insertionSort precedes messages
  have sorted : ((messages.insertionSort precedes).map DiscordMessage.number).Pairwise (· < ·) := by
    have apart : ((messages.insertionSort precedes).map DiscordMessage.number).Nodup := (perm.map _).nodup_iff.mpr distinct
    have ordered := List.pairwise_insertionSort precedes messages
    rw [List.nodup_iff_pairwise_ne, List.pairwise_map] at apart
    exact List.pairwise_map.mpr (ordered.imp₂ (fun _ _ le ne => lt_of_le_of_ne ((Snowflake.precedes_iff ..).mp le) ne) apart)
  simp only [finishBatch, eq_ok] at finished
  obtain ⟨_, _, rfl⟩ := finished
  -- Distinct messages are not merged.
  have same := List.destutter_of_isChain (fun left right : DiscordMessage => left.id ≠ right.id) (messages.insertionSort precedes)
    (List.pairwise_map.mp sorted |>.imp fun less equal => by simp [DiscordMessage.number, equal] at less).isChain
  rw [same]
  exact ⟨sorted, fun message => perm.mem_iff⟩

/-- What a batch has to be when the requests up to `last` were made for it. -/
structure CompleteBatch (channel : Nat → Finset Nat) (floor : Option Snowflake) (last : Nat) (messages : List DiscordMessage) :
    Prop where
  increasing : (messages.map DiscordMessage.number).Pairwise (· < ·)
  above : ∀ message ∈ messages, ∀ id ∈ floor, id.value < message.number
  complete : ∀ number, (∀ request ≤ last, number ∈ channel request) → (∀ id ∈ floor, id.value < number) →
    ∃ message ∈ messages, message.number = number

theorem CompleteBatch.of_covered {last messages delay batch}
    (covered : Covered channel (discordBound target.afterMessageId) last (discordBound target.afterMessageId) messages)
    (finished : finishBatch library messages delay = .ok batch) :
    CompleteBatch channel target.afterMessageId last batch.messages := by
  obtain ⟨increasing, same⟩ := finishBatch_sorted covered.distinct finished
  refine ⟨increasing, fun message member id held => ?_, fun number stood above => ?_⟩
  · have floor := (covered.above message ((same message).mp member)).1
    rw [Option.mem_def.mp held] at floor
    exact floor
  · have reached : discordBound target.afterMessageId ≤ number := by
      cases floor : target.afterMessageId with
      | none => exact Nat.zero_le _
      | some id => exact above id floor
    rcases covered.complete number stood reached with below | ⟨message, member, equal⟩
    · omega
    · exact ⟨message, (same message).mpr member, equal⟩

theorem firstPage_covered (answers : Answers library target channel) {page delay lower}
    (fetched : fetchDiscordPage library target 0 (firstQuery target) = .ok (page, delay))
    (least : ∀ message ∈ page, discordBound target.afterMessageId ≤ message.number → lower ≤ message.number)
    (full : page.length = 100 → ∃ message ∈ page, message.number = lower) :
    Covered channel (discordBound target.afterMessageId) 0 lower page := by
  have query : ∀ number, (firstQuery target).selects number ↔ discordBound target.afterMessageId ≤ number := by
    intro number
    cases floor : target.afterMessageId <;> simp [firstQuery, floor, DiscordQuery.selects, discordBound]
  have shown := answers _ _ _ _ fetched
  refine ⟨shown.distinct, fun message member => ?_, fun number stood reached => ?_⟩
  · have above := (query _).mp (shown.selected message member).2
    exact ⟨above, least message member above⟩
  · rcases shown.largest number (stood 0 le_rfl) ((query number).mpr reached) with found | ⟨hundred, greater⟩
    · exact .inr found
    · obtain ⟨message, member, rfl⟩ := full hundred
      exact .inl (greater message member)

/-- The batch of a scan is complete; the bounds of its requests fall and are not too many. -/
structure CompleteScan (channel : Nat → Finset Nat) (floor : Option Snowflake)
    (scan : List Snowflake × Except DiscordFetchError FetchedDiscordBatch) : Prop where
  batch : ∀ batch, scan.2 = .ok batch → CompleteBatch channel floor scan.1.length batch.messages
  falling : scan.1.Pairwise fun earlier later => later.value < earlier.value
  finite : scan.1.length ≤ 10001

theorem CompleteScan.failed {channel floor error} : CompleteScan channel floor ([], .error error) :=
  ⟨nofun, .nil, Nat.zero_le _⟩

/-- A scan leaves no gap: whatever happens to the channel between the requests, the batch has
every message above the floor that stood in it during the whole scan. -/
theorem fetchDiscordMessages_complete (library : DiscordLibrary) (target : DiscordPollTarget) (channel : Nat → Finset Nat)
    (answers : Answers library target channel) :
    CompleteScan channel target.afterMessageId (fetchDiscordMessages library target) := by
  unfold fetchDiscordMessages
  split
  next => exact .failed
  next => exact .failed
  next messages delay _ fetched =>
    split
    next full =>
      split
      next => exact .failed
      next => exact .failed
      next floor before held least =>
        obtain ⟨⟨lowest, listed, rfl⟩, minimal⟩ := minimum_ok least
        have covered := firstPage_covered answers fetched (fun message member _ => minimal message member)
          fun _ => ⟨lowest, listed, rfl⟩
        have bound : discordBound target.afterMessageId = floor.value + 1 := by rw [held]; rfl
        rw [bound] at covered
        have walked := @walkBack_covered _ _ _ answers _ _ _ _ delay covered
        simp only [Nat.zero_add] at walked
        obtain ⟨down, ends⟩ := walked
        refine ⟨fun batch ok => ?_, down.falling, ?_⟩
        · obtain ⟨⟨all, slowest⟩, walked, finished⟩ := bind_eq_ok.mp ok
          have done := ends all slowest walked
          rw [← bound] at done
          exact .of_covered done finished
        · have := down.finite (by omega)
          dsimp only
          omega
    next short =>
      refine ⟨fun batch finished => ?_, .nil, Nat.zero_le _⟩
      exact .of_covered (firstPage_covered answers fetched (fun _ _ above => above) fun full => absurd full short) finished

end

/-! ### A full page and the rest before it -/

def sampleDiscordPage (numbers : List Nat) : Except DiscordFetchError (List Json.Value × Nat) :=
  .ok (numbers.map fun n => .object [("id", .string (toString n)), ("channel_id", .string "2")], 0)

def sampleDiscordLibrary : DiscordLibrary where
  readCredential := .ok "token"
  sha256 := id
  validToken := fun _ => true
  canonicalDigest := Json.Value.render
  answer := fun _ query =>
    match query with
    | .after id => if id = ⟨"100", by decide⟩ then sampleDiscordPage (List.range' 102 100) else .error .transport
    | .before id => if id = ⟨"102", by decide⟩ then sampleDiscordPage [101, 100] else .error .transport
    | .latest => .error .transport

def sampleDiscordTarget : DiscordPollTarget := ⟨"token", "2", some ⟨"100", by decide⟩⟩

theorem IsPage.of_numbers {query : DiscordQuery} {channel page} {numbers : List Nat}
    (same : page.map DiscordMessage.number = numbers) (distinct : numbers.Nodup)
    (selected : ∀ n ∈ numbers, n ∈ channel ∧ query.selects n)
    (largest : ∀ n ∈ channel, query.selects n → n ∈ numbers ∨ numbers.length = 100 ∧ ∀ m ∈ numbers, n < m) :
    IsPage query channel page := by
  subst same
  refine ⟨distinct, by simpa using selected, fun n stands chosen => ?_⟩
  simpa using largest n stands chosen

def DiscordLibrary.numbers (library : DiscordLibrary) (target : DiscordPollTarget) (query : DiscordQuery) : Option (List Nat) :=
  (fetchDiscordPage library target 0 query).toOption.map fun answer => answer.1.map DiscordMessage.number

theorem sampleDiscord_answers : Answers sampleDiscordLibrary sampleDiscordTarget fun _ => Finset.Icc 100 201 := by
  intro request query page delay fetched
  have numbers : sampleDiscordLibrary.numbers sampleDiscordTarget query = some (page.map DiscordMessage.number) :=
    congrArg (fun answer => answer.toOption.map fun answer => answer.1.map DiscordMessage.number) fetched
  cases query with
  | latest => cases fetched
  | after id =>
    by_cases floor : id = ⟨"100", by decide⟩
    · subst floor
      have first : sampleDiscordLibrary.numbers sampleDiscordTarget (.after ⟨"100", by decide⟩) = some (List.range' 102 100) := by
        decide +kernel
      have value : Snowflake.value ⟨"100", by decide⟩ = 100 := by decide +kernel
      refine .of_numbers (Option.some.inj (numbers.symm.trans first)) List.nodup_range' ?_ ?_ <;>
        simp only [DiscordQuery.selects, value, List.mem_range'_1, Finset.mem_Icc, List.length_range'] <;> grind
    · rw [fetchDiscordPage, sampleDiscordLibrary] at fetched
      simp [floor, bind, Except.bind] at fetched
  | before id =>
    by_cases bound : id = ⟨"102", by decide⟩
    · subst bound
      have second : sampleDiscordLibrary.numbers sampleDiscordTarget (.before ⟨"102", by decide⟩) = some [101, 100] := by
        decide +kernel
      have value : Snowflake.value ⟨"102", by decide⟩ = 102 := by decide +kernel
      refine .of_numbers (Option.some.inj (numbers.symm.trans second)) (by decide) ?_ ?_ <;>
        simp only [DiscordQuery.selects, value, List.mem_cons, List.not_mem_nil, or_false, Finset.mem_Icc] <;> omega
    · rw [fetchDiscordPage, sampleDiscordLibrary] at fetched
      simp [bound, bind, Except.bind] at fetched

/-- A full page above the floor, and a request for what lies before it. -/
theorem fetchDiscordMessages_complete_two_pages : ∃ batch,
    (fetchDiscordMessages sampleDiscordLibrary sampleDiscordTarget).1.map Snowflake.text = ["102"] ∧
    (fetchDiscordMessages sampleDiscordLibrary sampleDiscordTarget).2 = .ok batch ∧
      batch.messages.map DiscordMessage.number = List.range' 101 101 ∧
      CompleteBatch (fun _ => Finset.Icc 100 201) sampleDiscordTarget.afterMessageId 1 batch.messages := by
  have scanned : (fetchDiscordMessages sampleDiscordLibrary sampleDiscordTarget).1.map Snowflake.text = ["102"] ∧
      (fetchDiscordMessages sampleDiscordLibrary sampleDiscordTarget).2.toOption.map
        (fun batch => batch.messages.map DiscordMessage.number) = some (List.range' 101 101) := by decide +kernel
  obtain ⟨bounds, fetched⟩ := scanned
  have complete := fetchDiscordMessages_complete _ _ _ sampleDiscord_answers
  obtain ⟨batch, done, numbers⟩ := Option.map_eq_some_iff.mp fetched
  have ok : (fetchDiscordMessages sampleDiscordLibrary sampleDiscordTarget).2 = .ok batch := by
    cases ended : (fetchDiscordMessages sampleDiscordLibrary sampleDiscordTarget).2 with
    | error => rw [ended] at done; cases done
    | ok => rw [ended] at done; cases done; rfl
  have whole := complete.batch batch ok
  rw [← List.length_map Snowflake.text, bounds] at whole
  exact ⟨batch, bounds, ok, numbers, whole⟩

end Mealy.Channels
