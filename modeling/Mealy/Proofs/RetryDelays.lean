import Mealy.Lib.Backoff
import Mealy.Store.TelegramDelivery

/-! Retry delays of the outbox and of a provider (`exponential_retry_delay` of `outbox.rs`,
`provider_retry_delay` of `agent.rs`). Both count in whole milliseconds, so a base between two
milliseconds is rounded down and the outbox may retry before it. -/

namespace Mealy
open Transaction Backoff

inductive AgentUseCaseError where
  | invalidRetryDelay

/-- The odd constant that spreads the attempt number over the seed of the jitter. -/
def jitterSeed (id attempt : Nat) : Nat := Nat.xor id (attempt * 0x9e3779b97f4a7c15 % 2 ^ 128)

def providerRetryDelay (attemptId : AttemptId) (retryOrdinal : Nat) (base maximum : Duration) :
    Except AgentUseCaseError Duration := do
  ensure (retryOrdinal ≠ 0 ∧ Duration.fromMillis 1 ≤ base ∧ base ≤ maximum ∧ maximum ≤ Duration.fromHours 1)
    .invalidRetryDelay
  let maximumMs := maximum / 10 ^ 6
  let exponentialMs := min (base / 10 ^ 6 * 2 ^ min (retryOrdinal - 1) 31) maximumMs
  let jitterWindowMs := exponentialMs / 4
  let jitterMs := if jitterWindowMs = 0 then 0 else jitterSeed attemptId.id retryOrdinal % (jitterWindowMs + 1)
  let delayMs := min (exponentialMs + jitterMs) maximumMs
  ensure (delayMs < 2 ^ 64) .invalidRetryDelay
  pure (Duration.fromMillis delayMs)

/-! ### Milliseconds -/

theorem fromMillis_le {milliseconds milliseconds'} (le : milliseconds ≤ milliseconds') :
    Duration.fromMillis milliseconds ≤ Duration.fromMillis milliseconds' := Nat.mul_le_mul_right _ le

theorem reaches_maximum {base maximum : Nat} (least : 1 * 10 ^ 6 ≤ base) (day : maximum ≤ 24 * 3600000 * 10 ^ 6) :
    maximum / 10 ^ 6 ≤ base / 10 ^ 6 * 2 ^ 31 := by omega

theorem whole_of_le_millis {base : Nat} (le : base ≤ base / 10 ^ 6 * 10 ^ 6) : base % 10 ^ 6 = 0 := by omega

theorem quarter_millis_le (milliseconds : Nat) :
    (milliseconds + milliseconds / 4) * 10 ^ 6 ≤ milliseconds * 10 ^ 6 + milliseconds * 10 ^ 6 / 4 := by omega

/-! ### The outbox -/

/-- The bounds that `exponential_retry_delay` accepts. -/
def outboxRetryBounds (base maximum : Duration) : Prop :=
  base ≠ 0 ∧ Duration.fromMillis 1 ≤ base ∧ base ≤ maximum ∧ maximum ≤ Duration.fromHours 24

instance (base maximum : Duration) : Decidable (outboxRetryBounds base maximum) :=
  inferInstanceAs (Decidable (_ ∧ _))

/-- What the documentation of the delay promises for a base and a maximum. -/
structure BoundedRetries (base maximum : Duration) : Prop where
  bounded : ∀ delivery, 1 ≤ delivery.attempt → ∃ delay, exponentialRetryDelay delivery base maximum = .ok delay ∧
    base ≤ delay ∧ delay ≤ maximum
  monotone : ∀ delivery later delay delay', 1 ≤ delivery.attempt → delivery.outboxId = later.outboxId →
    delivery.attempt ≤ later.attempt → exponentialRetryDelay delivery base maximum = .ok delay →
      exponentialRetryDelay later base maximum = .ok delay' → delay ≤ delay'

theorem exponentialRetryDelay_eq {base maximum : Duration} (accepted : outboxRetryBounds base maximum) (delivery) :
    exponentialRetryDelay delivery base maximum = .ok (Duration.fromMillis
      (delay (base / 10 ^ 6) (maximum / 10 ^ 6) (delivery.attempt - 1)
        (jitterSeed delivery.outboxId.id delivery.attempt))) := by
  have bounds : base ≠ 0 ∧ Duration.fromMillis 1 ≤ base ∧ base ≤ maximum ∧ maximum ≤ Duration.fromHours 24 := accepted
  simp only [delay, ← exponential_capped (reaches_maximum accepted.2.1 accepted.2.2.2) (delivery.attempt - 1)]
  simp only [exponentialRetryDelay, ensure, if_pos bounds]
  rfl

/-- The delays keep their bounds exactly when the base is a whole number of milliseconds. -/
theorem retry_delay_bounded_iff {base maximum : Duration} (accepted : outboxRetryBounds base maximum) :
    BoundedRetries base maximum ↔ base % 10 ^ 6 = 0 := by
  have ordered : base / 10 ^ 6 ≤ maximum / 10 ^ 6 := Nat.div_le_div_right accepted.2.2.1
  constructor
  · -- at the first attempt of this record the jitter vanishes
    intro promised
    let delivery : OutboxDelivery := ⟨⟨0x9e3779b97f4a7c15⟩, "", "", 1⟩
    obtain ⟨delayed, isDelay, above, _⟩ := promised.bounded delivery (Nat.le_refl 1)
    have seed : jitterSeed delivery.outboxId.id delivery.attempt = 0 := by decide
    have still : jitter (exponential (base / 10 ^ 6) (maximum / 10 ^ 6) 0 / 4) 0 = 0 := by simp [jitter]
    have first : exponential (base / 10 ^ 6) (maximum / 10 ^ 6) 0 = base / 10 ^ 6 := by
      rw [exponential, Nat.pow_zero, Nat.mul_one, min_eq_left ordered]
    rw [exponentialRetryDelay_eq accepted, seed, delay, show delivery.attempt - 1 = 0 from rfl, still, first] at isDelay
    cases isDelay
    rw [Nat.add_zero, min_eq_left ordered] at above
    exact whole_of_le_millis above
  · intro whole
    refine ⟨fun delivery _ => ⟨_, exponentialRetryDelay_eq accepted delivery, ?_, ?_⟩, ?_⟩
    · have least := (base_le_exponential ordered _).trans (exponential_le_delay (delivery.attempt - 1)
        (jitterSeed delivery.outboxId.id delivery.attempt))
      exact (Nat.div_mul_cancel (Nat.dvd_of_mod_eq_zero whole)).ge.trans (fromMillis_le least)
    · exact (fromMillis_le (delay_le_maximum _ _)).trans (Nat.div_mul_le_self maximum _)
    · intro delivery later delayed delayed' positive same grows isDelay isDelay'
      rw [exponentialRetryDelay_eq accepted] at isDelay isDelay'
      cases isDelay
      cases isDelay'
      apply fromMillis_le
      rcases Nat.eq_or_lt_of_le grows with equal | less
      · rw [same, equal]
      · have follows : delivery.attempt - 1 < later.attempt - 1 := by omega
        exact (delay_le_exponential follows _).trans (exponential_le_delay _ _)

theorem retry_delay_bounded_default :
    outboxRetryBounds (Duration.fromMillis 100) (Duration.fromMillis 30000) ∧
      BoundedRetries (Duration.fromMillis 100) (Duration.fromMillis 30000) :=
  ⟨by decide, (retry_delay_bounded_iff (by decide)).mpr (by decide)⟩

/-- A base and maximum of one and a half milliseconds give a delay of one. -/
theorem retry_delay_below_base :
    outboxRetryBounds 1500000 1500000 ∧
      exponentialRetryDelay ⟨⟨1⟩, "session.turn_completed", "\x7b\x7d", 1⟩ 1500000 1500000 = .ok 1000000 :=
  ⟨by decide, rfl⟩

/-! ### A provider -/

theorem providerRetryDelay_ok {attemptId retryOrdinal base maximum delayed}
    (ok : providerRetryDelay attemptId retryOrdinal base maximum = .ok delayed) :
    retryOrdinal ≠ 0 ∧ delayed = Duration.fromMillis
      (delay (base / 10 ^ 6) (maximum / 10 ^ 6) (retryOrdinal - 1) (jitterSeed attemptId.id retryOrdinal)) := by
  simp only [providerRetryDelay, eq_ok] at ok
  obtain ⟨_, ⟨positive, least, _, hour⟩, _, _, rfl⟩ := ok
  have day : maximum ≤ Duration.fromHours 24 := hour.trans (by decide)
  refine ⟨positive, ?_⟩
  simp only [delay, ← exponential_capped (reaches_maximum least day) (retryOrdinal - 1)]
  rfl

/-- The delay `base * 2 ^ (n - 1)` of the `n`th retry, below the maximum, in milliseconds. -/
def nominalDelay (base maximum retryOrdinal : Nat) : Nat := min maximum (base * 2 ^ (retryOrdinal - 1))

/-- A provider's delays lie in a window of a quarter above the doubled base, and grow with the
ordinal whichever attempts they are for. -/
theorem provider_retry_delay_window (base maximum : Nat) :
    (∀ attemptId retryOrdinal, 1 ≤ retryOrdinal → 1 ≤ base → base ≤ maximum → maximum ≤ 3600000 → ∃ delayed,
      providerRetryDelay attemptId retryOrdinal (Duration.fromMillis base) (Duration.fromMillis maximum) = .ok delayed) ∧
    (∀ attemptId retryOrdinal delayed,
      providerRetryDelay attemptId retryOrdinal (Duration.fromMillis base) (Duration.fromMillis maximum) = .ok delayed →
      let nominal := Duration.fromMillis (nominalDelay base maximum retryOrdinal)
      nominal ≤ delayed ∧ delayed ≤ min (Duration.fromMillis maximum) (nominal + nominal / 4)) ∧
    ∀ attemptId attemptId' retryOrdinal retryOrdinal' delayed delayed', retryOrdinal < retryOrdinal' →
      providerRetryDelay attemptId retryOrdinal (Duration.fromMillis base) (Duration.fromMillis maximum) = .ok delayed →
      providerRetryDelay attemptId' retryOrdinal' (Duration.fromMillis base) (Duration.fromMillis maximum) =
        .ok delayed' → delayed ≤ delayed' := by
  have whole (milliseconds : Nat) : Duration.fromMillis milliseconds / 10 ^ 6 = milliseconds :=
    Nat.mul_div_cancel _ (by decide)
  refine ⟨fun attemptId retryOrdinal positive least ordered hour => ?_, fun attemptId retryOrdinal delayed ok => ?_,
    fun attemptId attemptId' retryOrdinal retryOrdinal' delayed delayed' follows ok ok' => ?_⟩
  · have accepted : retryOrdinal ≠ 0 ∧ Duration.fromMillis 1 ≤ Duration.fromMillis base ∧
        Duration.fromMillis base ≤ Duration.fromMillis maximum ∧ Duration.fromMillis maximum ≤ Duration.fromHours 1 :=
      ⟨Nat.pos_iff_ne_zero.mp positive, fromMillis_le least, fromMillis_le ordered, fromMillis_le hour⟩
    have fits (milliseconds : Nat) : min milliseconds maximum < 2 ^ 64 := by omega
    exact ⟨_, by simp only [providerRetryDelay, ensure, if_pos accepted, whole, fits, if_true]; rfl⟩
  · obtain ⟨_, rfl⟩ := providerRetryDelay_ok ok
    rw [whole, whole]
    have nominal : nominalDelay base maximum retryOrdinal = exponential base maximum (retryOrdinal - 1) := min_comm _ _
    have quarter := @delay_le_quarter base maximum (retryOrdinal - 1) (jitterSeed attemptId.id retryOrdinal)
    rw [← nominal] at quarter
    refine ⟨fromMillis_le (nominal.trans_le (exponential_le_delay _ _)), le_min (fromMillis_le (delay_le_maximum _ _)) ?_⟩
    exact (fromMillis_le quarter).trans (quarter_millis_le _)
  · obtain ⟨positive, rfl⟩ := providerRetryDelay_ok ok
    obtain ⟨_, rfl⟩ := providerRetryDelay_ok ok'
    have next : retryOrdinal - 1 < retryOrdinal' - 1 := by omega
    exact fromMillis_le ((delay_le_exponential next _).trans (exponential_le_delay _ _))

theorem provider_retry_delay_default : ∃ delayed,
    providerRetryDelay ⟨7⟩ 40 (Duration.fromMillis 250) (Duration.fromMillis 5000) = .ok delayed ∧
      Duration.fromMillis 5000 ≤ delayed := by
  obtain ⟨returns, window, _⟩ := provider_retry_delay_window 250 5000
  obtain ⟨delayed, ok⟩ := returns ⟨7⟩ 40 (by decide) (by decide) (by decide) (by decide)
  exact ⟨delayed, ok, (window _ _ _ ok).1⟩

end Mealy
