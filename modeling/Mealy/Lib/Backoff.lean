import Mathlib

/-! Bounded exponential backoff. A base doubles with every attempt up to a maximum, and a
jitter of at most a quarter is added below that maximum. The jitter never overtakes the next
doubling, so delays grow with the attempts whatever the seeds are. -/

namespace Backoff

def exponential (base maximum exponent : Nat) : Nat := min (base * 2 ^ exponent) maximum

def jitter (window seed : Nat) : Nat := if window = 0 then 0 else seed % (window + 1)

def delay (base maximum exponent seed : Nat) : Nat :=
  let doubled := exponential base maximum exponent
  min (doubled + jitter (doubled / 4) seed) maximum

variable {base maximum : Nat}

theorem jitter_le (window seed) : jitter window seed ≤ window := by
  unfold jitter
  split
  · exact Nat.zero_le _
  · exact Nat.le_of_lt_succ (Nat.mod_lt _ (Nat.succ_pos _))

theorem exponential_le_delay (exponent seed) :
    exponential base maximum exponent ≤ delay base maximum exponent seed :=
  le_min (Nat.le_add_right _ _) (min_le_right _ _)

theorem delay_le_maximum (exponent seed) : delay base maximum exponent seed ≤ maximum := min_le_right _ _

theorem delay_le_quarter (exponent seed) : delay base maximum exponent seed ≤
    exponential base maximum exponent + exponential base maximum exponent / 4 :=
  (min_le_left _ _).trans (Nat.add_le_add_left (jitter_le _ _) _)

theorem base_le_exponential (ordered : base ≤ maximum) (exponent) : base ≤ exponential base maximum exponent :=
  le_min (Nat.le_mul_of_pos_right _ (Nat.two_pow_pos _)) ordered

theorem exponential_capped {cap} (reached : maximum ≤ base * 2 ^ cap) (exponent) :
    exponential base maximum (min exponent cap) = exponential base maximum exponent := by
  rcases le_total exponent cap with below | above
  · rw [min_eq_left below]
  · have further : base * 2 ^ cap ≤ base * 2 ^ exponent := by gcongr; decide
    rw [min_eq_right above, exponential, exponential, min_eq_right reached, min_eq_right (reached.trans further)]

theorem delay_le_exponential {exponent later} (follows : exponent < later) (seed) :
    delay base maximum exponent seed ≤ exponential base maximum later := by
  have quarter := @delay_le_quarter base maximum exponent seed
  have below : exponential base maximum exponent ≤ base * 2 ^ exponent := min_le_left _ _
  have doubles : base * 2 ^ exponent * 2 ≤ base * 2 ^ later := by
    rw [Nat.mul_assoc, ← Nat.pow_succ]
    gcongr
    · decide
    · exact follows
  refine le_min ?_ (delay_le_maximum _ _)
  omega

end Backoff
