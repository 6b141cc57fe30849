import ToolKit.Go
import Mathlib.Tactic.Linarith
import Mathlib.Tactic.NormNum

/-! The backoff strategies of `Retry` (`goroutine/examples/basic/basic_example.go`): each is its
`GetDelay(attempt int) time.Duration`. A `time.Duration` is an `int64` count of nanoseconds, so
the products wrap around. -/

namespace ToolKit.Retry

structure FixedBackoff where
  delay : Int
  deriving DecidableEq, Repr

def FixedBackoff.getDelay (b : FixedBackoff) (_attempt : Int) : Int := b.delay

structure ExponentialBackoff where
  baseDelay : Int
  maxDelay : Int
  deriving DecidableEq, Repr

/-- The loop of `ExponentialBackoff.GetDelay`: `n` more rounds of `delay *= 2`, each followed by
the cap. -/
def doubleCapped (maxDelay : Int) : Nat → Int → Int
  | 0, delay => delay
  | n + 1, delay =>
    let delay := wrapInt64 (delay * 2)
    doubleCapped maxDelay n (if delay > maxDelay then maxDelay else delay)

/-- The cap is applied only inside the loop, so attempt 0 returns `BaseDelay` itself. -/
def ExponentialBackoff.getDelay (b : ExponentialBackoff) (attempt : Int) : Int :=
  doubleCapped b.maxDelay attempt.toNat b.baseDelay

structure LinearBackoff where
  baseDelay : Int
  maxDelay : Int
  deriving DecidableEq, Repr

def LinearBackoff.getDelay (b : LinearBackoff) (attempt : Int) : Int :=
  let delay := wrapInt64 (b.baseDelay * wrapInt64 (attempt + 1))
  if delay > b.maxDelay then b.maxDelay else delay

/-- Below `2^62` nothing overflows: from a delay within the cap, the loop computes the capped
power. -/
theorem doubleCapped_eq_min {maxDelay : Int} (hmax : maxDelay < 2 ^ 62) :
    ∀ (n : Nat) (delay : Int), 0 ≤ delay → delay ≤ maxDelay →
      doubleCapped maxDelay n delay = min (delay * 2 ^ n) maxDelay
  | 0, delay, _, hle => by simp [doubleCapped, min_eq_left hle]
  | n + 1, delay, hpos, hle => by
    have exact : wrapInt64 (delay * 2) = delay * 2 :=
      wrapInt64_of_inInt64 ⟨by omega, by omega⟩
    have pow : (1 : Int) ≤ 2 ^ n := one_le_pow₀ (by norm_num)
    simp only [doubleCapped, exact]
    split
    · rw [doubleCapped_eq_min hmax n maxDelay (by omega) le_rfl, pow_succ]
      have : maxDelay ≤ maxDelay * 2 ^ n := le_mul_of_one_le_right (by omega) pow
      have : maxDelay < delay * 2 * 2 ^ n := lt_of_lt_of_le ‹_› (le_mul_of_one_le_right (by omega) pow)
      rw [min_eq_right (by linarith), min_eq_right (by rw [← mul_assoc]; linarith)]
    · rw [doubleCapped_eq_min hmax n (delay * 2) (by omega) (by omega), pow_succ, mul_assoc,
        mul_comm 2]

/-- `ExponentialBackoff` follows `min(BaseDelay * 2^attempt, MaxDelay)` when
`0 ≤ BaseDelay ≤ MaxDelay < 2^62`. -/
theorem exponential_getDelay_eq_min (b : ExponentialBackoff) (attempt : Nat) (hbase : 0 ≤ b.baseDelay)
    (hle : b.baseDelay ≤ b.maxDelay) (hmax : b.maxDelay < 2 ^ 62) :
    b.getDelay attempt = min (b.baseDelay * 2 ^ attempt) b.maxDelay :=
  doubleCapped_eq_min hmax attempt b.baseDelay hbase hle

/-- `LinearBackoff` follows `min(BaseDelay * (attempt + 1), MaxDelay)` when the product fits in
an `int64`. -/
theorem linear_getDelay_eq_min (b : LinearBackoff) (attempt : Nat) (hattempt : (attempt : Int) + 1 < 2 ^ 63)
    (hprod : InInt64 (b.baseDelay * (attempt + 1))) :
    b.getDelay attempt = min (b.baseDelay * (attempt + 1)) b.maxDelay := by
  have count : wrapInt64 ((attempt : Int) + 1) = attempt + 1 := wrapInt64_of_inInt64 ⟨by omega, hattempt⟩
  simp only [LinearBackoff.getDelay, count, wrapInt64_of_inInt64 hprod]
  split <;> omega

/-- `ExponentialBackoff{2, 1}` returns 2 at attempt 0, above its `MaxDelay`; and with
`BaseDelay = 2^62` and `MaxDelay = 2^63 - 1`, both strategies overflow at attempt 1 and return
`-2^63`, where the formulas give `2^63 - 1`. -/
theorem backoff_exceeds_cap_or_wraps :
    ExponentialBackoff.getDelay ⟨2, 1⟩ 0 = 2 ∧
      ExponentialBackoff.getDelay ⟨2 ^ 62, 2 ^ 63 - 1⟩ 1 = -2 ^ 63 ∧
      LinearBackoff.getDelay ⟨2 ^ 62, 2 ^ 63 - 1⟩ 1 = -2 ^ 63 := by
  decide

end ToolKit.Retry
