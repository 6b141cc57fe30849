import Mathlib.Tactic.Ring

/-! The circuit breaker of `examples/basic/basic_example.go`, called by one caller at a time.
`admission` is the part of `Execute` before `fn` runs and `record` the critical section after it;
the concurrent model reuses both. -/

namespace ToolKit.Breaker

inductive CircuitState
  | stateClosed
  | stateOpen
  | stateHalfOpen
  deriving DecidableEq, Repr

/-- The fields `Execute`, `GetState` and `Reset` touch; times are monotonic nanoseconds. -/
structure CircuitBreaker where
  failureCount : Int
  successCount : Int
  maxFailures : Int
  resetTimeout : Int
  state : CircuitState
  lastFailureTime : Int
  deriving DecidableEq, Repr

def newCircuitBreaker (maxFailures resetTimeout : Int) : CircuitBreaker :=
  ⟨0, 0, maxFailures, resetTimeout, .stateClosed, 0⟩

/-- What `Execute` returns: the "circuit breaker is open" error without running `fn`, or the
error of `fn`, which is non-nil exactly when `failed`. -/
inductive Outcome
  | rejected
  | returned (failed : Bool)
  deriving DecidableEq, Repr

/-- The admission switch of `Execute`, given the state read under `RLock`. From `StateOpen`
it writes `StateHalfOpen` once `time.Since(lastFailureTime) > resetTimeout`; `none` rejects. -/
def admission (cb : CircuitBreaker) (observed : CircuitState) (now : Int) : Option CircuitBreaker :=
  match observed with
  | .stateOpen =>
    if now - cb.lastFailureTime > cb.resetTimeout then some { cb with state := .stateHalfOpen }
    else none
  | _ => some cb

/-- The result-recording critical section of `Execute`, run after `fn` returned. -/
def record (cb : CircuitBreaker) (failed : Bool) (now : Int) : CircuitBreaker :=
  if failed then
    let cb := { cb with failureCount := cb.failureCount + 1, lastFailureTime := now }
    if cb.failureCount ≥ cb.maxFailures then { cb with state := .stateOpen } else cb
  else
    let cb := { cb with successCount := cb.successCount + 1 }
    if cb.state = .stateHalfOpen then { cb with state := .stateClosed, failureCount := 0 } else cb

def reset (cb : CircuitBreaker) : CircuitBreaker :=
  { cb with failureCount := 0, successCount := 0, state := .stateClosed }

/-- One `Execute` call: the clock at the open-timeout check, whether `fn` fails, and the clock
when the failure is recorded. -/
structure Call where
  checkedAt : Int
  failed : Bool
  recordedAt : Int
  deriving DecidableEq, Repr

def execute (cb : CircuitBreaker) (c : Call) : CircuitBreaker × Outcome :=
  match admission cb cb.state c.checkedAt with
  | none => (cb, .rejected)
  | some passed => (record passed c.failed c.recordedAt, .returned c.failed)

inductive Event
  | execute (c : Call)
  | reset
  deriving DecidableEq, Repr

/-- What a caller sees of each event: the error `Execute` returned, and `GetState` after it. -/
def observe (cb : CircuitBreaker) : List Event → List (Option Outcome × CircuitState)
  | [] => []
  | .execute c :: rest =>
    let r := execute cb c
    (some r.2, r.1.state) :: observe r.1 rest
  | .reset :: rest => (none, (reset cb).state) :: observe (reset cb) rest

@[simp] theorem reset_state (cb : CircuitBreaker) : (reset cb).state = .stateClosed := rfl
@[simp] theorem reset_failureCount (cb : CircuitBreaker) : (reset cb).failureCount = 0 := rfl
@[simp] theorem reset_maxFailures (cb : CircuitBreaker) : (reset cb).maxFailures = cb.maxFailures := rfl
@[simp] theorem reset_resetTimeout (cb : CircuitBreaker) :
    (reset cb).resetTimeout = cb.resetTimeout := rfl

theorem record_limits (cb : CircuitBreaker) (failed : Bool) (now : Int) :
    (record cb failed now).maxFailures = cb.maxFailures ∧
      (record cb failed now).resetTimeout = cb.resetTimeout := by
  unfold record
  split <;> dsimp only <;> split <;> exact ⟨rfl, rfl⟩

theorem admission_limits {cb passed : CircuitBreaker} {observed : CircuitState} {now : Int}
    (h : admission cb observed now = some passed) :
    passed.maxFailures = cb.maxFailures ∧ passed.resetTimeout = cb.resetTimeout := by
  unfold admission at h
  split at h
  · split at h <;> cases h
    exact ⟨rfl, rfl⟩
  · cases h
    exact ⟨rfl, rfl⟩

theorem execute_limits (cb : CircuitBreaker) (c : Call) :
    (execute cb c).1.maxFailures = cb.maxFailures ∧
      (execute cb c).1.resetTimeout = cb.resetTimeout := by
  unfold execute
  cases h : admission cb cb.state c.checkedAt with
  | none => exact ⟨rfl, rfl⟩
  | some passed =>
    obtain ⟨hm, hr⟩ := admission_limits h
    obtain ⟨hm', hr'⟩ := record_limits passed c.failed c.recordedAt
    exact ⟨hm'.trans hm, hr'.trans hr⟩

/-! ### The three-state automaton -/

/-- The automaton's states. `HalfOpen` lasts only inside the call that probes, so between
calls the automaton is closed with a failure count or open since a failure time. -/
inductive Phase
  | closed (failures : Nat)
  | opened (since : Int)
  deriving DecidableEq, Repr

def Phase.state : Phase → CircuitState
  | .closed _ => .stateClosed
  | .opened _ => .stateOpen

/-- One call of the automaton. With `successResets` a success while closed clears the count,
the consecutive-failure reading; without it the count runs until a reset or a recovery. -/
def Phase.execute (successResets : Bool) (maxFailures resetTimeout : Int) :
    Phase → Call → Phase × Outcome
  | .closed n, c =>
    if c.failed then
      (if maxFailures ≤ n + 1 then .opened c.recordedAt else .closed (n + 1), .returned true)
    else (.closed (if successResets then 0 else n), .returned false)
  | .opened since, c =>
    if c.checkedAt - since > resetTimeout then
      (if c.failed then .opened c.recordedAt else .closed 0, .returned c.failed)
    else (.opened since, .rejected)

def Phase.observe (successResets : Bool) (maxFailures resetTimeout : Int) :
    Phase → List Event → List (Option Outcome × CircuitState)
  | _, [] => []
  | p, .execute c :: rest =>
    let r := p.execute successResets maxFailures resetTimeout c
    (some r.2, r.1.state) :: r.1.observe successResets maxFailures resetTimeout rest
  | _, .reset :: rest =>
    (none, .stateClosed) :: (Phase.closed 0).observe successResets maxFailures resetTimeout rest

/-- The breaker between two sequential calls: never half-open, a closed count below the
limit, an open breaker at or past it. -/
structure Settled (cb : CircuitBreaker) : Prop where
  not_halfOpen : cb.state ≠ .stateHalfOpen
  closed_count : cb.state = .stateClosed → 0 ≤ cb.failureCount ∧ cb.failureCount < cb.maxFailures
  open_count : cb.state = .stateOpen → cb.maxFailures ≤ cb.failureCount

def phaseOf (cb : CircuitBreaker) : Phase :=
  match cb.state with
  | .stateOpen => .opened cb.lastFailureTime
  | _ => .closed cb.failureCount.toNat

theorem settled_iff (cb : CircuitBreaker) : Settled cb ↔
    cb.state ≠ .stateHalfOpen ∧
      (cb.state = .stateClosed → 0 ≤ cb.failureCount ∧ cb.failureCount < cb.maxFailures) ∧
      (cb.state = .stateOpen → cb.maxFailures ≤ cb.failureCount) :=
  ⟨fun h => ⟨h.1, h.2, h.3⟩, fun h => ⟨h.1, h.2.1, h.2.2⟩⟩

theorem settled_reset (cb : CircuitBreaker) (hmax : 1 ≤ cb.maxFailures) : Settled (reset cb) := by
  simp [settled_iff]
  omega

theorem phaseOf_state {cb : CircuitBreaker} (h : Settled cb) : (phaseOf cb).state = cb.state := by
  have := h.not_halfOpen
  unfold phaseOf
  cases hs : cb.state <;> simp_all [Phase.state]

/-- One sequential call keeps the breaker settled and moves it as the automaton moves. -/
theorem execute_refines (cb : CircuitBreaker) (h : Settled cb) (hmax : 1 ≤ cb.maxFailures)
    (c : Call) :
    Settled (execute cb c).1 ∧
      ((phaseOf (execute cb c).1, (execute cb c).2) =
        (phaseOf cb).execute false cb.maxFailures cb.resetTimeout c) := by
  obtain ⟨fc, sc, mf, rt, st, lft⟩ := cb
  obtain ⟨checkedAt, failed, recordedAt⟩ := c
  rw [settled_iff] at h
  simp only at hmax h
  cases st with
  | stateHalfOpen => simp at h
  | stateClosed =>
    obtain ⟨n, rfl⟩ := Int.eq_ofNat_of_zero_le (h.2.1 rfl).1
    have below := (h.2.1 rfl).2
    by_cases full : mf ≤ n + 1 <;> cases failed <;>
      simp [execute, admission, record, phaseOf, Phase.execute, settled_iff, full] <;> omega
  | stateOpen =>
    have count : mf ≤ fc := by simpa using h
    have full : mf ≤ fc + 1 := by omega
    by_cases timeout : checkedAt - lft > rt <;> cases failed <;>
      simp [execute, admission, record, phaseOf, Phase.execute, settled_iff, timeout, full, count,
        show 0 < mf by omega]

/-- From any settled breaker, every sequence of calls and resets is observed exactly as the
cumulative-count automaton, started from the breaker's phase, predicts. -/
theorem observe_refines (cb : CircuitBreaker) (h : Settled cb) (hmax : 1 ≤ cb.maxFailures)
    (es : List Event) :
    observe cb es = (phaseOf cb).observe false cb.maxFailures cb.resetTimeout es := by
  induction es generalizing cb with
  | nil => rfl
  | cons e rest ih =>
    cases e with
    | execute c =>
      obtain ⟨settled, moves⟩ := execute_refines cb h hmax c
      obtain ⟨hm, hr⟩ := execute_limits cb c
      have next := ih (execute cb c).1 settled (hm ▸ hmax)
      rw [hm, hr] at next
      simp only [observe, Phase.observe, ← moves, phaseOf_state settled, next]
    | reset =>
      have next := ih (reset cb) (settled_reset cb hmax) hmax
      simp only [observe, Phase.observe, next, reset_state, reset_maxFailures, reset_resetTimeout]
      rfl

/-- In sequential use the breaker follows the three-state automaton in which a closed
breaker counts every failure since the last `Reset` or recovery from `HalfOpen`. -/
theorem breaker_follows_cumulative_automaton (maxFailures resetTimeout : Int)
    (hmax : 1 ≤ maxFailures) (es : List Event) :
    observe (newCircuitBreaker maxFailures resetTimeout) es =
      (Phase.closed 0).observe false maxFailures resetTimeout es :=
  observe_refines _ (by simp [settled_iff, newCircuitBreaker]; omega) hmax es

theorem breaker_follows_cumulative_automaton_two_failures :
    1 ≤ (2 : Int) ∧ observe (newCircuitBreaker 2 5) [.execute ⟨0, true, 0⟩, .execute ⟨1, true, 1⟩] =
      (Phase.closed 0).observe false 2 5 [.execute ⟨0, true, 0⟩, .execute ⟨1, true, 1⟩] :=
  ⟨by decide, breaker_follows_cumulative_automaton 2 5 (by decide) _⟩

/-- A success between two failures does not clear the count: with `maxFailures = 2` the breaker
opens on the second failure, where the consecutive-failure automaton stays closed. -/
theorem breaker_opens_on_failures_separated_by_success :
    observe (newCircuitBreaker 2 0)
        [.execute ⟨0, true, 0⟩, .execute ⟨1, false, 1⟩, .execute ⟨2, true, 2⟩] ≠
      (Phase.closed 0).observe true 2 0
        [.execute ⟨0, true, 0⟩, .execute ⟨1, false, 1⟩, .execute ⟨2, true, 2⟩] := by
  decide

end ToolKit.Breaker
