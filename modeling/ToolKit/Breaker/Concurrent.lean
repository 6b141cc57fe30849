import ToolKit.Run
import ToolKit.Breaker.Execute

/-! Concurrent callers of `CircuitBreaker.Execute`. Each call is three steps: the read of
`state` under `RLock`, the admission switch, and the locked recording of `fn`'s result; `Reset`
is one locked step. -/

namespace ToolKit.Breaker

inductive CallerPc
  | idle
  | observed (state : CircuitState)
  | calling
  deriving DecidableEq, Repr

structure Shared where
  cb : CircuitBreaker
  callers : List CallerPc
  deriving DecidableEq, Repr

inductive Action
  | read (caller : Nat)
  | check (caller : Nat) (now : Int)
  | finish (caller : Nat) (failed : Bool) (now : Int)
  | reset
  deriving DecidableEq, Repr

/-- One step of one caller, or a `Reset`. A caller passes the switch on the state it read, which
may be stale by the time it writes `StateHalfOpen`. -/
def next (s : Shared) : Action → Option Shared
  | .read c =>
    match s.callers[c]? with
    | some .idle => some { s with callers := s.callers.set c (.observed s.cb.state) }
    | _ => none
  | .check c now =>
    match s.callers[c]? with
    | some (.observed st) =>
      match admission s.cb st now with
      | none => some { s with callers := s.callers.set c .idle }
      | some cb => some { cb := cb, callers := s.callers.set c .calling }
    | _ => none
  | .finish c failed now =>
    match s.callers[c]? with
    | some .calling => some { cb := record s.cb failed now, callers := s.callers.set c .idle }
    | _ => none
  | .reset => some { s with cb := reset s.cb }

def start (callers : Nat) (maxFailures resetTimeout : Int) : Shared :=
  ⟨newCircuitBreaker maxFailures resetTimeout, List.replicate callers .idle⟩

/-- What survives every interleaving: an open breaker has seen at least `maxFailures` failures. -/
def OpenCounted (cb : CircuitBreaker) : Prop :=
  cb.state = .stateOpen → cb.maxFailures ≤ cb.failureCount

theorem admission_openCounted {cb passed : CircuitBreaker} {st : CircuitState} {now : Int}
    (h : OpenCounted cb) (ha : admission cb st now = some passed) : OpenCounted passed := by
  unfold admission at ha
  split at ha
  · split at ha <;> cases ha
    simp [OpenCounted]
  · cases ha
    exact h

theorem record_openCounted {cb : CircuitBreaker} (failed : Bool) (now : Int) (h : OpenCounted cb) :
    OpenCounted (record cb failed now) := by
  unfold OpenCounted at *
  unfold record
  cases failed <;> simp only [Bool.false_eq_true, if_false, if_true] <;> split
  · simp
  · exact h
  · simp_all
  · intro hs
    have := h hs
    simp_all
    omega

theorem next_openCounted {s s' : Shared} {a : Action} (h : OpenCounted s.cb)
    (hs : next s a = some s') : OpenCounted s'.cb := by
  cases a with
  | read c =>
    simp only [next] at hs
    split at hs <;> cases hs
    exact h
  | check c now =>
    simp only [next] at hs
    split at hs
    · split at hs <;> cases hs
      · exact h
      · exact admission_openCounted h ‹_›
    · cases hs
  | finish c failed now =>
    simp only [next] at hs
    split at hs <;> cases hs
    exact record_openCounted failed now h
  | reset =>
    cases hs
    simp [OpenCounted]

/-- Under any interleaving of callers and resets, an open breaker has counted at least
`maxFailures` failures. The half-open state carries no such guarantee (see below). -/
theorem open_breaker_counted (n : Nat) (maxFailures resetTimeout : Int) {s : Shared}
    (hs : Reachable next (start n maxFailures resetTimeout) s) : OpenCounted s.cb :=
  hs.induct_on (fun s => OpenCounted s.cb) (by simp [OpenCounted, start, newCircuitBreaker])
    fun _ _ _ h step => next_openCounted h step

/-- One caller, `maxFailures = 2`: two failed calls open the breaker. -/
def openedByTwoFailures : Shared :=
  (run next (start 1 2 0) [.read 0, .check 0 0, .finish 0 true 0, .read 0, .check 0 0, .finish 0 true 0]).getD
    (start 1 2 0)

theorem open_breaker_counted_two_failures :
    Reachable next (start 1 2 0) openedByTwoFailures ∧ openedByTwoFailures.cb.state = .stateOpen ∧
      OpenCounted openedByTwoFailures.cb :=
  have hs : Reachable next (start 1 2 0) openedByTwoFailures :=
    reachable_of_run next [.read 0, .check 0 0, .finish 0 true 0, .read 0, .check 0 0, .finish 0 true 0] rfl
  ⟨hs, rfl, open_breaker_counted 1 2 0 hs⟩

/-- Two callers, `maxFailures = 2`, `resetTimeout = 0`. Caller 0 fails twice and opens the
breaker; caller 1 reads `StateOpen`; caller 0 probes and recovers to `StateClosed` with a zero
count; caller 1, acting on its stale read, writes `StateHalfOpen`. -/
def staleProbe : List Action :=
  [.read 0, .check 0 0, .finish 0 true 0, .read 0, .check 0 0, .finish 0 true 0,
   .read 1, .read 0, .check 0 1, .finish 0 false 1, .check 1 1]

/-- The stale admission leaves the breaker half-open with no recorded failure, and the
failure of that probe leaves it half-open instead of returning it to open. -/
theorem stale_probe_half_open_failure_stays_half_open :
    ∃ s, Reachable next (start 2 2 0) s ∧
      s.cb.state = .stateHalfOpen ∧ s.cb.failureCount < s.cb.maxFailures ∧
      (next s (.finish 1 true 2)).map (·.cb.state) = some .stateHalfOpen := by
  obtain ⟨s, hs, hp⟩ := exists_reachable_of_run next (start 2 2 0) staleProbe
    (fun s => decide (s.cb.state = .stateHalfOpen ∧
      s.cb.failureCount < s.cb.maxFailures ∧
      (next s (.finish 1 true 2)).map (·.cb.state) = some .stateHalfOpen)) (by decide)
  exact ⟨s, hs, by simpa using hp⟩

end ToolKit.Breaker
