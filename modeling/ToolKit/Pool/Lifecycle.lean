import ToolKit.Pool.Model

/-! Panics in the callers of the pool's lifecycle methods. `Stop` closes `quit`, `StopGracefully`
closes `jobQueue` and later `quit`, and `Submit` sends on `jobQueue`: nothing latches the closes,
and `Submit` does not check whether `jobQueue` is closed. -/

namespace ToolKit.WorkerPool

/-- The callers' side of the pool, which the pool's own goroutines never change. -/
structure CallerView where
  jobQueueClosed : Bool
  quitClosed : Bool
  callPanics : Nat
  graceful : Nat
  submitting : List Int
  deriving DecidableEq, Repr

def Pool.callerView (p : Pool) : CallerView :=
  ⟨p.jobQueueClosed, p.quitClosed, p.callPanics, p.graceful, p.submitting⟩

theorem next_internal_callerView {config : PoolConfig} {p p' : Pool} {a : Action}
    (ha : a.internal = true) (h : next config p a = some p') : p'.callerView = p.callerView := by
  cases a with
  | submitCall _ | submitSelect _ | stop | stopGracefully | stopGracefullyQuit =>
    simp [Action.internal] at ha
  | _ =>
    simp only [next] at h
    repeat' split at h
    all_goals cases h <;> rfl

/-- `next` for the runs that make at most one `Stop` or `StopGracefully` call in all, in which
every `SubmitFunc` call begun before `StopGracefully` has returned when it begins, and none
begins after. -/
def nextStoppedOnce (config : PoolConfig) (p : Pool) (a : Action) : Option Pool :=
  match a with
  | .submitCall _ => if p.jobQueueClosed then none else next config p a
  | .stop => if p.quitClosed ∨ p.jobQueueClosed then none else next config p a
  | .stopGracefully =>
    if p.quitClosed ∨ p.jobQueueClosed ∨ p.submitting ≠ [] then none else next config p a
  | _ => next config p a

/-- No caller has panicked, a `StopGracefully` between its two closes is the only stop call and
has not seen `quit` closed, and no `SubmitFunc` call is in progress once `jobQueue` is closed. -/
structure Calm (v : CallerView) : Prop where
  no_panic : v.callPanics = 0
  graceful_le : v.graceful ≤ 1
  graceful_pending : 0 < v.graceful → v.quitClosed = false ∧ v.jobQueueClosed = true
  closed_idle : v.jobQueueClosed = true → v.submitting = []

theorem submit_callerView (config : PoolConfig) (p : Pool) (timeout : Int)
    (h : p.jobQueueClosed = false) : (submit config p timeout).callerView = p.callerView := by
  unfold submit
  dsimp only
  rw [if_neg (by simp [h])]
  split
  · rfl
  · split <;> rfl

theorem calm_next {config : PoolConfig} {p p' : Pool} {a : Action} (hc : Calm p.callerView)
    (h : nextStoppedOnce config p a = some p') : Calm p'.callerView := by
  obtain ⟨none, le, pending, idle⟩ := hc
  simp only [Pool.callerView] at none le pending idle
  -- while `jobQueue` is open, no `StopGracefully` is between its two closes
  have unstopped : p.jobQueueClosed = false → p.graceful = 0 := fun open_ =>
    Nat.eq_zero_of_not_pos fun pos => by simp [(pending pos).2] at open_
  cases a with
  | submitCall timeout =>
    simp only [nextStoppedOnce] at h
    split at h
    · cases h
    · cases h
      exact ⟨none, le, pending, fun closed => absurd closed ‹_›⟩
  | submitSelect c =>
    obtain ⟨timeout, call, rfl⟩ := next_submitSelect_some h
    have open_ : p.jobQueueClosed = false := by
      cases closed : p.jobQueueClosed
      · rfl
      · simp [idle closed] at call
    rw [submit_callerView config { p with submitting := p.submitting.eraseIdx c } timeout open_]
    exact ⟨none, le, pending, fun closed => by simp [Pool.callerView, open_] at closed⟩
  | stop =>
    simp only [nextStoppedOnce] at h
    split at h
    · cases h
    · cases h
      rename_i running
      simp only [not_or, Bool.not_eq_true] at running
      simp only [next, closeQuit, running.1, Pool.callerView, Bool.false_eq_true, if_false]
      exact ⟨none, by simp [unstopped running.2], by simp [unstopped running.2], by simp [running.2]⟩
  | stopGracefully =>
    simp only [nextStoppedOnce] at h
    split at h
    · cases h
    · cases h
      rename_i running
      simp only [not_or, Bool.not_eq_true, ne_eq, not_not] at running
      simp only [next, running.2.1, Pool.callerView, Bool.false_eq_true, if_false]
      exact ⟨none, by simp [unstopped running.2.1], fun _ => ⟨running.1, rfl⟩, fun _ => running.2.2⟩
  | stopGracefullyQuit =>
    simp only [nextStoppedOnce, next] at h
    split at h
    · cases h
    · cases h
      have quiet := (pending (Nat.pos_of_ne_zero ‹_›)).1
      simp only [closeQuit, quiet, Pool.callerView, Bool.false_eq_true, if_false]
      exact ⟨none, by dsimp only; omega, fun pos => absurd pos (by dsimp only; omega), idle⟩
  | _ =>
    simp only [nextStoppedOnce] at h
    rw [next_internal_callerView (by rfl) h]
    exact ⟨none, le, pending, idle⟩

/-- With at most one stop call, and no `SubmitFunc` call in progress when `StopGracefully` begins
or begun after it, no call of `Submit`, `Stop` or `StopGracefully` panics, whatever the pool's
goroutines do meanwhile. -/
theorem no_call_panics_when_stopped_once (config : PoolConfig) {p : Pool}
    (h : Reachable (nextStoppedOnce config) (newPool config) p) : p.callPanics = 0 :=
  (h.induct_on (fun p => Calm p.callerView)
    ⟨rfl, Nat.zero_le 1, fun h => absurd h (Nat.lt_irrefl 0), fun _ => rfl⟩
    fun _ _ _ calm step => calm_next calm step).no_panic

theorem no_call_panics_when_stopped_gracefully :
    Reachable (nextStoppedOnce ⟨1, 1⟩) (newPool ⟨1, 1⟩)
        ⟨[], true, [0], true, .awaitingWorker (some ⟨0, 0⟩), [.starting], [], ⟨1, 0, 0, 0⟩, 0, 1,
          [⟨0, 0⟩], [], 0, 0, []⟩ ∧
      Pool.callPanics ⟨[], true, [0], true, .awaitingWorker (some ⟨0, 0⟩), [.starting], [],
        ⟨1, 0, 0, 0⟩, 0, 1, [⟨0, 0⟩], [], 0, 0, []⟩ = 0 :=
  have h := reachable_of_run (nextStoppedOnce ⟨1, 1⟩)
    [.submitCall 0, .submitSelect 0, .stopGracefully, .stopGracefullyQuit] (by decide)
  ⟨h, no_call_panics_when_stopped_once _ h⟩

/-- `Stop` twice: the second `close(p.quit)` panics. A `SubmitFunc` call begun before
`StopGracefully` whose `select` runs after `close(p.jobQueue)` panics, and so does one begun
after. -/
theorem stop_twice_or_late_submit_panics :
    (run (next defaultPoolConfig) (newPool defaultPoolConfig) [.stop, .stop]).map (·.callPanics) =
      some 1 ∧
    (run (next defaultPoolConfig) (newPool defaultPoolConfig)
      [.submitCall 0, .stopGracefully, .submitSelect 0]).map (·.callPanics) = some 1 ∧
    (run (next defaultPoolConfig) (newPool defaultPoolConfig)
      [.stopGracefully, .submitCall 0, .submitSelect 0]).map (·.callPanics) = some 1 := by
  decide

/-! ### `Wait` -/

/-- A caller of `Pool.Wait`: not yet called, blocked in `p.wg.Wait()` with the jobs `Submit`
had accepted when it called, or returned. -/
inductive WaiterPc
  | idle
  | waiting (accepted : List Job)
  | returned (accepted : List Job)
  deriving DecidableEq, Repr

/-- The pool beside one caller of `Wait`, with the counter of `p.wg`: no code of the pool calls
`p.wg.Add` or `p.wg.Done`, so it keeps its zero value. -/
structure Waited where
  pool : Pool
  wgCounter : Nat
  waiter : WaiterPc
  deriving DecidableEq, Repr

inductive WaitedAction
  | pool (a : Action)
  | wait
  | waitReturn
  deriving DecidableEq, Repr

def startWaited (config : PoolConfig) : Waited := ⟨newPool config, 0, .idle⟩

def nextWaited (config : PoolConfig) (w : Waited) : WaitedAction → Option Waited
  | .pool a => (next config w.pool a).map fun p => { w with pool := p }
  | .wait => if w.waiter = .idle then some { w with waiter := .waiting w.pool.accepted } else none
  | .waitReturn =>
    match w.waiter with
    | .waiting accepted => if w.wgCounter = 0 then some { w with waiter := .returned accepted } else none
    | _ => none

/-- The job's `Execute` has returned or panicked. -/
def Pool.finished (p : Pool) (job : Job) : Prop := ∃ k ∈ p.tasks, k.job = job ∧ ∃ o, k.pc = .finished o

/-- In every run, `Wait` can return as soon as it is called, whatever the jobs are doing. -/
theorem wait_returns_at_once (config : PoolConfig) {w : Waited} {accepted : List Job}
    (h : Reachable (nextWaited config) (startWaited config) w) (hw : w.waiter = .waiting accepted) :
    nextWaited config w .waitReturn = some { w with waiter := .returned accepted } := by
  have zero : w.wgCounter = 0 := h.induct_on (fun w => w.wgCounter = 0) rfl fun w a w' zero step => by
    cases a with
    | pool a =>
      simp only [nextWaited, Option.map_eq_some'] at step
      obtain ⟨_, _, rfl⟩ := step
      exact zero
    | wait | waitReturn =>
      simp only [nextWaited] at step
      repeat' split at step
      all_goals cases step <;> exact zero
  simp [nextWaited, hw, zero]

/-- For every configuration: `Submit` hands a job to the idle dispatcher and `Wait` returns
before any worker has run it. -/
theorem wait_returns_before_accepted_job_runs (config : PoolConfig) :
    ∃ w, Reachable (nextWaited config) (startWaited config) w ∧
      ∃ accepted, w.waiter = .returned accepted ∧ ∃ job ∈ accepted, ¬ w.pool.finished job :=
  ⟨_, reachable_of_run _ [.pool (.submitCall 0), .pool (.submitSelect 0), .wait, .waitReturn] rfl, _, rfl, ⟨0, 0⟩,
    by simp [submit, startWaited, newPool], by simp [Pool.finished, submit, startWaited, newPool]⟩

end ToolKit.WorkerPool
