import ToolKit.Run

/-! One call of `SafeExecutor.GoWithTimeout(fn, timeout)` (`http/client_test.go`) beside the
task it starts. The call's deferred `cancel()` runs as it returns, whatever the task has done by
then. Time is measured from the call. -/

namespace ToolKit.Executor.Timeout

inductive CallerPc
  | spawning
  | spawned
  | returned
  deriving DecidableEq, Repr

inductive TaskPc
  | unstarted
  | checking
  | ran
  | skipped
  deriving DecidableEq, Repr

/-- The call, its context and its task. `expired` says the deadline's timer has cancelled the
context; `caller = .returned` says the deferred `cancel()` has. -/
structure TimeoutCall where
  timeout : Nat
  now : Nat
  caller : CallerPc
  expired : Bool
  task : TaskPc
  deriving DecidableEq, Repr

/-- `GoWithTimeout(fn, timeout)` as called. -/
def goWithTimeout (timeout : Nat) : TimeoutCall := ⟨timeout, 0, .spawning, false, .unstarted⟩

/-- Whether `ctx.Done()` is closed: the deadline's timer has fired, or the call has returned. -/
def TimeoutCall.ctxDone (c : TimeoutCall) : Bool := c.expired || c.caller = .returned

/-- `cancel` is the call returning: its deferred `cancel()` closes `ctx.Done()`. -/
inductive Action
  | elapse (d : Nat)
  | spawn
  | cancel
  | expire
  | check
  deriving DecidableEq, Repr

def next (c : TimeoutCall) : Action → Option TimeoutCall
  | .elapse d => some { c with now := c.now + d }
  | .spawn => if c.caller = .spawning then some { c with caller := .spawned, task := .checking } else none
  | .cancel => if c.caller = .spawned then some { c with caller := .returned } else none
  | .expire => if c.timeout ≤ c.now then some { c with expired := true } else none
  | .check =>
    if c.task = .checking then some { c with task := if c.ctxDone then .skipped else .ran } else none

/-- Whatever the timeout, the task can skip `fn` before any time has passed: `GoWithTimeout`
returns, its deferred `cancel()` closes `ctx.Done()`, and only then does the task check it. -/
theorem returned_call_skips_fn (timeout : Nat) :
    ∃ c, Reachable next (goWithTimeout timeout) c ∧ c.task = .skipped ∧ c.now = 0 :=
  ⟨_, reachable_of_run _ [.spawn, .cancel, .check] rfl, rfl, rfl⟩

end ToolKit.Executor.Timeout
