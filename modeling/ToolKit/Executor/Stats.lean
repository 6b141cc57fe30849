import ToolKit.Run

/-! The counters of `SafeExecutor` under concurrent spawns, exits and `ResetStats`. Each step is
one locked section of `GoWithContext`, of a task's deferred function or of `ResetStats`, or the
`go` statement that launches a task whose counters were already bumped. -/

namespace ToolKit.Executor

/-- The counters of `Stats`. `LastPanicTime` and `LastPanicGoroutine` are written by
`handlePanic` but read by nothing modelled here. -/
structure Stats where
  totalGoroutines : Int
  activeGoroutines : Int
  panicCount : Int
  completedCount : Int
  deriving DecidableEq, Repr

/-- A spawned task: counted by `GoWithContext` but not yet launched by its `go` statement,
running its body, in its deferred function between the decrement and the completion count, or
gone. -/
inductive TaskPc
  | pending
  | running
  | settling (panicked : Bool)
  | exited
  deriving DecidableEq, Repr

structure SafeExecutor where
  stats : Stats
  tasks : List TaskPc
  deriving DecidableEq, Repr

inductive Action
  | spawn
  | launch (task : Nat)
  | exit (task : Nat) (panicked : Bool)
  | settle (task : Nat)
  | resetStats
  deriving DecidableEq, Repr

def newSafeExecutor : SafeExecutor := ⟨⟨0, 0, 0, 0⟩, []⟩

def getStats (e : SafeExecutor) : Stats := e.stats

def next (e : SafeExecutor) : Action → Option SafeExecutor
  | .spawn =>
    some { stats := { e.stats with totalGoroutines := e.stats.totalGoroutines + 1,
                                   activeGoroutines := e.stats.activeGoroutines + 1 }
           tasks := e.tasks ++ [.pending] }
  | .launch t =>
    match e.tasks[t]? with
    | some .pending => some { e with tasks := e.tasks.set t .running }
    | _ => none
  | .exit t panicked =>
    match e.tasks[t]? with
    | some .running =>
      some { stats := { e.stats with activeGoroutines := e.stats.activeGoroutines - 1 }
             tasks := e.tasks.set t (.settling panicked) }
    | _ => none
  | .settle t =>
    match e.tasks[t]? with
    | some (.settling panicked) =>
      some { stats := if panicked then { e.stats with panicCount := e.stats.panicCount + 1 }
                      else { e.stats with completedCount := e.stats.completedCount + 1 }
             tasks := e.tasks.set t .exited }
    | _ => none
  | .resetStats => some { e with stats := ⟨0, 0, 0, 0⟩ }

/-- Counted in `ActiveGoroutines`: the task has not yet passed the decrement of its deferred
function. -/
def TaskPc.isActive : TaskPc → Bool
  | .pending | .running => true
  | _ => false

def TaskPc.isExited : TaskPc → Bool
  | .exited => true
  | _ => false

/-- No spawned task is still running: each has passed the decrement of its deferred function. -/
def SafeExecutor.idle (e : SafeExecutor) : Bool := e.tasks.all fun t => !t.isActive

/-- Every spawned task has finished its deferred function. -/
def SafeExecutor.quiet (e : SafeExecutor) : Bool := e.tasks.all TaskPc.isExited

/-- `next` for the runs that call `ResetStats` only once every spawned task has finished its
deferred function. Steps are whole locked sections, so no `ResetStats` overlaps another call's:
one that did would leave that call holding the old record's lock while it writes the new record. -/
def nextQuietReset (e : SafeExecutor) (a : Action) : Option SafeExecutor :=
  match a with
  | .resetStats => if e.quiet then next e a else none
  | _ => next e a

/-- The counters against the tasks: `ActiveGoroutines` counts those not yet in their deferred
function, and after the last reset the other two count the tasks spawned since and those of them
that exited. -/
structure Accounted (e : SafeExecutor) : Prop where
  active : e.stats.activeGoroutines = e.tasks.countP TaskPc.isActive
  since : ∃ k : Nat, k ≤ e.tasks.countP TaskPc.isExited ∧
    e.stats.totalGoroutines = e.tasks.length - k ∧
    e.stats.completedCount + e.stats.panicCount = e.tasks.countP TaskPc.isExited - k

theorem countP_isActive_eq_zero {e : SafeExecutor} (idle : e.idle = true) :
    e.tasks.countP TaskPc.isActive = 0 :=
  List.countP_eq_zero.mpr fun x hx => by simpa using List.all_eq_true.mp idle x hx

theorem idle_of_quiet {e : SafeExecutor} (quiet : e.quiet = true) : e.idle = true :=
  List.all_eq_true.mpr fun x hx => by
    have := List.all_eq_true.mp quiet x hx
    cases x <;> simp_all [TaskPc.isActive, TaskPc.isExited]

theorem accounted_next {e e' : SafeExecutor} {a : Action} (h : Accounted e)
    (hq : a = .resetStats → e.quiet) (hs : next e a = some e') : Accounted e' := by
  obtain ⟨active, k, hk, total, settled⟩ := h
  cases a with
  | spawn =>
    cases hs
    refine ⟨?_, k, ?_, ?_, ?_⟩ <;> simp [List.countP_append, TaskPc.isActive, TaskPc.isExited] at * <;> omega
  | launch t =>
    simp only [next] at hs
    split at hs <;> cases hs
    rename_i pending
    have r := countP_set_add .running TaskPc.isActive pending
    have x := countP_set_add .running TaskPc.isExited pending
    refine ⟨?_, k, ?_, ?_, ?_⟩ <;> simp [TaskPc.isActive, TaskPc.isExited] at * <;> omega
  | exit t panicked =>
    simp only [next] at hs
    split at hs <;> cases hs
    rename_i running
    have r := countP_set_add (.settling panicked) TaskPc.isActive running
    have x := countP_set_add (.settling panicked) TaskPc.isExited running
    refine ⟨?_, k, ?_, ?_, ?_⟩ <;> simp [TaskPc.isActive, TaskPc.isExited] at * <;> omega
  | settle t =>
    simp only [next] at hs
    split at hs <;> cases hs
    rename_i panicked settling
    have r := countP_set_add .exited TaskPc.isActive settling
    have x := countP_set_add .exited TaskPc.isExited settling
    refine ⟨?_, k, ?_, ?_, ?_⟩ <;> cases panicked <;>
      simp [TaskPc.isActive, TaskPc.isExited] at * <;> omega
  | resetStats =>
    cases hs
    have quiet := hq rfl
    have exited := List.countP_eq_length.mpr (List.all_eq_true.mp quiet)
    refine ⟨?_, e.tasks.length, ?_, ?_, ?_⟩ <;> simp [countP_isActive_eq_zero (idle_of_quiet quiet), exited]

theorem nextQuietReset_some {e e' : SafeExecutor} {a : Action} (h : nextQuietReset e a = some e') :
    next e a = some e' ∧ (a = .resetStats → e.quiet) := by
  cases a <;> simp only [nextQuietReset] at h <;> try exact ⟨h, nofun⟩
  split at h
  · exact ⟨h, fun _ => ‹_›⟩
  · cases h

theorem accounted_reachable {e : SafeExecutor}
    (h : Reachable nextQuietReset newSafeExecutor e) : Accounted e :=
  h.induct_on Accounted (by refine ⟨?_, 0, ?_, ?_, ?_⟩ <;> decide) fun _ _ _ inv step =>
    accounted_next inv (nextQuietReset_some step).2 (nextQuietReset_some step).1

/-- In every run that calls `ResetStats` only once every spawned task has finished its deferred
function, every snapshot has a non-negative active count and no more finished tasks than spawned
ones; the active count is zero once no task is still running, and the finished tasks equal the
spawned ones once every task has finished its deferred function. -/
theorem stats_consistent_under_quiet_resets {e : SafeExecutor}
    (h : Reachable nextQuietReset newSafeExecutor e) :
    0 ≤ (getStats e).activeGoroutines ∧
      (getStats e).completedCount + (getStats e).panicCount ≤ (getStats e).totalGoroutines ∧
      (e.idle = true → (getStats e).activeGoroutines = 0) ∧
      (e.quiet = true →
        (getStats e).completedCount + (getStats e).panicCount = (getStats e).totalGoroutines) := by
  obtain ⟨active, k, hk, total, settled⟩ := accounted_reachable h
  have bound : e.tasks.countP TaskPc.isExited ≤ e.tasks.length := List.countP_le_length _
  refine ⟨by simp only [getStats, active]; omega, by simp only [getStats]; omega,
    fun idle => by simp [getStats, active, countP_isActive_eq_zero idle], fun quiet => ?_⟩
  have exited := List.countP_eq_length.mpr (List.all_eq_true.mp quiet)
  simp only [getStats]
  omega

theorem stats_consistent_after_one_task :
    Reachable nextQuietReset newSafeExecutor ⟨⟨1, 0, 0, 1⟩, [.exited]⟩ ∧
      (0 ≤ (getStats ⟨⟨1, 0, 0, 1⟩, [.exited]⟩).activeGoroutines ∧
        (getStats ⟨⟨1, 0, 0, 1⟩, [.exited]⟩).completedCount +
            (getStats ⟨⟨1, 0, 0, 1⟩, [.exited]⟩).panicCount ≤
          (getStats ⟨⟨1, 0, 0, 1⟩, [.exited]⟩).totalGoroutines ∧
        (SafeExecutor.idle ⟨⟨1, 0, 0, 1⟩, [.exited]⟩ = true →
          (getStats ⟨⟨1, 0, 0, 1⟩, [.exited]⟩).activeGoroutines = 0) ∧
        (SafeExecutor.quiet ⟨⟨1, 0, 0, 1⟩, [.exited]⟩ = true →
          (getStats ⟨⟨1, 0, 0, 1⟩, [.exited]⟩).completedCount +
              (getStats ⟨⟨1, 0, 0, 1⟩, [.exited]⟩).panicCount =
            (getStats ⟨⟨1, 0, 0, 1⟩, [.exited]⟩).totalGoroutines)) :=
  have h : Reachable nextQuietReset newSafeExecutor ⟨⟨1, 0, 0, 1⟩, [.exited]⟩ :=
    reachable_of_run _ [.spawn, .launch 0, .exit 0 false, .settle 0] (by decide)
  ⟨h, stats_consistent_under_quiet_resets h⟩

/-- `ResetStats` between a `GoWithContext`'s counter bump and its `go` statement, while the only
task is not yet launched: the task's exit takes `ActiveGoroutines` to -1 and its completion pushes
`CompletedCount` past `TotalGoroutines`. And with no reset at all, a task between the two
sections of its deferred function leaves no task running and `CompletedCount` below
`TotalGoroutines`. -/
theorem reset_before_launch_breaks_counters :
    (∃ e₀ e₁ e, Reachable next newSafeExecutor e₀ ∧ e₀.tasks = [.pending] ∧ next e₀ .resetStats = some e₁ ∧
      Reachable next e₁ e ∧ e.quiet = true ∧ (getStats e).activeGoroutines = -1 ∧
      (getStats e).completedCount + (getStats e).panicCount > (getStats e).totalGoroutines) ∧
    ∃ e, Reachable next newSafeExecutor e ∧ e.idle = true ∧
      (getStats e).completedCount + (getStats e).panicCount < (getStats e).totalGoroutines :=
  ⟨⟨⟨⟨1, 1, 0, 0⟩, [.pending]⟩, ⟨⟨0, 0, 0, 0⟩, [.pending]⟩, ⟨⟨0, -1, 0, 1⟩, [.exited]⟩,
    reachable_of_run _ [.spawn] rfl, rfl, rfl,
    reachable_of_run _ [.launch 0, .exit 0 false, .settle 0] (by decide), rfl, rfl, by decide⟩,
   ⟨⟨⟨1, 0, 0, 0⟩, [.settling false]⟩, reachable_of_run _ [.spawn, .launch 0, .exit 0 false] (by decide),
    rfl, by decide⟩⟩

end ToolKit.Executor
