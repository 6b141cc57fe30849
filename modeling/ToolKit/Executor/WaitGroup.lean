import ToolKit.Run

/-! The `WaitGroup` wrapper of `SafeExecutor` (`http/client_test.go`). `Go` and `GoWithContext`
spawn, through the executor's `GoWithContext`, the wrapped function `func() { defer wg.Done();
fn() }`, which the executor's context check skips when the context is done. -/

namespace ToolKit.Executor.WaitGroup

/-- The context a task was started with: `context.Background()`, which is never done, or a
cancellable one, live or done. -/
inductive Ctx
  | background
  | live
  | done
  deriving DecidableEq, Repr

/-- A task: before the executor's context check, inside the wrapped function, or gone;
`skipped` says the check found the context done. -/
inductive TaskPc
  | checking
  | running
  | exited (skipped : Bool)
  deriving DecidableEq, Repr

structure Task where
  ctx : Ctx
  pc : TaskPc
  deriving DecidableEq, Repr

inductive WaiterPc
  | blocked
  | returned
  deriving DecidableEq, Repr

end ToolKit.Executor.WaitGroup

namespace ToolKit.Executor

open WaitGroup in
/-- The wrapper: the counter of its `sync.WaitGroup`, its `done` flag, the tasks it started and
the callers of `Wait`; `addPanics` counts the `Add` calls that panicked. -/
structure WaitGroup where
  counter : Int
  done : Bool
  tasks : List Task
  waiters : List WaiterPc
  addPanics : Nat
  deriving DecidableEq, Repr

namespace WaitGroup

/-- `NewWaitGroup`. -/
def newWaitGroup : WaitGroup := ⟨0, false, [], [], 0⟩

/-- `GoWithContext`: `Add(1)`, which panics once `Wait` has set `done`, then the spawn. -/
def goWithContext (wg : WaitGroup) (ctx : Ctx) : WaitGroup :=
  if wg.done then { wg with addPanics := wg.addPanics + 1 }
  else { wg with counter := wg.counter + 1, tasks := wg.tasks ++ [⟨ctx, .checking⟩] }

/-- `Go`: `GoWithContext` under `context.Background()`. -/
def go (wg : WaitGroup) : WaitGroup := wg.goWithContext .background

inductive Action
  | go
  | goWithContext (ctx : Ctx)
  | cancel (task : Nat)
  | check (task : Nat)
  | finish (task : Nat)
  | wait
  | waitReturn (waiter : Nat)
  deriving DecidableEq, Repr

/-- A step of a caller or of a task. `check` is the executor's context check, which returns
without calling the wrapped function when the context is done; `finish` is the wrapped
function's end, by return or by panic: its deferred `Done` runs either way. `Wait` sets `done`
and blocks until the counter is zero. -/
def next (wg : WaitGroup) : Action → Option WaitGroup
  | .go => some wg.go
  | .goWithContext ctx => some (wg.goWithContext ctx)
  | .cancel t =>
    match wg.tasks[t]? with
    | some ⟨.live, pc⟩ => some { wg with tasks := wg.tasks.set t ⟨.done, pc⟩ }
    | _ => none
  | .check t =>
    match wg.tasks[t]? with
    | some ⟨ctx, .checking⟩ =>
      some { wg with tasks := wg.tasks.set t ⟨ctx, if ctx = .done then .exited true else .running⟩ }
    | _ => none
  | .finish t =>
    match wg.tasks[t]? with
    | some ⟨ctx, .running⟩ =>
      some { wg with counter := wg.counter - 1, tasks := wg.tasks.set t ⟨ctx, .exited false⟩ }
    | _ => none
  | .wait => some { wg with done := true, waiters := wg.waiters ++ [.blocked] }
  | .waitReturn w =>
    match wg.waiters[w]? with
    | some .blocked => if wg.counter = 0 then some { wg with waiters := wg.waiters.set w .returned } else none
    | _ => none

def Task.unfinished (k : Task) : Bool :=
  match k.pc with
  | .checking | .running => true
  | .exited _ => false

def Task.skipped (k : Task) : Bool := k.pc = .exited true

@[simp] theorem goWithContext_waiters (wg : WaitGroup) (ctx : Ctx) : (wg.goWithContext ctx).waiters = wg.waiters := by
  unfold goWithContext
  split <;> rfl

/-- What one step can do: start a task, cancel a task's context, pass a task's context check,
end a task's wrapped function, or add or release a caller of `Wait`. -/
theorem next_cases {wg wg' : WaitGroup} {a : Action} (step : next wg a = some wg') :
    (∃ ctx, wg' = wg.goWithContext ctx) ∨
    (∃ t pc, wg.tasks[t]? = some ⟨.live, pc⟩ ∧ wg' = { wg with tasks := wg.tasks.set t ⟨.done, pc⟩ }) ∨
    (∃ t ctx, wg.tasks[t]? = some ⟨ctx, .checking⟩ ∧
      wg' = { wg with tasks := wg.tasks.set t ⟨ctx, if ctx = .done then .exited true else .running⟩ }) ∨
    (∃ t ctx, wg.tasks[t]? = some ⟨ctx, .running⟩ ∧
      wg' = { wg with counter := wg.counter - 1, tasks := wg.tasks.set t ⟨ctx, .exited false⟩ }) ∨
    wg' = { wg with done := true, waiters := wg.waiters ++ [.blocked] } ∨
    (∃ w, wg.waiters[w]? = some .blocked ∧ wg.counter = 0 ∧
      wg' = { wg with waiters := wg.waiters.set w .returned }) := by
  cases a with
  | go => exact .inl ⟨_, (Option.some.inj step).symm⟩
  | goWithContext ctx => exact .inl ⟨ctx, (Option.some.inj step).symm⟩
  | wait => exact .inr (.inr (.inr (.inr (.inl (Option.some.inj step).symm))))
  | cancel t =>
    simp only [next] at step
    split at step <;> cases step
    exact .inr (.inl ⟨t, _, ‹_›, rfl⟩)
  | check t =>
    simp only [next] at step
    split at step <;> cases step
    exact .inr (.inr (.inl ⟨t, _, ‹_›, rfl⟩))
  | finish t =>
    simp only [next] at step
    split at step <;> cases step
    exact .inr (.inr (.inr (.inl ⟨t, _, ‹_›, rfl⟩)))
  | waitReturn w =>
    simp only [next] at step
    repeat' split at step
    all_goals cases step
    exact .inr (.inr (.inr (.inr (.inr ⟨w, ‹_›, ‹_›, rfl⟩))))

/-- The counter counts the tasks that have not exited and those the context check skipped:
each `Add(1)` is matched by a `Done` only for a task whose wrapped function ran. -/
structure Tracked (wg : WaitGroup) : Prop where
  counter_eq : wg.counter = wg.tasks.countP Task.unfinished + wg.tasks.countP Task.skipped

theorem tracked_goWithContext {wg : WaitGroup} (ctx : Ctx) (h : Tracked wg) :
    Tracked (wg.goWithContext ctx) := by
  unfold goWithContext
  split
  · exact ⟨h.1⟩
  · exact ⟨by simp [List.countP_append, Task.unfinished, Task.skipped, h.1]; omega⟩

theorem tracked_next {wg wg' : WaitGroup} {a : Action} (h : Tracked wg) (step : next wg a = some wg') :
    Tracked wg' := by
  obtain ⟨counter⟩ := h
  rcases next_cases step with ⟨ctx, rfl⟩ | ⟨t, pc, hk, rfl⟩ | ⟨t, ctx, hk, rfl⟩ | ⟨t, ctx, hk, rfl⟩ | rfl |
    ⟨w, -, -, rfl⟩
  · exact tracked_goWithContext ctx ⟨counter⟩
  · have u := countP_set_add ⟨.done, pc⟩ Task.unfinished hk
    have s := countP_set_add ⟨.done, pc⟩ Task.skipped hk
    simp only [Task.unfinished, Task.skipped] at u s
    exact ⟨by dsimp only; omega⟩
  · have u := countP_set_add ⟨ctx, if ctx = .done then .exited true else .running⟩ Task.unfinished hk
    have s := countP_set_add ⟨ctx, if ctx = .done then .exited true else .running⟩ Task.skipped hk
    exact ⟨by dsimp only; cases ctx <;> simp [Task.unfinished, Task.skipped] at u s ⊢ <;> omega⟩
  · have u := countP_set_add ⟨ctx, .exited false⟩ Task.unfinished hk
    have s := countP_set_add ⟨ctx, .exited false⟩ Task.skipped hk
    simp [Task.unfinished, Task.skipped] at u s
    exact ⟨by dsimp only; omega⟩
  all_goals exact ⟨counter⟩

/-- In every run, the counter is the number of tasks not yet exited plus the number whose
context check skipped the wrapped function. -/
theorem counter_tracks_unfinished_and_skipped {wg : WaitGroup} (h : Reachable next newWaitGroup wg) :
    wg.counter = wg.tasks.countP Task.unfinished + wg.tasks.countP Task.skipped :=
  (h.induct_on Tracked ⟨rfl⟩ fun _ _ _ inv step => tracked_next inv step).counter_eq

/-- A skipped task stays skipped. -/
theorem skipped_le_next {wg wg' : WaitGroup} {a : Action} (step : next wg a = some wg') :
    wg.tasks.countP Task.skipped ≤ wg'.tasks.countP Task.skipped := by
  rcases next_cases step with ⟨ctx, rfl⟩ | ⟨t, pc, hk, rfl⟩ | ⟨t, ctx, hk, rfl⟩ | ⟨t, ctx, hk, rfl⟩ | rfl |
    ⟨w, -, -, rfl⟩
  · unfold goWithContext
    split <;> simp [List.countP_append]
  · have := countP_set_add ⟨.done, pc⟩ Task.skipped hk
    simp only [Task.skipped] at this
    dsimp only
    omega
  · have := countP_set_add ⟨ctx, if ctx = .done then .exited true else .running⟩ Task.skipped hk
    dsimp only
    cases ctx <;> simp [Task.skipped] at this ⊢ <;> omega
  · have := countP_set_add ⟨ctx, .exited false⟩ Task.skipped hk
    simp [Task.skipped] at this
    dsimp only
    omega
  all_goals exact le_refl _

/-- One task started with `Go` runs to its end, then `Wait` is called. -/
def finishedThenWaited : WaitGroup :=
  (run next newWaitGroup [.go, .check 0, .finish 0, .wait]).getD newWaitGroup

/-- `GoWithContext` with a context that is already done, then `Wait`: the executor skips the
wrapped function, so `Done` never runs, and `Wait` blocks for ever although every task has
exited. -/
theorem cancelled_task_blocks_wait :
    ∃ wg, Reachable next newWaitGroup wg ∧ wg.tasks.all (fun k => !k.unfinished) ∧
      ∀ wg', Reachable next wg wg' → wg'.waiters[0]? = some .blocked := by
  refine ⟨⟨1, true, [⟨.done, .exited true⟩], [.blocked], 0⟩,
    reachable_of_run _ [.goWithContext .done, .check 0, .wait] (by decide), by decide, fun wg' h => ?_⟩
  refine (h.induct_on (fun wg => Tracked wg ∧ 0 < wg.tasks.countP Task.skipped ∧
      wg.waiters[0]? = some .blocked) ⟨⟨rfl⟩, by decide, rfl⟩ ?_).2.2
  rintro wg a wg' ⟨tracked, skipped, blocked⟩ step
  refine ⟨tracked_next tracked step, Nat.lt_of_lt_of_le skipped (skipped_le_next step), ?_⟩
  rcases next_cases step with ⟨ctx, rfl⟩ | ⟨_, _, _, rfl⟩ | ⟨_, _, _, rfl⟩ | ⟨_, _, _, rfl⟩ | rfl |
    ⟨w, -, zero, rfl⟩
  · simpa using blocked
  · exact blocked
  · exact blocked
  · exact blocked
  · simpa [List.getElem?_append_left (List.length_pos_of_mem (List.getElem?_mem blocked))] using blocked
  · have := tracked.counter_eq
    omega

end WaitGroup

end ToolKit.Executor
