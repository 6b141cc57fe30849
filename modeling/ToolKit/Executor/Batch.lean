import ToolKit.Run

/-! `Batch` of `goroutine/examples/basic/basic_example.go`, driven by one caller that makes some
`Add` calls and then calls `Wait`. Each task runs inside `WaitGroup.Go`, whose deferred `Done`
runs whether `fn` returns or panics; the executor then recovers the panic. -/

namespace ToolKit.Executor.Batch

structure BatchResult where
  index : Nat
  value : Nat
  error : Option Nat
  deriving DecidableEq, Repr

inductive TaskPc
  | computing
  | appended
  | exited
  deriving DecidableEq, Repr

/-- A task: the index `Add` gave it, what its `fn` returns or whether it panics, and where it
is. -/
structure Task where
  index : Nat
  value : Nat
  error : Option Nat
  panics : Bool
  pc : TaskPc
  deriving DecidableEq, Repr

inductive CallerPc
  | adding
  | waiting
  | returned (results : List BatchResult) (errors : List Nat)
  deriving DecidableEq, Repr

end ToolKit.Executor.Batch

namespace ToolKit.Executor

open Batch in
/-- The batch, the counter of its `WaitGroup`, its tasks in `Add` order, and its caller. -/
structure Batch where
  results : List BatchResult
  errors : List Nat
  counter : Nat
  tasks : List Task
  caller : CallerPc
  deriving DecidableEq, Repr

namespace Batch

def newBatch : Batch := ⟨[], [], 0, [], .adding⟩

/-- `Add(fn)` for an `fn` that returns `value` and `error`, or panics. The index is
`len(b.results)`, read outside `b.mu`, as the last completed append left it. -/
def add (b : Batch) (value : Nat) (error : Option Nat) (panics : Bool) : Batch :=
  { b with counter := b.counter + 1,
           tasks := b.tasks ++ [⟨b.results.length, value, error, panics, .computing⟩] }

/-- The task's locked section: `fn` has returned, and its result and error are appended. -/
def append (b : Batch) (k : Task) : Batch :=
  { b with results := b.results ++ [⟨k.index, k.value, k.error⟩],
           errors := match k.error with
             | some e => b.errors ++ [e]
             | none => b.errors }

inductive Action
  | add (value : Nat) (error : Option Nat) (panics : Bool)
  | append (task : Nat)
  | panic (task : Nat)
  | done (task : Nat)
  | wait
  | waitReturn
  deriving DecidableEq, Repr

/-- One step. `append` is a task's locked section once `fn` has returned, and `done` the deferred
`Done` of `WaitGroup.Go` after it; `panic` is `fn` panicking, which unwinds through that `Done`
before the executor recovers it. -/
def next (b : Batch) : Action → Option Batch
  | .add value error panics => if b.caller = .adding then some (b.add value error panics) else none
  | .append t =>
    match b.tasks[t]? with
    | some k =>
      if k.pc = .computing ∧ k.panics = false then
        some { b.append k with tasks := b.tasks.set t { k with pc := .appended } }
      else none
    | none => none
  | .panic t =>
    match b.tasks[t]? with
    | some k =>
      if k.pc = .computing ∧ k.panics = true then
        some { b with counter := b.counter - 1, tasks := b.tasks.set t { k with pc := .exited } }
      else none
    | none => none
  | .done t =>
    match b.tasks[t]? with
    | some k =>
      if k.pc = .appended then
        some { b with counter := b.counter - 1, tasks := b.tasks.set t { k with pc := .exited } }
      else none
    | none => none
  | .wait => if b.caller = .adding then some { b with caller := .waiting } else none
  | .waitReturn =>
    if b.caller = .waiting ∧ b.counter = 0 then some { b with caller := .returned b.results b.errors } else none

/-- What a function returned. -/
def Task.payload (k : Task) : Nat × Option Nat := (k.value, k.error)

/-- A task whose `fn` returned `x` and whose result is already in `results`. -/
def Task.holds (x : Nat × Option Nat) (k : Task) : Bool := k.pc ≠ .computing ∧ k.panics = false ∧ k.payload = x

/-- A task that has not yet run `Done`. -/
def Task.live (k : Task) : Bool := k.pc ≠ .exited

def BatchResult.payload (r : BatchResult) : Nat × Option Nat := (r.value, r.error)

def BatchResult.holds (x : Nat × Option Nat) (r : BatchResult) : Bool := r.payload = x

theorem append_results_countP (b : Batch) (k : Task) (x : Nat × Option Nat) :
    (b.append k).results.countP (BatchResult.holds x) =
      b.results.countP (BatchResult.holds x) + if k.payload = x then 1 else 0 := by
  simp [Batch.append, List.countP_append, List.countP_singleton, BatchResult.holds, BatchResult.payload,
    Task.payload]

theorem append_errors (b : Batch) (k : Task) (h : b.errors = b.results.filterMap BatchResult.error) :
    (b.append k).errors = (b.append k).results.filterMap BatchResult.error := by
  simp only [Batch.append, List.filterMap_append, h]
  split <;> simp_all

/-- The results and errors hold exactly what the tasks past their `fn` returned, the counter
counts the tasks that have not run `Done`, and what `Wait` returned is the final state. -/
structure Recorded (b : Batch) : Prop where
  results_count : ∀ x, b.results.countP (BatchResult.holds x) = b.tasks.countP (Task.holds x)
  errors_eq : b.errors = b.results.filterMap BatchResult.error
  counter_eq : b.counter = b.tasks.countP Task.live
  returned : ∀ results errors, b.caller = .returned results errors →
    results = b.results ∧ errors = b.errors ∧ b.tasks.countP Task.live = 0

/-- A task that has not run `Done` is counted live. -/
theorem countP_live_ne_zero {tasks : List Task} {t : Nat} {k : Task} (hk : tasks[t]? = some k)
    (live : k.pc ≠ .exited) : tasks.countP Task.live ≠ 0 := fun zero =>
  absurd (List.countP_eq_zero.mp zero k (List.getElem?_mem hk)) (by simpa [Task.live] using live)

theorem recorded_next {b b' : Batch} {a : Action} (h : Recorded b) (step : next b a = some b') :
    Recorded b' := by
  obtain ⟨results, errors, counter, returned⟩ := h
  cases a with
  | add value error panics =>
    simp only [next] at step
    split at step <;> cases step
    rename_i adding
    refine ⟨fun x => ?_, errors, ?_, fun _ _ h => by simp [add, adding] at h⟩ <;>
      simp [add, List.countP_append, Task.holds, Task.live, results, counter]
  | append t =>
    simp only [next] at step
    split at step <;> [skip; cases step]
    rename_i k hk
    split at step <;> cases step
    rename_i returns
    refine ⟨fun x => ?_, append_errors b k errors, ?_,
      fun _ _ h => absurd (returned _ _ h).2.2 (countP_live_ne_zero hk (by simp [returns.1]))⟩
    · have moved := countP_set_add { k with pc := .appended } (Task.holds x) hk
      have before : Task.holds x k = false := by simp [Task.holds, returns.1]
      have after : Task.holds x { k with pc := .appended } = decide (k.payload = x) := by
        simp [Task.holds, Task.payload, returns.2]
      simp only [before, after, Bool.false_eq_true, if_false, Nat.add_zero, decide_eq_true_eq] at moved
      rw [append_results_countP, results x]
      dsimp only
      omega
    · have same := countP_set_add { k with pc := .appended } Task.live hk
      have live : ∀ pc, pc ≠ .exited → Task.live { k with pc := pc } = Task.live k := fun pc ne => by
        simp [Task.live, ne, returns.1]
      simp only [live .appended nofun, Nat.add_right_cancel_iff] at same
      exact counter.trans same.symm
  | panic t | done t =>
    simp only [next] at step
    split at step <;> [skip; cases step]
    rename_i k hk
    split at step <;> cases step
    rename_i ended
    refine ⟨fun x => ?_, errors, ?_,
      fun _ _ h => absurd (returned _ _ h).2.2 (countP_live_ne_zero hk (by simp [ended]))⟩
    · have moved := countP_set_add { k with pc := .exited } (Task.holds x) hk
      have same : Task.holds x { k with pc := .exited } = Task.holds x k := by
        simp [Task.holds, Task.payload, ended]
      simp only [same, Nat.add_right_cancel_iff] at moved
      exact (results x).trans moved.symm
    · have gone := countP_set_add { k with pc := .exited } Task.live hk
      have was : Task.live k = true := by simp [Task.live, ended]
      have now : Task.live { k with pc := .exited } = false := by simp [Task.live]
      simp only [was, now, if_true, Bool.false_eq_true, if_false, Nat.add_zero] at gone
      dsimp only
      omega
  | wait =>
    simp only [next] at step
    split at step <;> cases step
    exact ⟨results, errors, counter, nofun⟩
  | waitReturn =>
    simp only [next] at step
    split at step <;> cases step
    refine ⟨results, errors, counter, fun _ _ h => ?_⟩
    cases h
    exact ⟨rfl, rfl, counter ▸ ‹_ ∧ _›.2⟩

theorem recorded_reachable {b : Batch} (h : Reachable next newBatch b) : Recorded b :=
  h.induct_on Recorded (⟨fun _ => rfl, rfl, rfl, fun _ _ h => by cases h⟩ : Recorded newBatch)
    fun _ _ _ inv step => recorded_next inv step

/-- However the tasks interleave with the `Add` calls, the slices `Wait` returns hold the value
and error of each function that returned exactly once, and none of a function that panicked; the
errors are the non-nil ones among them. -/
theorem wait_returns_every_result {b : Batch} {results : List BatchResult} {errors : List Nat}
    (h : Reachable next newBatch b) (ret : b.caller = .returned results errors) :
    List.Perm (results.map BatchResult.payload) ((b.tasks.filter fun k => !k.panics).map Task.payload) ∧
      errors = results.filterMap BatchResult.error := by
  obtain ⟨count, errs, -, returned⟩ := recorded_reachable h
  obtain ⟨rfl, rfl, none_live⟩ := returned results errors ret
  have exited : ∀ k ∈ b.tasks, k.pc = .exited := fun k hk => by
    simpa [Task.live] using List.countP_eq_zero.mp none_live k hk
  refine ⟨List.perm_iff_count.mpr fun x => ?_, errs⟩
  simp only [List.count, List.countP_map, List.countP_filter]
  calc _ = b.results.countP (BatchResult.holds x) := List.countP_congr fun _ _ => Iff.rfl
    _ = b.tasks.countP (Task.holds x) := count x
    _ = _ := List.countP_congr fun k hk => by
      simp [Task.holds, Task.payload, exited k hk]
      exact and_comm.trans (and_congr_left fun _ => (@decide_eq_true_iff ((k.value, k.error) = x) _).symm)

/-- Three functions, the second failing with error 7 and the third panicking, whose tasks end in
the reverse order. -/
def reversedBatch : Batch :=
  (run next newBatch [.add 10 none false, .add 20 (some 7) false, .add 30 none true, .panic 2, .append 1,
    .done 1, .append 0, .done 0, .wait, .waitReturn]).getD newBatch

theorem wait_returns_every_result_reversed :
    Reachable next newBatch reversedBatch ∧
      reversedBatch.caller = .returned [⟨0, 20, some 7⟩, ⟨0, 10, none⟩] [7] ∧
      List.Perm (([⟨0, 20, some 7⟩, ⟨0, 10, none⟩] : List BatchResult).map BatchResult.payload)
        ((reversedBatch.tasks.filter fun k => !k.panics).map Task.payload) ∧
      [7] = ([⟨0, 20, some 7⟩, ⟨0, 10, none⟩] : List BatchResult).filterMap BatchResult.error :=
  have h : Reachable next newBatch reversedBatch :=
    reachable_of_run _ [.add 10 none false, .add 20 (some 7) false, .add 30 none true, .panic 2, .append 1,
      .done 1, .append 0, .done 0, .wait, .waitReturn] rfl
  ⟨h, rfl, wait_returns_every_result h rfl⟩

/-- Two `Add` calls before either task has appended its result: both read `len(b.results) = 0`,
and `Wait` returns two results with `Index` 0. -/
theorem concurrent_adds_share_index :
    ∃ b, Reachable next newBatch b ∧ b.tasks.length = 2 ∧
      ∃ results errors, b.caller = .returned results errors ∧ results.map BatchResult.index = [0, 0] :=
  ⟨_, reachable_of_run _ [.add 10 none false, .add 20 none false, .append 0, .done 0, .append 1, .done 1, .wait,
    .waitReturn] rfl, rfl, _, _, rfl, rfl⟩

end Batch

end ToolKit.Executor
