import ToolKit.Pool.Model

/-! What the pool's statistics count: `CompletedJobs` and `FailedJobs` are bumped at the end of a
job task whose `Execute` returned, and a panicking `Execute` unwinds past the update. -/

namespace ToolKit.WorkerPool

def Task.finishedWith (outcome : Outcome) (k : Task) : Bool := k.pc = .finished outcome

theorem recordJob_completed (s : PoolStats) (failed : Bool) (elapsed : Nat) :
    (recordJob s failed elapsed).completedJobs = s.completedJobs + if failed then 0 else 1 := by
  unfold recordJob
  cases failed <;> simp only [Bool.false_eq_true, if_false, if_true] <;> split <;> rfl

theorem recordJob_failed (s : PoolStats) (failed : Bool) (elapsed : Nat) :
    (recordJob s failed elapsed).failedJobs = s.failedJobs + if failed then 1 else 0 := by
  unfold recordJob
  cases failed <;> simp only [Bool.false_eq_true, if_false, if_true] <;> split <;> rfl

theorem map_modify_of_comp {β γ : Type} {f : β → β} {g : β → γ} (hg : ∀ x, g (f x) = g x) :
    ∀ (n : Nat) (l : List β), (l.modify f n).map g = l.map g
  | _, [] => by simp
  | 0, x :: l => by simp [hg]
  | n + 1, x :: l => by simp [map_modify_of_comp hg n l]

theorem countP_cancel (outcome : Outcome) (t : Nat) (tasks : List Task) :
    (tasks.modify (fun k => { k with cancelled := true }) t).countP (Task.finishedWith outcome) =
      tasks.countP (Task.finishedWith outcome) := by
  have pcs : (tasks.modify (fun k => { k with cancelled := true }) t).map Task.pc =
      tasks.map Task.pc :=
    map_modify_of_comp (fun k : Task => show Task.pc { k with cancelled := true } = k.pc from rfl) t tasks
  have h (l : List Task) : l.countP (Task.finishedWith outcome) =
      (l.map Task.pc).countP fun pc => pc = .finished outcome := by
    rw [List.countP_map]
    rfl
  rw [h, h, pcs]

/-- The two result counters count exactly the job tasks whose `Execute` returned nil, and those
whose `Execute` returned an error. -/
structure Counted (p : Pool) : Prop where
  completed : p.stats.completedJobs = p.tasks.countP (Task.finishedWith .returnedNil)
  failed : p.stats.failedJobs = p.tasks.countP (Task.finishedWith .returnedError)

theorem counted_submit {config : PoolConfig} {p : Pool} (timeout : Int) (h : Counted p) :
    Counted (submit config p timeout) := by
  unfold submit
  dsimp only
  split
  · exact ⟨h.1, h.2⟩
  · split
    · exact ⟨h.1, h.2⟩
    · split <;> exact ⟨h.1, h.2⟩

theorem counted_closeQuit {p : Pool} (h : Counted p) : Counted (closeQuit p) := by
  unfold closeQuit
  split <;> exact ⟨h.1, h.2⟩

theorem counted_next {config : PoolConfig} {p p' : Pool} {a : Action} (hc : Counted p)
    (h : next config p a = some p') : Counted p' := by
  obtain ⟨completed, failed⟩ := hc
  cases a with
  | submitCall _ => cases h; exact ⟨completed, failed⟩
  | submitSelect _ =>
    obtain ⟨timeout, -, rfl⟩ := next_submitSelect_some h
    exact counted_submit timeout ⟨completed, failed⟩
  | stop => cases h; exact counted_closeQuit ⟨completed, failed⟩
  | stopGracefully => cases h; split <;> exact ⟨completed, failed⟩
  | stopGracefullyQuit =>
    simp only [next] at h
    split at h
    · cases h
    · cases h; exact counted_closeQuit ⟨completed, failed⟩
  -- the dispatcher's steps and the workers' registrations touch no task and no counter
  | dispatchReceive | dispatchQuit | dispatchWorker | dispatchSend | workerStart _ | workerQuit _ =>
    simp only [next] at h
    repeat' split at h
    all_goals cases h <;> exact ⟨completed, failed⟩
  | workerSpawn w =>
    simp only [next] at h
    split at h <;> cases h
    constructor <;> simp [List.countP_append, Task.finishedWith, completed, failed]
  | workerReturn w =>
    simp only [next] at h
    split at h <;> cases h
    split <;> constructor <;> simp [countP_cancel, completed, failed]
  | taskExpire t =>
    simp only [next] at h
    split at h
    · split at h <;> cases h
      rename_i k hk _
      have c := countP_set_add { k with cancelled := true } (Task.finishedWith .returnedNil) hk
      have e := countP_set_add { k with cancelled := true } (Task.finishedWith .returnedError) hk
      constructor <;> simp_all [Task.finishedWith]
    · cases h
  | taskCheck t =>
    simp only [next] at h
    split at h <;> cases h
    rename_i j c hk
    have n := countP_set_add ⟨j, c, if c then .skipped else .running⟩
      (Task.finishedWith .returnedNil) hk
    have e := countP_set_add ⟨j, c, if c then .skipped else .running⟩
      (Task.finishedWith .returnedError) hk
    constructor <;> split at n <;> simp_all [Task.finishedWith]
  | taskFinish t outcome elapsed =>
    simp only [next] at h
    split at h <;> cases h
    rename_i j c hk
    have n := countP_set_add ⟨j, c, .finished outcome⟩ (Task.finishedWith .returnedNil) hk
    have e := countP_set_add ⟨j, c, .finished outcome⟩ (Task.finishedWith .returnedError) hk
    cases outcome <;> constructor <;>
      simp_all [Task.finishedWith, recordJob_completed, recordJob_failed]

/-- In every run, `CompletedJobs` is the number of jobs whose `Execute` returned nil and
`FailedJobs` the number whose `Execute` returned an error. -/
theorem stats_count_returned_jobs (config : PoolConfig) {p : Pool}
    (h : Reachable (next config) (newPool config) p) : Counted p :=
  h.induct_on Counted ⟨rfl, rfl⟩ fun _ _ _ inv step => counted_next inv step

/-- One worker, one job whose `Execute` returns an error. -/
def failedOnce : Pool :=
  (run (next ⟨1, 1⟩) (newPool ⟨1, 1⟩) [.workerStart 0, .submitCall 0, .submitSelect 0, .dispatchWorker, .dispatchSend, .workerSpawn 0,
    .workerReturn 0, .taskCheck 0, .taskFinish 0 .returnedError 5]).getD (newPool ⟨1, 1⟩)

theorem stats_count_returned_jobs_failed_once :
    Reachable (next ⟨1, 1⟩) (newPool ⟨1, 1⟩) failedOnce ∧ failedOnce.stats.failedJobs = 1 ∧ Counted failedOnce :=
  have h : Reachable (next ⟨1, 1⟩) (newPool ⟨1, 1⟩) failedOnce :=
    reachable_of_run _ [.workerStart 0, .submitCall 0, .submitSelect 0, .dispatchWorker, .dispatchSend, .workerSpawn 0,
      .workerReturn 0, .taskCheck 0, .taskFinish 0 .returnedError 5] rfl
  ⟨h, rfl, stats_count_returned_jobs ⟨1, 1⟩ h⟩

/-- One worker, one job whose `Execute` panics. The task recovers the panic and ends; the pool
is quiescent with `TotalJobs = 1` and `CompletedJobs + FailedJobs = 0`. -/
theorem panicking_job_not_counted :
    ∃ p, Reachable (next ⟨1, 1⟩) (newPool ⟨1, 1⟩) p ∧ Quiescent ⟨1, 1⟩ p ∧
      (getStats p).1.totalJobs = 1 ∧ (getStats p).1.completedJobs + (getStats p).1.failedJobs = 0 := by
  refine ⟨⟨[], false, [], false, .selecting, [.selecting], [⟨⟨0, 0⟩, false, .finished .panicked⟩],
    ⟨1, 0, 0, 0⟩, 1, 1, [⟨0, 0⟩], [⟨0, 0⟩], 0, 0, []⟩,
    reachable_of_run _ [.workerStart 0, .submitCall 0, .submitSelect 0, .dispatchWorker, .dispatchSend, .workerSpawn 0,
      .workerReturn 0, .taskCheck 0, .taskFinish 0 .panicked 5] (by decide), ?_, rfl, rfl⟩
  intro a ha
  cases a with
  | taskFinish t o e => rcases t with _ | t <;> rfl
  | workerStart w | workerQuit w | workerSpawn w | workerReturn w | taskExpire w | taskCheck w =>
    rcases w with _ | w <;> rfl
  | _ => first | rfl | simp [Action.internal] at ha

/-- One job, run by the only worker, returns nil after `elapsed`. The update divides by
`CompletedJobs + FailedJobs + 1 = 2`, so `AverageJobTime` is `elapsed / 2`, below the only
duration recorded. -/
theorem first_job_average_halved (elapsed : Nat) :
    ∃ p, Reachable (next ⟨1, 1⟩) (newPool ⟨1, 1⟩) p ∧
      (getStats p).1.completedJobs + (getStats p).1.failedJobs = 1 ∧
      (getStats p).1.averageJobTime = elapsed / 2 :=
  ⟨⟨[], false, [], false, .selecting, [.selecting], [⟨⟨0, 0⟩, false, .finished .returnedNil⟩],
      ⟨1, 1, 0, (0 * 1 + elapsed) / (1 + 1)⟩, 1, 1, [⟨0, 0⟩], [⟨0, 0⟩], 0, 0, []⟩,
    reachable_of_run _ [.workerStart 0, .submitCall 0, .submitSelect 0, .dispatchWorker, .dispatchSend, .workerSpawn 0,
      .workerReturn 0, .taskCheck 0, .taskFinish 0 .returnedNil elapsed] rfl, rfl, by simp [getStats]⟩

end ToolKit.WorkerPool
