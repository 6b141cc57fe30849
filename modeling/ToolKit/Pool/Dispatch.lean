import ToolKit.Pool.Model

/-! How many jobs the pool can run at once. Each worker registers its intake channel in
`workerQueue` once, in `startWorker`, and the dispatcher spends one intake per job it hands over. -/

namespace ToolKit.WorkerPool

def WorkerPc.isExecuting : WorkerPc → Bool
  | .executing _ => true
  | _ => false

def DispatcherPc.holdsIntake : DispatcherPc → Bool
  | .sending _ _ => true
  | _ => false

def Task.isRunning (k : Task) : Bool := k.pc = .running

/-- Jobs whose `Execute` has started and not yet returned. -/
def runningJobs (p : Pool) : Nat := p.tasks.countP Task.isRunning

/-- The intake budget. Every job handed over is in a spawned task or with a worker about to
spawn one, and the jobs handed over, the registered intakes and the intake the dispatcher
holds are at most `MaxWorkers`. -/
structure Budget (config : PoolConfig) (p : Pool) : Prop where
  spawned : p.tasks.length + p.workers.countP WorkerPc.isExecuting = p.handedOver.length
  intakes : p.handedOver.length + p.workerQueue.length + (if p.dispatcher.holdsIntake then 1 else 0) ≤
    config.maxWorkers

theorem submit_budget {config : PoolConfig} {p : Pool} (timeout : Int) (h : Budget config p) :
    Budget config (submit config p timeout) := by
  unfold submit
  dsimp only
  split
  · exact ⟨h.1, h.2⟩
  · split
    · rename_i hs
      exact ⟨h.spawned, by simpa [hs.1, DispatcherPc.holdsIntake] using h.intakes⟩
    · split <;> exact ⟨h.1, h.2⟩

theorem closeQuit_budget {config : PoolConfig} {p : Pool} (h : Budget config p) :
    Budget config (closeQuit p) := by
  unfold closeQuit
  split <;> exact ⟨h.1, h.2⟩

theorem budget_next {config : PoolConfig} {p p' : Pool} {a : Action} (hb : Budget config p)
    (h : next config p a = some p') : Budget config p' := by
  obtain ⟨spawned, intakes⟩ := hb
  cases a with
  | submitCall _ => cases h; exact ⟨spawned, intakes⟩
  | submitSelect _ =>
    obtain ⟨timeout, -, rfl⟩ := next_submitSelect_some h
    exact submit_budget timeout ⟨spawned, intakes⟩
  | stop => cases h; exact closeQuit_budget ⟨spawned, intakes⟩
  | stopGracefully => cases h; split <;> exact ⟨spawned, intakes⟩
  | stopGracefullyQuit =>
    simp only [next] at h
    split at h
    · cases h
    · cases h; exact closeQuit_budget ⟨spawned, intakes⟩
  | dispatchReceive =>
    simp only [next] at h
    split at h
    · cases h
      exact ⟨spawned, by simp_all [DispatcherPc.holdsIntake]⟩
    · split at h <;> cases h
      exact ⟨spawned, by simp_all [DispatcherPc.holdsIntake]⟩
    · cases h
  | dispatchQuit =>
    simp only [next] at h
    split at h <;> cases h
    exact ⟨spawned, by simp_all [DispatcherPc.holdsIntake]⟩
  | dispatchWorker =>
    simp only [next] at h
    split at h <;> cases h
    exact ⟨spawned, by simp_all [DispatcherPc.holdsIntake]; omega⟩
  | dispatchSend =>
    simp only [next] at h
    split at h
    · rename_i job w hd
      split at h <;> cases h
      · have c := countP_set_add (.executing ‹Job›) WorkerPc.isExecuting ‹p.workers[w]? = _›
        constructor <;> simp_all [DispatcherPc.holdsIntake, WorkerPc.isExecuting] <;> omega
      · have c := countP_set_add (.exited false) WorkerPc.isExecuting ‹p.workers[w]? = _›
        exact ⟨by simp_all [WorkerPc.isExecuting], by simp_all [DispatcherPc.holdsIntake]; omega⟩
      · exact ⟨spawned, by simp_all [DispatcherPc.holdsIntake]; omega⟩
    · cases h
  | workerStart w =>
    simp only [next] at h
    split at h <;> cases h
    have c := countP_set_add .selecting WorkerPc.isExecuting ‹p.workers[w]? = _›
    exact ⟨by simp_all [WorkerPc.isExecuting], intakes⟩
  | workerQuit w =>
    simp only [next] at h
    split at h
    · split at h <;> cases h
      have c := countP_set_add (.exited true) WorkerPc.isExecuting ‹p.workers[w]? = _›
      exact ⟨by simp_all [WorkerPc.isExecuting], intakes⟩
    · cases h
  | workerSpawn w =>
    simp only [next] at h
    split at h <;> cases h
    rename_i j hw
    have c := countP_set_add (.returning j p.tasks.length) WorkerPc.isExecuting hw
    exact ⟨by simp_all [WorkerPc.isExecuting]; omega, intakes⟩
  | workerReturn w =>
    simp only [next] at h
    split at h <;> cases h
    rename_i j t hw
    have c := countP_set_add .selecting WorkerPc.isExecuting hw
    refine ⟨?_, intakes⟩
    split <;> simp_all [WorkerPc.isExecuting]
  | taskExpire _ | taskCheck _ | taskFinish _ _ _ =>
    simp only [next] at h
    repeat' split at h
    all_goals cases h <;> exact ⟨by simpa using spawned, intakes⟩

theorem budget_reachable (config : PoolConfig) {p : Pool}
    (h : Reachable (next config) (newPool config) p) : Budget config p :=
  h.induct_on (Budget config)
    ⟨by simp [newPool, List.countP_replicate, WorkerPc.isExecuting],
      by simp [newPool, DispatcherPc.holdsIntake]⟩
    fun _ _ _ inv step => budget_next inv step

/-- Over the pool's whole life, the dispatcher hands at most `MaxWorkers` jobs to workers:
each worker's intake is registered once and spent by the first job sent to it. -/
theorem handed_over_le_maxWorkers (config : PoolConfig) {p : Pool}
    (h : Reachable (next config) (newPool config) p) : p.handedOver.length ≤ config.maxWorkers := by
  have := (budget_reachable config h).intakes
  omega

/-- `MaxWorkers = 1`, `QueueSize = 1`, and two `SubmitFunc` calls, both accepted. The first job
runs and returns. The dispatcher takes the second and waits for an intake that the only worker
never registers again: the pool is quiescent and the second job never executes. -/
theorem second_job_stranded :
    ∃ p, Reachable (next ⟨1, 1⟩) (newPool ⟨1, 1⟩) p ∧ Quiescent ⟨1, 1⟩ p ∧
      ∃ job ∈ p.accepted, ∀ k ∈ p.tasks, k.job ≠ job := by
  refine ⟨⟨[], false, [], false, .awaitingWorker (some ⟨1, 0⟩), [.selecting],
    [⟨⟨0, 0⟩, false, .finished .returnedNil⟩], ⟨2, 1, 0, 2⟩, 1, 2, [⟨0, 0⟩, ⟨1, 0⟩], [⟨0, 0⟩], 0, 0, []⟩,
    reachable_of_run _ [.workerStart 0, .submitCall 0, .submitSelect 0, .dispatchWorker, .dispatchSend, .workerSpawn 0,
      .workerReturn 0, .taskCheck 0, .taskFinish 0 .returnedNil 5, .submitCall 0, .submitSelect 0] (by decide), ?_,
    ⟨1, 0⟩, by simp, by simp⟩
  intro a ha
  cases a with
  | taskFinish t o e => rcases t with _ | t <;> rfl
  | workerStart w | workerQuit w | workerSpawn w | workerReturn w | taskExpire w | taskCheck w =>
    rcases w with _ | w <;> rfl
  | _ => first | rfl | simp [Action.internal] at ha

/-- However jobs are submitted and the goroutines interleave, at most `MaxWorkers` jobs have
started `Execute` and not yet returned from it. -/
theorem running_jobs_le_maxWorkers (config : PoolConfig) {p : Pool}
    (h : Reachable (next config) (newPool config) p) : runningJobs p ≤ config.maxWorkers := by
  have spawned := (budget_reachable config h).spawned
  have tasks : runningJobs p ≤ p.tasks.length := List.countP_le_length _
  have := handed_over_le_maxWorkers config h
  omega

theorem running_jobs_le_maxWorkers_one_running :
    Reachable (next ⟨1, 1⟩) (newPool ⟨1, 1⟩) ⟨[], false, [], false, .selecting, [.selecting],
        [⟨⟨0, 0⟩, false, .running⟩], ⟨1, 0, 0, 0⟩, 1, 1, [⟨0, 0⟩], [⟨0, 0⟩], 0, 0, []⟩ ∧
      runningJobs ⟨[], false, [], false, .selecting, [.selecting],
        [⟨⟨0, 0⟩, false, .running⟩], ⟨1, 0, 0, 0⟩, 1, 1, [⟨0, 0⟩], [⟨0, 0⟩], 0, 0, []⟩ ≤
        (⟨1, 1⟩ : PoolConfig).maxWorkers :=
  have h := reachable_of_run (next ⟨1, 1⟩) [.workerStart 0, .submitCall 0, .submitSelect 0, .dispatchWorker,
    .dispatchSend, .workerSpawn 0, .workerReturn 0, .taskCheck 0] (by decide)
  ⟨h, running_jobs_le_maxWorkers _ h⟩

end ToolKit.WorkerPool
