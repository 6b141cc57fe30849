import ToolKit.Pool.Stats
import Mathlib.Data.List.Nodup

/-! The order in which the pool hands out and runs jobs: `jobQueue` is a FIFO buffer, and the one
dispatcher sends each job it takes to a worker before it takes the next. -/

namespace ToolKit.WorkerPool

/-- The job the dispatcher has taken and not yet sent to a worker. -/
def DispatcherPc.held : DispatcherPc → List Job
  | .awaitingWorker (some job) | .sending (some job) _ => [job]
  | _ => []

/-- The part of the pool that decides which job goes next. -/
structure QueueView where
  jobQueue : List Job
  dispatcher : DispatcherPc
  submitted : Nat
  accepted : List Job
  handedOver : List Job

def Pool.queueView (p : Pool) : QueueView :=
  ⟨p.jobQueue, p.dispatcher, p.submitted, p.accepted, p.handedOver⟩

/-- Jobs are accepted in the order of their `Submit` calls, and the jobs handed to workers are a
prefix of them. Until the dispatcher exits, every accepted job has been handed over, is held by
the dispatcher, or waits in `jobQueue`, in that order. -/
structure InOrder (v : QueueView) : Prop where
  numbered : v.accepted.Pairwise fun a b => a.seq < b.seq
  below : ∀ job ∈ v.accepted, job.seq < v.submitted
  handed : v.handedOver <+: v.accepted
  queued : v.dispatcher ≠ .exited → v.accepted = v.handedOver ++ v.dispatcher.held ++ v.jobQueue

theorem closeQuit_queueView (p : Pool) : (closeQuit p).queueView = p.queueView := by
  unfold closeQuit
  split <;> rfl

/-- `Submit`'s `select` and the dispatcher's steps; no other action reads or writes the queue. -/
def Action.touchesQueue : Action → Bool
  | .submitSelect _ | .dispatchReceive | .dispatchQuit | .dispatchWorker | .dispatchSend => true
  | _ => false

/-- The steps of the workers and of the job tasks, the entries of `SubmitFunc` calls and the stop
calls leave the queue alone. -/
theorem next_queueView {config : PoolConfig} {p p' : Pool} {a : Action} (ha : a.touchesQueue = false)
    (h : next config p a = some p') : p'.queueView = p.queueView := by
  cases a with
  | submitSelect _ | dispatchReceive | dispatchQuit | dispatchWorker | dispatchSend =>
    simp [Action.touchesQueue] at ha
  | stop => cases h; exact closeQuit_queueView p
  | stopGracefullyQuit =>
    simp only [next] at h
    split at h
    · cases h
    · cases h; exact closeQuit_queueView _
  | _ =>
    simp only [next] at h
    repeat' split at h
    all_goals cases h <;> rfl

/-- Accepting the job of the next `Submit` call keeps the jobs numbered in order and the jobs
handed over a prefix. -/
theorem InOrder.accept {v : QueueView} (h : InOrder v) (timeout : Int) :
    (v.accepted ++ [Job.mk v.submitted timeout]).Pairwise (fun a b => a.seq < b.seq) ∧
      (∀ job ∈ v.accepted ++ [Job.mk v.submitted timeout], job.seq < v.submitted + 1) ∧
      v.handedOver <+: v.accepted ++ [Job.mk v.submitted timeout] := by
  refine ⟨List.pairwise_append.mpr ⟨h.numbered, List.pairwise_singleton _ _, ?_⟩, ?_,
    h.handed.trans (List.prefix_append _ _)⟩
  · intro a ha b hb
    simp only [List.mem_singleton] at hb
    exact hb ▸ h.below a ha
  · intro job hj
    rcases List.mem_append.mp hj with old | new
    · exact Nat.lt_succ_of_lt (h.below job old)
    · simp only [List.mem_singleton] at new
      simp [new]

theorem inOrder_submit (config : PoolConfig) {p : Pool} (timeout : Int) (h : InOrder p.queueView) :
    InOrder (submit config p timeout).queueView := by
  obtain ⟨numbered, below, handed⟩ := h.accept timeout
  unfold submit
  dsimp only
  split
  · exact ⟨h.numbered, fun job hj => Nat.lt_succ_of_lt (h.below job hj), h.handed, h.queued⟩
  · split
    · rename_i waiting
      refine ⟨numbered, below, handed, fun _ => ?_⟩
      have := h.queued (by simp [Pool.queueView, waiting.1])
      simp_all [Pool.queueView, DispatcherPc.held]
    · split
      · refine ⟨numbered, below, handed, fun running => ?_⟩
        have := h.queued running
        simp_all [Pool.queueView]
      · exact ⟨h.numbered, fun job hj => Nat.lt_succ_of_lt (h.below job hj), h.handed, h.queued⟩

theorem inOrder_next {config : PoolConfig} {p p' : Pool} {a : Action} (hi : InOrder p.queueView)
    (h : next config p a = some p') : InOrder p'.queueView := by
  cases hq : a.touchesQueue
  case false => exact next_queueView hq h ▸ hi
  obtain ⟨numbered, below, handed, queued⟩ := hi
  cases a with
  | submitSelect _ =>
    obtain ⟨timeout, -, rfl⟩ := next_submitSelect_some h
    exact inOrder_submit config timeout ⟨numbered, below, handed, queued⟩
  | dispatchReceive =>
    simp only [next] at h
    split at h
    · cases h
      exact ⟨numbered, below, handed, fun _ => by simp_all [Pool.queueView, DispatcherPc.held]⟩
    · split at h <;> cases h
      exact ⟨numbered, below, handed, fun _ => by simp_all [Pool.queueView, DispatcherPc.held]⟩
    · cases h
  | dispatchQuit =>
    simp only [next] at h
    split at h <;> cases h
    exact ⟨numbered, below, handed, fun exited => absurd rfl exited⟩
  | dispatchWorker =>
    simp only [next] at h
    split at h <;> cases h
    rename_i job _ _ _ _
    refine ⟨numbered, below, handed, fun _ => ?_⟩
    cases job <;> simp_all [Pool.queueView, DispatcherPc.held]
  | dispatchSend =>
    simp only [next] at h
    split at h
    · split at h <;> cases h
      · refine ⟨numbered, below, ?_, fun _ => ?_⟩ <;> simp_all [Pool.queueView, DispatcherPc.held]
      · exact ⟨numbered, below, handed, fun _ => by simp_all [Pool.queueView, DispatcherPc.held]⟩
      · exact ⟨numbered, below, handed, fun exited => absurd rfl exited⟩
    · cases h
  | _ => simp [Action.touchesQueue] at hq

theorem inOrder_reachable (config : PoolConfig) {p : Pool}
    (h : Reachable (next config) (newPool config) p) : InOrder p.queueView :=
  h.induct_on (fun p => InOrder p.queueView)
    ⟨List.Pairwise.nil, by simp [newPool, Pool.queueView], List.nil_prefix, fun _ => rfl⟩
    fun _ _ _ inv step => inOrder_next inv step

/-- A worker that has been sent `job` and has not yet spawned its task. -/
def WorkerPc.executes (job : Job) : WorkerPc → Bool
  | .executing j => j = job
  | _ => false

/-- Each job handed over, as often as it was handed over, is in one task or with one worker
about to spawn one. -/
def Spawned (p : Pool) : Prop :=
  ∀ job, (p.tasks.map Task.job).count job + p.workers.countP (WorkerPc.executes job) = p.handedOver.count job

/-- Overwriting a task with one for the same job leaves the tasks' jobs as they were. -/
theorem map_job_set {tasks : List Task} {t : Nat} {k k' : Task} (hk : tasks[t]? = some k)
    (same : k'.job = k.job) : (tasks.set t k').map Task.job = tasks.map Task.job := by
  apply List.ext_getElem?
  intro i
  simp only [List.getElem?_map, List.getElem?_set]
  split
  · rename_i same_index
    subst same_index
    simp [(List.getElem?_eq_some_iff.mp hk).1, hk, same]
  · rfl

theorem spawned_set_task {p : Pool} {t : Nat} {k k' : Task} (hs : Spawned p) (hk : p.tasks[t]? = some k)
    (same : k'.job = k.job) : Spawned { p with tasks := p.tasks.set t k' } := by
  intro job
  simpa only [map_job_set hk same] using hs job

theorem spawned_set_worker {p : Pool} {w : Nat} {pc pc' : WorkerPc} (hs : Spawned p)
    (hw : p.workers[w]? = some pc) (idle : ∀ job, pc.executes job = false ∧ pc'.executes job = false) :
    Spawned { p with workers := p.workers.set w pc' } := by
  intro job
  have c := countP_set_add pc' (WorkerPc.executes job) hw
  simp only [(idle job).1, (idle job).2, Bool.false_eq_true, if_false, Nat.add_zero] at c
  simpa only [c] using hs job

theorem spawned_next {config : PoolConfig} {p p' : Pool} {a : Action} (hs : Spawned p)
    (h : next config p a = some p') : Spawned p' := by
  cases a with
  | submitCall _ => cases h; exact hs
  | submitSelect _ =>
    obtain ⟨timeout, -, rfl⟩ := next_submitSelect_some h
    unfold submit
    dsimp only
    split
    · exact hs
    · split
      · exact hs
      · split <;> exact hs
  | stop => cases h; unfold closeQuit; split <;> exact hs
  | stopGracefully => cases h; split <;> exact hs
  | stopGracefullyQuit =>
    simp only [next] at h
    split at h
    · cases h
    · cases h; unfold closeQuit; split <;> exact hs
  | dispatchReceive | dispatchQuit | dispatchWorker =>
    simp only [next] at h
    repeat' split at h
    all_goals cases h <;> exact hs
  | dispatchSend =>
    simp only [next] at h
    split at h
    · split at h <;> cases h
      · rename_i j hw _
        intro job
        have c := countP_set_add (.executing j) (WorkerPc.executes job) hw
        have := hs job
        simp only [WorkerPc.executes, Bool.false_eq_true, if_false, Nat.add_zero, decide_eq_true_eq] at c
        simp only [List.count_append, List.count_singleton']
        split_ifs at c ⊢ <;> omega
      · exact spawned_set_worker hs ‹_› fun _ => ⟨by rfl, by rfl⟩
      · exact hs
    · cases h
  | workerStart w | workerQuit w =>
    simp only [next] at h
    repeat' split at h
    all_goals cases h
    all_goals exact spawned_set_worker hs ‹_› fun _ => ⟨by rfl, by rfl⟩
  | workerSpawn w =>
    simp only [next] at h
    split at h <;> cases h
    rename_i j hw
    intro job
    have c := countP_set_add (.returning j p.tasks.length) (WorkerPc.executes job) hw
    have := hs job
    simp only [WorkerPc.executes, Bool.false_eq_true, if_false, Nat.add_zero, decide_eq_true_eq] at c
    simp only [List.map_append, List.map_singleton, List.count_append, List.count_singleton']
    split_ifs at c ⊢ <;> omega
  | workerReturn w =>
    simp only [next] at h
    split at h
    · cases h
      rename_i j t hw
      intro job
      have c := countP_set_add .selecting (WorkerPc.executes job) hw
      have jobs : (if 0 < j.timeout then p.tasks.modify (fun k => { k with cancelled := true }) t
          else p.tasks).map Task.job = p.tasks.map Task.job := by
        split
        · exact @map_modify_of_comp Task Job (fun k => { k with cancelled := true }) Task.job
            (fun _ => rfl) t p.tasks
        · rfl
      simp only [WorkerPc.executes, Bool.false_eq_true, if_false, Nat.add_zero] at c
      simpa only [jobs, c] using hs job
    · cases h
  | taskExpire t | taskCheck t | taskFinish t _ _ =>
    simp only [next] at h
    repeat' split at h
    all_goals cases h
    all_goals exact spawned_set_task hs ‹_› (by rfl)

theorem spawned_reachable (config : PoolConfig) {p : Pool}
    (h : Reachable (next config) (newPool config) p) : Spawned p :=
  h.induct_on Spawned (fun _ => by simp [newPool, List.countP_replicate, WorkerPc.executes])
    fun _ _ _ inv step => spawned_next inv step

/-- However submissions, stop calls and the pool's goroutines interleave, the dispatcher hands
jobs to workers in exactly the order `Submit` accepted them, skipping none: the jobs handed over
are a prefix of the jobs accepted, which are numbered in the order of their `Submit` calls. -/
theorem jobs_handed_over_in_submission_order (config : PoolConfig) {p : Pool}
    (h : Reachable (next config) (newPool config) p) :
    p.handedOver <+: p.accepted ∧ p.accepted.Pairwise fun a b => a.seq < b.seq :=
  ⟨(inOrder_reachable config h).handed, (inOrder_reachable config h).numbered⟩

/-- One worker and two `SubmitFunc` calls, the second of which runs its `select` first: the job of
the first `select` has been handed over and its task spawned, the other waits in `jobQueue`. -/
def firstOfTwoSpawned : Pool :=
  ⟨[⟨1, 0⟩], false, [], false, .selecting, [.returning ⟨0, 0⟩ 0], [⟨⟨0, 0⟩, false, .pending⟩],
    ⟨1, 0, 0, 0⟩, 1, 2, [⟨0, 0⟩, ⟨1, 0⟩], [⟨0, 0⟩], 0, 0, []⟩

theorem firstOfTwoSpawned_reachable : Reachable (next ⟨1, 2⟩) (newPool ⟨1, 2⟩) firstOfTwoSpawned :=
  reachable_of_run _ [.workerStart 0, .submitCall 0, .submitCall 0, .submitSelect 1, .submitSelect 0,
    .dispatchWorker, .dispatchSend, .workerSpawn 0] (by decide)

theorem jobs_handed_over_in_submission_order_first_of_two :
    Reachable (next ⟨1, 2⟩) (newPool ⟨1, 2⟩) firstOfTwoSpawned ∧
      firstOfTwoSpawned.handedOver <+: firstOfTwoSpawned.accepted ∧
      firstOfTwoSpawned.accepted.Pairwise fun a b => a.seq < b.seq :=
  ⟨firstOfTwoSpawned_reachable, jobs_handed_over_in_submission_order _ firstOfTwoSpawned_reachable⟩

/-- However they interleave, no job is given to two `executeJob` tasks, and every task runs a job
the dispatcher handed over: the `Execute` of an accepted job is called at most once. -/
theorem job_executed_at_most_once (config : PoolConfig) {p : Pool}
    (h : Reachable (next config) (newPool config) p) :
    (p.tasks.map Task.job).Nodup ∧ ∀ k ∈ p.tasks, k.job ∈ p.handedOver := by
  have order := inOrder_reachable config h
  have handedOnce : p.handedOver.Nodup :=
    ((order.numbered.sublist order.handed.sublist).imp fun lt same => by simp [same] at lt)
  have counts (job : Job) : (p.tasks.map Task.job).count job ≤ p.handedOver.count job := by
    have := spawned_reachable config h job
    omega
  refine ⟨List.nodup_iff_count_le_one.mpr fun job => (counts job).trans
    (List.nodup_iff_count_le_one.mp handedOnce job), fun k hk => ?_⟩
  have : 0 < (p.tasks.map Task.job).count k.job := List.count_pos_iff.mpr (List.mem_map_of_mem _ hk)
  exact List.count_pos_iff.mp (Nat.lt_of_lt_of_le this (counts k.job))

theorem job_executed_at_most_once_first_of_two :
    Reachable (next ⟨1, 2⟩) (newPool ⟨1, 2⟩) firstOfTwoSpawned ∧
      (firstOfTwoSpawned.tasks.map Task.job).Nodup ∧
      ∀ k ∈ firstOfTwoSpawned.tasks, k.job ∈ firstOfTwoSpawned.handedOver :=
  ⟨firstOfTwoSpawned_reachable, job_executed_at_most_once _ firstOfTwoSpawned_reachable⟩

end ToolKit.WorkerPool
