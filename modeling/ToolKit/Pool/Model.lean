import ToolKit.Run

/-! The worker pool of `goroutine/pool.go` as an interleaving of its goroutines and callers.
Each `Action` is one atomic step of the dispatcher, a worker, a job task, or a caller: the entry
of a `SubmitFunc` call, the `select` of its `Submit`, a `Stop`, or one half of `StopGracefully`. -/

namespace ToolKit.WorkerPool

/-- The fields of `PoolConfig` the pool reads; `WorkerTimeout` and `JobTimeout` are never read. -/
structure PoolConfig where
  maxWorkers : Nat
  queueSize : Nat
  deriving DecidableEq, Repr

def defaultPoolConfig : PoolConfig := ⟨10, 1000⟩

/-- A `SimpleJob` as `SubmitFunc` (timeout 0) or `SubmitWithTimeout` builds it; `seq` numbers the
`Submit` selects in the order they run, so that two submissions are told apart. -/
structure Job where
  seq : Nat
  timeout : Int
  deriving DecidableEq, Repr

/-- How a job's `Execute` ended. -/
inductive Outcome
  | returnedNil
  | returnedError
  | panicked
  deriving DecidableEq, Repr

inductive DispatcherPc
  | selecting
  | awaitingWorker (job : Option Job)
  | sending (job : Option Job) (worker : Nat)
  | exited
  deriving DecidableEq, Repr

inductive WorkerPc
  | starting
  | selecting
  | executing (job : Job)
  | returning (job : Job) (task : Nat)
  | exited (intakeClosed : Bool)
  deriving DecidableEq, Repr

inductive TaskPc
  | pending
  | running
  | finished (outcome : Outcome)
  | skipped
  deriving DecidableEq, Repr

/-- A goroutine `executeJob` spawned through `GoWithContext`, and whether its context is done. -/
structure Task where
  job : Job
  cancelled : Bool
  pc : TaskPc
  deriving DecidableEq, Repr

/-- The counters of `PoolStats` the pool writes; `QueuedJobs` and `ActiveWorkers` are recomputed
by `GetStats`, and `LastJobTime` is read by nothing modelled. -/
structure PoolStats where
  totalJobs : Nat
  completedJobs : Nat
  failedJobs : Nat
  averageJobTime : Nat
  deriving DecidableEq, Repr

/-- The pool, its goroutines and its callers. `jobQueue` is a buffer of capacity `QueueSize`,
and receiving from it once it is closed and drained yields a nil `Job`. `accepted` and
`handedOver` record which jobs `Submit` accepted and which the dispatcher sent to a worker;
`callPanics` counts the calls of `Submit`, `Stop` and `StopGracefully` that panicked; `graceful`
counts the `StopGracefully` calls that closed `jobQueue` and have not yet closed `quit`;
`submitting` holds the timeouts of the jobs of the `SubmitFunc` calls whose `select` has not run. -/
structure Pool where
  jobQueue : List Job
  jobQueueClosed : Bool
  workerQueue : List Nat
  quitClosed : Bool
  dispatcher : DispatcherPc
  workers : List WorkerPc
  tasks : List Task
  stats : PoolStats
  workerCount : Nat
  submitted : Nat
  accepted : List Job
  handedOver : List Job
  callPanics : Nat
  graceful : Nat
  submitting : List Int
  deriving DecidableEq, Repr

inductive Action
  | submitCall (timeout : Int)
  | submitSelect (call : Nat)
  | stop
  | stopGracefully
  | stopGracefullyQuit
  | dispatchReceive
  | dispatchQuit
  | dispatchWorker
  | dispatchSend
  | workerStart (worker : Nat)
  | workerQuit (worker : Nat)
  | workerSpawn (worker : Nat)
  | workerReturn (worker : Nat)
  | taskExpire (task : Nat)
  | taskCheck (task : Nat)
  | taskFinish (task : Nat) (outcome : Outcome) (elapsed : Nat)
  deriving DecidableEq, Repr

/-- The state `NewPool` returns: every worker's intake registered, no worker goroutine yet
counted. -/
def newPool (config : PoolConfig) : Pool where
  jobQueue := []
  jobQueueClosed := false
  workerQueue := List.range config.maxWorkers
  quitClosed := false
  dispatcher := .selecting
  workers := List.replicate config.maxWorkers .starting
  tasks := []
  stats := ⟨0, 0, 0, 0⟩
  workerCount := 0
  submitted := 0
  accepted := []
  handedOver := []
  callPanics := 0
  graceful := 0
  submitting := []

def getStats (p : Pool) : PoolStats × Nat × Nat := (p.stats, p.jobQueue.length, p.workerCount)

/-- `Submit`: a send in a `select` with a `default`. Sending on the closed `jobQueue` panics;
otherwise the job goes to a dispatcher blocked in its `select`, or into free buffer space, or
the call returns `ErrPoolFull`. -/
def submit (config : PoolConfig) (p : Pool) (timeout : Int) : Pool :=
  let job : Job := ⟨p.submitted, timeout⟩
  let p := { p with submitted := p.submitted + 1 }
  if p.jobQueueClosed then { p with callPanics := p.callPanics + 1 }
  else if p.dispatcher = .selecting ∧ p.jobQueue = [] ∧ p.quitClosed = false then
    { p with dispatcher := .awaitingWorker (some job), accepted := p.accepted ++ [job],
             stats := { p.stats with totalJobs := p.stats.totalJobs + 1 } }
  else if p.jobQueue.length < config.queueSize then
    { p with jobQueue := p.jobQueue ++ [job], accepted := p.accepted ++ [job] }
  else p

/-- `close(p.quit)`, by `Stop` or at the end of `StopGracefully`. -/
def closeQuit (p : Pool) : Pool :=
  if p.quitClosed then { p with callPanics := p.callPanics + 1 } else { p with quitClosed := true }

/-- The statistics update at the end of a job task whose `Execute` returned. -/
def recordJob (s : PoolStats) (failed : Bool) (elapsed : Nat) : PoolStats :=
  let s := if failed then { s with failedJobs := s.failedJobs + 1 }
    else { s with completedJobs := s.completedJobs + 1 }
  let totalJobs := s.completedJobs + s.failedJobs
  if totalJobs > 0 then
    { s with averageJobTime := (s.averageJobTime * totalJobs + elapsed) / (totalJobs + 1) }
  else s

def next (config : PoolConfig) (p : Pool) : Action → Option Pool
  | .submitCall timeout => some { p with submitting := p.submitting ++ [timeout] }
  | .submitSelect c =>
    match p.submitting[c]? with
    | some timeout => some (submit config { p with submitting := p.submitting.eraseIdx c } timeout)
    | none => none
  | .stop => some (closeQuit p)
  | .stopGracefully =>
    some (if p.jobQueueClosed then { p with callPanics := p.callPanics + 1 }
      else { p with jobQueueClosed := true, graceful := p.graceful + 1 })
  | .stopGracefullyQuit =>
    if p.graceful = 0 then none else some (closeQuit { p with graceful := p.graceful - 1 })
  | .dispatchReceive =>
    match p.dispatcher, p.jobQueue with
    | .selecting, job :: rest =>
      some { p with dispatcher := .awaitingWorker (some job), jobQueue := rest,
                    stats := { p.stats with totalJobs := p.stats.totalJobs + 1 } }
    | .selecting, [] =>
      if p.jobQueueClosed then
        some { p with dispatcher := .awaitingWorker none,
                      stats := { p.stats with totalJobs := p.stats.totalJobs + 1 } }
      else none
    | _, _ => none
  | .dispatchQuit =>
    if p.dispatcher = .selecting ∧ p.quitClosed then some { p with dispatcher := .exited } else none
  | .dispatchWorker =>
    match p.dispatcher, p.workerQueue with
    | .awaitingWorker job, w :: rest => some { p with dispatcher := .sending job w, workerQueue := rest }
    | _, _ => none
  | .dispatchSend =>
    match p.dispatcher with
    | .sending job w =>
      match p.workers[w]?, job with
      | some .selecting, some j =>
        some { p with dispatcher := .selecting, workers := p.workers.set w (.executing j),
                      handedOver := p.handedOver ++ [j] }
      | some .selecting, none =>
        some { p with dispatcher := .selecting, workers := p.workers.set w (.exited false),
                      workerCount := p.workerCount - 1 }
      | some (.exited true), _ => some { p with dispatcher := .exited }
      | _, _ => none
    | _ => none
  | .workerStart w =>
    match p.workers[w]? with
    | some .starting =>
      some { p with workers := p.workers.set w .selecting, workerCount := p.workerCount + 1 }
    | _ => none
  | .workerQuit w =>
    match p.workers[w]? with
    | some .selecting =>
      if p.quitClosed then
        some { p with workers := p.workers.set w (.exited true), workerCount := p.workerCount - 1 }
      else none
    | _ => none
  | .workerSpawn w =>
    match p.workers[w]? with
    | some (.executing j) =>
      some { p with workers := p.workers.set w (.returning j p.tasks.length),
                    tasks := p.tasks ++ [⟨j, false, .pending⟩] }
    | _ => none
  | .workerReturn w =>
    match p.workers[w]? with
    | some (.returning j t) =>
      some { p with workers := p.workers.set w .selecting,
                    tasks := if 0 < j.timeout then p.tasks.modify (fun k => { k with cancelled := true }) t
                      else p.tasks }
    | _ => none
  | .taskExpire t =>
    match p.tasks[t]? with
    | some k =>
      if 0 < k.job.timeout ∧ k.cancelled = false then
        some { p with tasks := p.tasks.set t { k with cancelled := true } }
      else none
    | none => none
  | .taskCheck t =>
    match p.tasks[t]? with
    | some ⟨j, c, .pending⟩ =>
      some { p with tasks := p.tasks.set t ⟨j, c, if c then .skipped else .running⟩ }
    | _ => none
  | .taskFinish t outcome elapsed =>
    match p.tasks[t]? with
    | some ⟨j, c, .running⟩ =>
      some { p with tasks := p.tasks.set t ⟨j, c, .finished outcome⟩,
                    stats := match outcome with
                      | .returnedNil => recordJob p.stats false elapsed
                      | .returnedError => recordJob p.stats true elapsed
                      | .panicked => p.stats }
    | _ => none

/-- A `select` of `Submit` runs on the pool with its call taken out of `submitting`. -/
theorem next_submitSelect_some {config : PoolConfig} {p p' : Pool} {c : Nat}
    (h : next config p (.submitSelect c) = some p') :
    ∃ timeout, p.submitting[c]? = some timeout ∧
      p' = submit config { p with submitting := p.submitting.eraseIdx c } timeout := by
  simp only [next] at h
  split at h
  · cases h; exact ⟨_, ‹_›, rfl⟩
  · cases h

/-- Steps of the pool's own goroutines, as opposed to calls made by its users. -/
def Action.internal : Action → Bool
  | .submitCall _ | .submitSelect _ | .stop | .stopGracefully | .stopGracefullyQuit => false
  | _ => true

/-- No goroutine of the pool can take a step. -/
def Quiescent (config : PoolConfig) (p : Pool) : Prop :=
  ∀ a : Action, a.internal = true → next config p a = none

end ToolKit.WorkerPool
