import ToolKit.Executor.Stats
import ToolKit.Go
import Mathlib.Logic.Function.Basic

/-! The `Monitor` of the goroutine package (`unnamed/part_015`) as an interleaving of its callers
and of the loops `Start` runs on the executor. Each locked section is one step, and so is each
unlocked read of the shared `MonitorStats` record that `checkAlerts` makes. -/

namespace ToolKit.Executor.Monitoring

/-- A value in `CustomStats`, an `interface{}`: one of the executor's counters, its
`LastPanicTime` in nanoseconds, its `LastPanicGoroutine`, or a value a caller passes to
`SetCustomStat`, given by an identifier. -/
inductive CustomValue
  | int64 (v : Int)
  | time (nanos : Int)
  | text (s : List UInt8)
  | given (id : Nat)
  deriving DecidableEq, Repr

/-- A Go map from strings, as a function from its keys. -/
abbrev CustomMap := List UInt8 → Option CustomValue

/-- The fields of `MonitorStats` that the monitor's code reads: the three values `checkAlerts`
compares, and `CustomStats`, nil or a reference into the heap of maps. -/
structure MonitorStats where
  numGoroutines : Int
  heapAlloc : Nat
  stackInuse : Nat
  customStats : Option Nat
  deriving DecidableEq, Repr

/-- The fields of `AlertConfig` the monitor reads; `CheckInterval` is never read. The handler is
nil or a function, given by an identifier. -/
structure AlertConfig where
  maxGoroutines : Int
  maxHeapAlloc : Nat
  maxStackInuse : Nat
  alertHandler : Option Nat
  deriving DecidableEq, Repr

/-- The fields of `Alert` besides `Timestamp`. `Value` and `Threshold` hold an `int` or a
`uint64`. -/
structure Alert where
  type : List UInt8
  message : List UInt8
  value : Int
  threshold : Int
  severity : List UInt8
  deriving DecidableEq, Repr

/-- What `runtime.NumGoroutine` and `runtime.ReadMemStats` report at a collection, as far as
the monitor's code reads it. -/
structure Readings where
  numGoroutines : Int
  heapAlloc : Nat
  stackInuse : Nat
  deriving DecidableEq, Repr

/-- The three checks of `checkAlerts`, in the order it makes them. -/
inductive AlertKind
  | goroutines
  | heapAlloc
  | stackInuse
  deriving DecidableEq, Repr

/-- The field of the record a check reads. -/
def AlertKind.value : AlertKind → MonitorStats → Int
  | .goroutines, stats => stats.numGoroutines
  | .heapAlloc, stats => stats.heapAlloc
  | .stackInuse, stats => stats.stackInuse

/-- The threshold a check compares the field with. -/
def AlertKind.threshold : AlertKind → AlertConfig → Int
  | .goroutines, config => config.maxGoroutines
  | .heapAlloc, config => config.maxHeapAlloc
  | .stackInuse, config => config.maxStackInuse

/-- The alert a check raises, with the value it reads when it builds the alert. -/
def AlertKind.alert (kind : AlertKind) (value threshold : Int) : Alert :=
  match kind with
  | .goroutines => ⟨goString "high_goroutines", goString "协程数量超过阈值", value, threshold, goString "high"⟩
  | .heapAlloc => ⟨goString "high_heap_alloc", goString "堆内存使用超过阈值", value, threshold, goString "high"⟩
  | .stackInuse => ⟨goString "high_stack_inuse", goString "栈内存使用超过阈值", value, threshold, goString "medium"⟩

@[simp] theorem AlertKind.alert_value (kind : AlertKind) (value threshold : Int) :
    (kind.alert value threshold).value = value := by
  cases kind <;> rfl

@[simp] theorem AlertKind.alert_threshold (kind : AlertKind) (value threshold : Int) :
    (kind.alert value threshold).threshold = threshold := by
  cases kind <;> rfl

/-- The check made after this one. -/
def AlertKind.following : AlertKind → Option AlertKind
  | .goroutines => some .heapAlloc
  | .heapAlloc => some .stackInuse
  | .stackInuse => none

/-- Where a goroutine started by `Start` is: in its `select`; after `collectStats`; in
`checkAlerts` with the configuration it copied, its handler, and the check it is about to
compare or whose alert it is about to build and pass to the handler; after `checkAlerts`; or
returned (after `Stop`, or because a call panicked). -/
inductive LoopPc
  | waiting
  | collected
  | checking (config : AlertConfig) (handler : Nat) (kind : AlertKind)
  | alerting (config : AlertConfig) (handler : Nat) (kind : AlertKind)
  | checked
  | exited (panicked : Bool)
  deriving DecidableEq, Repr

/-- Where `checkAlerts` goes after the check of `kind`: the next check, or its return. -/
def afterCheck (config : AlertConfig) (handler : Nat) (kind : AlertKind) : LoopPc :=
  match kind.following with
  | some kind => .checking config handler kind
  | none => .checked

/-- The monitor, its maps and its loops. `alerts` and `notified` record, in order, the calls of
the alert handler and of the monitor handlers; `callPanics` counts the `Stop` calls that closed
the closed `stopChan`. -/
structure Monitor where
  stats : MonitorStats
  heap : List CustomMap
  handlers : List Nat
  alertConfig : Option AlertConfig
  stopClosed : Bool
  loops : List LoopPc
  alerts : List (Nat × Alert)
  notified : List Nat
  callPanics : Nat

/-- `NewMonitor`: an empty record, no map yet, and the default thresholds with no handler. -/
def newMonitor : Monitor :=
  ⟨⟨0, 0, 0, none⟩, [], [], some ⟨1000, 100 * 1024 * 1024, 10 * 1024 * 1024, none⟩, false, [], [], [], 0⟩

/-- A key read through a copy of the record: its map's entry, or nothing when the map is nil. -/
def readCustom (m : Monitor) (stats : MonitorStats) (key : List UInt8) : Option CustomValue :=
  stats.customStats.bind fun r => (m.heap[r]?).bind fun map => map key

/-- `GetCustomStat`. -/
def Monitor.getCustomStat (m : Monitor) (key : List UInt8) : Option CustomValue := readCustom m m.stats key

/-- `GetStats`: a copy of the record, which shares its `CustomStats` map. -/
def Monitor.getStats (m : Monitor) : MonitorStats := m.stats

/-- `if m.stats.CustomStats == nil { m.stats.CustomStats = make(map[string]interface{}) }`. -/
def Monitor.ensureCustom (m : Monitor) : Monitor :=
  match m.stats.customStats with
  | some _ => m
  | none => { m with stats := { m.stats with customStats := some m.heap.length }, heap := m.heap ++ [fun _ => none] }

/-- `m.stats.CustomStats[key] = value` on a record whose map exists. -/
def Monitor.setCustom (m : Monitor) (key : List UInt8) (value : CustomValue) : Monitor :=
  match m.stats.customStats with
  | some r => { m with heap := m.heap.modify (fun map => Function.update map key (some value)) r }
  | none => m

/-- `SetCustomStat`. -/
def Monitor.setCustomStat (m : Monitor) (key : List UInt8) (value : CustomValue) : Monitor :=
  m.ensureCustom.setCustom key value

/-- The entries `collectStats` copies from the executor's statistics into `CustomStats`. -/
def executorEntries (executor : Stats) (lastPanicTime : Int) (lastPanicGoroutine : List UInt8) :
    List (List UInt8 × CustomValue) :=
  [(goString "executor_total_goroutines", .int64 executor.totalGoroutines),
   (goString "executor_active_goroutines", .int64 executor.activeGoroutines),
   (goString "executor_panic_count", .int64 executor.panicCount),
   (goString "executor_completed_count", .int64 executor.completedCount),
   (goString "executor_last_panic_time", .time lastPanicTime),
   (goString "executor_last_panic_goroutine", .text lastPanicGoroutine)]

/-- The keys `collectStats` writes, whatever the executor's statistics. -/
def executorKeys : List (List UInt8) := (executorEntries ⟨0, 0, 0, 0⟩ 0 []).map Prod.fst

/-- `collectStats`: the runtime's readings into the record, and the executor's statistics into
`CustomStats`, made first if it is nil. -/
def Monitor.collectStats (m : Monitor) (readings : Readings) (executor : Stats)
    (lastPanicTime : Int) (lastPanicGoroutine : List UInt8) : Monitor :=
  (executorEntries executor lastPanicTime lastPanicGoroutine).foldl (fun m entry => m.setCustom entry.1 entry.2)
    { m with stats := { m.stats with numGoroutines := readings.numGoroutines, heapAlloc := readings.heapAlloc,
                                     stackInuse := readings.stackInuse } }.ensureCustom

/-- Calling a handler on each of `calls` in order, when the call at `panicAt` (if any) panics:
the calls made, and whether one panicked. -/
def callInOrder {β : Type} (calls : List β) (panicAt : Option Nat) : List β × Bool :=
  match panicAt with
  | some n => if n < calls.length then (calls.take (n + 1), true) else (calls, false)
  | none => (calls, false)

inductive Action
  | start
  | stop
  | setAlertConfig (config : Option AlertConfig)
  | addHandler (handler : Nat)
  | setCustomStat (key : List UInt8) (value : CustomValue)
  | tick (loop : Nat) (readings : Readings) (executor : Stats) (lastPanicTime : Int)
      (lastPanicGoroutine : List UInt8)
  | quit (loop : Nat)
  | check (loop : Nat)
  | compare (loop : Nat)
  | alert (loop : Nat) (panics : Bool)
  | notify (loop : Nat) (panicAt : Option Nat)

/-- One step. `check` is the locked section of `checkAlerts`, where a nil configuration panics
when its handler is read; `compare` and `alert` read the shared record without the lock. -/
def next (m : Monitor) : Action → Option Monitor
  | .start => some { m with loops := m.loops ++ [.waiting] }
  | .stop => some (if m.stopClosed then { m with callPanics := m.callPanics + 1 } else { m with stopClosed := true })
  | .setAlertConfig config => some { m with alertConfig := config }
  | .addHandler handler => some { m with handlers := m.handlers ++ [handler] }
  | .setCustomStat key value => some (m.setCustomStat key value)
  | .tick l readings executor lastPanicTime lastPanicGoroutine =>
    if m.loops[l]? = some .waiting then
      some { m.collectStats readings executor lastPanicTime lastPanicGoroutine with
             loops := m.loops.set l .collected }
    else none
  | .quit l =>
    if m.loops[l]? = some .waiting ∧ m.stopClosed then some { m with loops := m.loops.set l (.exited false) }
    else none
  | .check l =>
    if m.loops[l]? = some .collected then
      match m.alertConfig with
      | none => some { m with loops := m.loops.set l (.exited true) }
      | some config =>
        match config.alertHandler with
        | none => some { m with loops := m.loops.set l .checked }
        | some handler => some { m with loops := m.loops.set l (.checking config handler .goroutines) }
    else none
  | .compare l =>
    match m.loops[l]? with
    | some (.checking config handler kind) =>
      some { m with loops := m.loops.set l (if kind.value m.stats > kind.threshold config
                                             then .alerting config handler kind
                                             else afterCheck config handler kind) }
    | _ => none
  | .alert l panics =>
    match m.loops[l]? with
    | some (.alerting config handler kind) =>
      some { m with alerts := m.alerts ++ [(handler, kind.alert (kind.value m.stats) (kind.threshold config))],
                    loops := m.loops.set l (if panics then .exited true else afterCheck config handler kind) }
    | _ => none
  | .notify l panicAt =>
    if m.loops[l]? = some .checked then
      let called := callInOrder m.handlers panicAt
      some { m with notified := m.notified ++ called.1,
                    loops := m.loops.set l (if called.2 then .exited true else .waiting) }
    else none

/-! ### The `CustomStats` map -/

/-- Writing a key changes the maps and nothing else. -/
theorem setCustom_eq (m : Monitor) (key : List UInt8) (value : CustomValue) :
    ∃ heap, m.setCustom key value = { m with heap := heap } := by
  unfold Monitor.setCustom
  split
  · exact ⟨_, rfl⟩
  · exact ⟨m.heap, rfl⟩

theorem foldl_setCustom_eq (entries : List (List UInt8 × CustomValue)) (m : Monitor) :
    ∃ heap, entries.foldl (fun m entry => m.setCustom entry.1 entry.2) m = { m with heap := heap } := by
  induction entries generalizing m with
  | nil => exact ⟨m.heap, rfl⟩
  | cons entry rest ih =>
    obtain ⟨heap₁, first⟩ := setCustom_eq m entry.1 entry.2
    obtain ⟨heap₂, later⟩ := ih (m.setCustom entry.1 entry.2)
    exact ⟨heap₂, by rw [List.foldl_cons, later, first]⟩

theorem ensureCustom_eq (m : Monitor) : ∃ stats heap, m.ensureCustom = { m with stats := stats, heap := heap } := by
  unfold Monitor.ensureCustom
  split
  · exact ⟨m.stats, m.heap, rfl⟩
  · exact ⟨_, _, rfl⟩

/-- A collection and `SetCustomStat` write the record and the maps, nothing else. -/
theorem collectStats_eq (m : Monitor) (readings : Readings) (executor : Stats) (lastPanicTime : Int)
    (lastPanicGoroutine : List UInt8) :
    ∃ stats heap, m.collectStats readings executor lastPanicTime lastPanicGoroutine =
      { m with stats := stats, heap := heap } := by
  obtain ⟨stats, heap₁, made⟩ := ensureCustom_eq
    { m with stats := { m.stats with numGoroutines := readings.numGoroutines, heapAlloc := readings.heapAlloc,
                                     stackInuse := readings.stackInuse } }
  obtain ⟨heap₂, written⟩ := foldl_setCustom_eq (executorEntries executor lastPanicTime lastPanicGoroutine) _
  exact ⟨stats, heap₂, by rw [Monitor.collectStats, made, written]⟩

theorem setCustomStat_eq (m : Monitor) (key : List UInt8) (value : CustomValue) :
    ∃ stats heap, m.setCustomStat key value = { m with stats := stats, heap := heap } := by
  obtain ⟨stats, heap₁, made⟩ := ensureCustom_eq m
  obtain ⟨heap₂, written⟩ := setCustom_eq m.ensureCustom key value
  exact ⟨stats, heap₂, by rw [Monitor.setCustomStat, written, made]⟩

theorem ensureCustom_of_some {m : Monitor} {r : Nat} (h : m.stats.customStats = some r) : m.ensureCustom = m := by
  simp only [Monitor.ensureCustom, h]

/-- Making the map adds no key. -/
@[simp] theorem getCustomStat_ensureCustom (m : Monitor) (key : List UInt8) :
    m.ensureCustom.getCustomStat key = m.getCustomStat key := by
  unfold Monitor.ensureCustom
  cases h : m.stats.customStats <;> simp [Monitor.getCustomStat, readCustom, h]

theorem getCustomStat_setCustom_of_ne (m : Monitor) {key k : List UInt8} (value : CustomValue) (ne : key ≠ k) :
    (m.setCustom k value).getCustomStat key = m.getCustomStat key := by
  unfold Monitor.setCustom
  cases h : m.stats.customStats with
  | none => rfl
  | some r =>
    simp only [Monitor.getCustomStat, readCustom, h, Option.some_bind, List.getElem?_modify_eq]
    cases m.heap[r]? <;> simp [Function.update_noteq ne]

theorem getCustomStat_foldl_setCustom {entries : List (List UInt8 × CustomValue)} {key : List UInt8}
    (h : key ∉ entries.map Prod.fst) (m : Monitor) :
    (entries.foldl (fun m entry => m.setCustom entry.1 entry.2) m).getCustomStat key = m.getCustomStat key := by
  induction entries generalizing m with
  | nil => rfl
  | cons entry rest ih =>
    simp only [List.map_cons, List.mem_cons, not_or] at h
    rw [List.foldl_cons, ih h.2, getCustomStat_setCustom_of_ne _ _ h.1]

theorem keys_executorEntries (executor : Stats) (lastPanicTime : Int) (lastPanicGoroutine : List UInt8) :
    (executorEntries executor lastPanicTime lastPanicGoroutine).map Prod.fst = executorKeys := rfl

/-- A collection writes only the executor's keys. -/
theorem getCustomStat_collectStats {key : List UInt8} (h : key ∉ executorKeys) (m : Monitor) (readings : Readings)
    (executor : Stats) (lastPanicTime : Int) (lastPanicGoroutine : List UInt8) :
    (m.collectStats readings executor lastPanicTime lastPanicGoroutine).getCustomStat key = m.getCustomStat key := by
  unfold Monitor.collectStats
  rw [getCustomStat_foldl_setCustom (keys_executorEntries executor lastPanicTime lastPanicGoroutine ▸ h),
    getCustomStat_ensureCustom]
  rfl

theorem customStats_collectStats {m : Monitor} {r : Nat} (h : m.stats.customStats = some r) (readings : Readings)
    (executor : Stats) (lastPanicTime : Int) (lastPanicGoroutine : List UInt8) :
    (m.collectStats readings executor lastPanicTime lastPanicGoroutine).stats.customStats = some r := by
  unfold Monitor.collectStats
  obtain ⟨heap, written⟩ := foldl_setCustom_eq (executorEntries executor lastPanicTime lastPanicGoroutine) _
  rw [written]
  simp only [Monitor.ensureCustom, h]

/-- `true` for the calls that write `CustomStats`: a collection and `SetCustomStat`. -/
def Action.writesCustom : Action → Bool
  | .tick .. | .setCustomStat .. => true
  | _ => false

/-- Every other call leaves the record and the maps alone. -/
theorem next_stats_heap {m m' : Monitor} {a : Action} (ha : a.writesCustom = false) (h : next m a = some m') :
    m'.stats = m.stats ∧ m'.heap = m.heap := by
  cases a <;> simp only [Action.writesCustom, Bool.true_eq_false] at ha <;> simp only [next] at h <;>
    repeat' split at h
  all_goals cases h <;> exact ⟨rfl, rfl⟩

/-- A step keeps the reference of the `CustomStats` map once there is one. -/
theorem customStats_next {m m' : Monitor} {r : Nat} (hr : m.stats.customStats = some r) {a : Action}
    (h : next m a = some m') : m'.stats.customStats = some r := by
  cases a with
  | setCustomStat key value =>
    cases h
    obtain ⟨heap, written⟩ := setCustom_eq m key value
    simp only [Monitor.setCustomStat, ensureCustom_of_some hr, written, hr]
  | tick l readings executor lastPanicTime lastPanicGoroutine =>
    simp only [next] at h
    split_ifs at h
    cases h
    exact customStats_collectStats hr readings executor lastPanicTime lastPanicGoroutine
  | _ => exact (next_stats_heap (by rfl) h).1 ▸ hr

/-- `GetStats` copies the record, and the copy shares the live `CustomStats` map: once the map
exists, a key read through a copy taken at any point of a run gives what `GetCustomStat` returns
at the end of the run, whatever came in between. -/
theorem getStats_shares_custom_stats {s t : Monitor} (h : Reachable next s t) (allocated : s.stats.customStats.isSome)
    (key : List UInt8) : readCustom t s.getStats key = t.getCustomStat key := by
  obtain ⟨r, hr⟩ := Option.isSome_iff_exists.mp allocated
  have kept : t.stats.customStats = some r :=
    h.induct_on (fun t => t.stats.customStats = some r) hr fun _ _ _ inv step => customStats_next inv step
  simp only [Monitor.getCustomStat, readCustom, Monitor.getStats, hr, kept]

/-- A monitor with one custom counter set. -/
def customJobs : Monitor := newMonitor.setCustomStat (goString "jobs") (.given 7)

/-- An alert handler and a monitor handler installed, one loop started and ticking once over
readings above the goroutine threshold only, then `Stop`. -/
def tickAndStop : List Action :=
  [.setAlertConfig (some ⟨1000, 100 * 1024 * 1024, 10 * 1024 * 1024, some 0⟩), .addHandler 1, .start,
   .tick 0 ⟨1200, 1024, 512⟩ ⟨3, 1, 0, 2⟩ 0 [], .check 0, .compare 0, .alert 0 false, .compare 0, .compare 0,
   .notify 0 none, .stop, .quit 0]

def afterTickAndStop : Monitor := (run next customJobs tickAndStop).getD customJobs

theorem run_tickAndStop : run next customJobs tickAndStop = some afterTickAndStop := rfl

theorem run_jobs_tickAndStop :
    run next newMonitor (.setCustomStat (goString "jobs") (.given 7) :: tickAndStop) = some afterTickAndStop := by
  rw [run_cons, show next newMonitor (.setCustomStat (goString "jobs") (.given 7)) = some customJobs from rfl,
    Option.some_bind]
  exact run_tickAndStop

theorem getStats_shares_custom_stats_after_tick :
    Reachable next customJobs afterTickAndStop ∧ customJobs.stats.customStats.isSome ∧
      readCustom afterTickAndStop customJobs.getStats (goString "executor_active_goroutines") =
        afterTickAndStop.getCustomStat (goString "executor_active_goroutines") :=
  have h : Reachable next customJobs afterTickAndStop := reachable_of_run next tickAndStop run_tickAndStop
  ⟨h, rfl, getStats_shares_custom_stats h rfl _⟩

/-- Only a `SetCustomStat` of the key, or a collection for one of the executor's keys, changes
what `GetCustomStat` returns. -/
theorem getCustomStat_next {m m' : Monitor} {a : Action} (h : next m a = some m') {key : List UInt8}
    (notExecutor : key ∉ executorKeys) (untouched : ∀ value, a ≠ .setCustomStat key value) :
    m'.getCustomStat key = m.getCustomStat key := by
  cases a with
  | setCustomStat k value =>
    cases h
    have ne : key ≠ k := fun same => untouched value (same ▸ rfl)
    exact (getCustomStat_setCustom_of_ne _ value ne).trans (getCustomStat_ensureCustom m key)
  | tick l readings executor lastPanicTime lastPanicGoroutine =>
    simp only [next] at h
    split_ifs at h
    cases h
    exact getCustomStat_collectStats notExecutor m readings executor lastPanicTime lastPanicGoroutine
  | _ =>
    obtain ⟨same, heap⟩ := next_stats_heap (by rfl) h
    simp only [Monitor.getCustomStat, readCustom, same, heap]

/-- Collections merge into `CustomStats` rather than replace it: in every run without a
`SetCustomStat` of a key other than the executor's, `GetCustomStat` of that key returns at the
end what it returned at the start, through any number of collections. -/
theorem custom_stat_survives_collections {s t : Monitor} {actions : List Action} (h : run next s actions = some t)
    {key : List UInt8} (notExecutor : key ∉ executorKeys) (untouched : ∀ value, Action.setCustomStat key value ∉ actions) :
    t.getCustomStat key = s.getCustomStat key := by
  induction actions generalizing s with
  | nil => cases h; rfl
  | cons a rest ih =>
    obtain ⟨s₁, first, later⟩ := run_cons_some h
    rw [ih later fun value mem => untouched value (List.mem_cons_of_mem a mem),
      getCustomStat_next first notExecutor fun value same => untouched value (same ▸ List.mem_cons_self _ _)]

theorem custom_stat_survives_collections_after_tick :
    run next customJobs tickAndStop = some afterTickAndStop ∧ goString "jobs" ∉ executorKeys ∧
      (∀ value, Action.setCustomStat (goString "jobs") value ∉ tickAndStop) ∧
      afterTickAndStop.getCustomStat (goString "jobs") = customJobs.getCustomStat (goString "jobs") :=
  have untouched : ∀ value, Action.setCustomStat (goString "jobs") value ∉ tickAndStop := by simp [tickAndStop]
  ⟨run_tickAndStop, by decide, untouched, custom_stat_survives_collections run_tickAndStop (by decide) untouched⟩

/-! ### Alerts -/

/-- `SetCustomStat` writes no field that `checkAlerts` compares. -/
theorem value_setCustomStat (kind : AlertKind) (m : Monitor) (key : List UInt8) (value : CustomValue) :
    kind.value (m.setCustomStat key value).stats = kind.value m.stats := by
  obtain ⟨heap, written⟩ := setCustom_eq m.ensureCustom key value
  rw [Monitor.setCustomStat, written]
  unfold Monitor.ensureCustom
  split <;> cases kind <;> rfl

/-- What a loop about to build an alert read: a value above the threshold. -/
def LoopPc.sound (stats : MonitorStats) : LoopPc → Prop
  | .alerting config _ kind => kind.threshold config < kind.value stats
  | _ => True

/-- Every alert handed to the alert handler reports a value above its threshold, and every loop
about to build an alert compared a value above the threshold that the record still holds. -/
structure AlertsRaised (m : Monitor) : Prop where
  raised : ∀ x ∈ m.alerts, x.2.threshold < x.2.value
  pending : ∀ pc ∈ m.loops, pc.sound m.stats

theorem afterCheck_sound (stats : MonitorStats) (config : AlertConfig) (handler : Nat) (kind : AlertKind) :
    (afterCheck config handler kind).sound stats := by
  unfold afterCheck
  split <;> trivial

theorem sound_set {stats : MonitorStats} {loops : List LoopPc} (h : ∀ pc ∈ loops, pc.sound stats)
    {pc : LoopPc} (sound : pc.sound stats) (l : Nat) : ∀ x ∈ loops.set l pc, x.sound stats := fun x mem =>
  (List.mem_or_eq_of_mem_set mem).elim (h x) fun same => same ▸ sound

/-- A step never drops a loop. -/
theorem loops_length_next {m m' : Monitor} {a : Action} (h : next m a = some m') :
    m.loops.length ≤ m'.loops.length := by
  cases a with
  | start => cases h; simp
  | tick l readings executor lastPanicTime lastPanicGoroutine =>
    simp only [next] at h
    split_ifs at h
    cases h
    obtain ⟨stats, heap, eq⟩ := collectStats_eq m readings executor lastPanicTime lastPanicGoroutine
    simp [eq]
  | setCustomStat key value =>
    cases h
    obtain ⟨stats, heap, eq⟩ := setCustomStat_eq m key value
    simp [eq]
  | _ =>
    simp only [next] at h
    repeat' split at h
    all_goals cases h <;> simp

/-- A run with one loop: once a loop has collected, no other loop can collect before it builds
its alerts, so the record it compared is the record it reads again. -/
theorem alertsRaised_next {m m' : Monitor} (inv : AlertsRaised m) (single : m'.loops.length ≤ 1) {a : Action}
    (h : next m a = some m') : AlertsRaised m' := by
  obtain ⟨raised, pending⟩ := inv
  cases a with
  | tick l readings executor lastPanicTime lastPanicGoroutine =>
    simp only [next] at h
    split_ifs at h with waiting
    cases h
    obtain ⟨stats, heap, eq⟩ := collectStats_eq m readings executor lastPanicTime lastPanicGoroutine
    have only : m.loops = [.waiting] ∧ l = 0 := by
      have len : m.loops.length ≤ 1 := by simpa using single
      rcases hl : m.loops with _ | ⟨pc, _ | ⟨_, _⟩⟩ <;> rw [hl] at waiting len
      · simp at waiting
      · rcases l with _ | l <;> simp_all
      · simp at len
    refine ⟨by simpa [eq] using raised, fun pc mem => ?_⟩
    simp only [only.1, only.2, List.set_cons_zero, List.mem_singleton] at mem
    subst mem
    trivial
  | setCustomStat key value =>
    cases h
    obtain ⟨stats, heap, eq⟩ := setCustomStat_eq m key value
    refine ⟨by simpa [eq] using raised, fun pc mem => ?_⟩
    have := pending pc (by simpa [eq] using mem)
    cases pc with
    | alerting config handler kind => simpa only [LoopPc.sound, value_setCustomStat] using this
    | _ => trivial
  | compare l =>
    simp only [next] at h
    split at h <;> cases h
    refine ⟨raised, sound_set pending ?_ l⟩
    split
    · assumption
    · exact afterCheck_sound _ _ _ _
  | alert l panics =>
    simp only [next] at h
    split at h <;> cases h
    rename_i config handler kind alerting
    have over : kind.threshold config < kind.value m.stats := pending _ (List.getElem?_mem alerting)
    refine ⟨fun x mem => ?_, sound_set pending ?_ l⟩
    · rcases List.mem_append.mp mem with old | new
      · exact raised x old
      · simp only [List.mem_singleton] at new
        simpa [new] using over
    · split
      · trivial
      · exact afterCheck_sound _ _ _ _
  | start =>
    cases h
    exact ⟨raised, fun pc mem => (List.mem_append.mp mem).elim (pending pc) fun new => by
      simp only [List.mem_singleton] at new; subst new; trivial⟩
  | _ =>
    simp only [next] at h
    repeat' split at h
    all_goals cases h
    all_goals first | exact ⟨raised, sound_set pending (by trivial) _⟩ | exact ⟨raised, pending⟩

/-- With one loop started, the alert handler is only ever called with an alert whose value is
above its threshold. `checkAlerts` reads each field twice without the lock, to compare it and to
build the alert, and only the one loop's collections write those fields. -/
theorem alerts_exceed_thresholds {m : Monitor} (h : Reachable next newMonitor m) (single : m.loops.length ≤ 1) :
    ∀ x ∈ m.alerts, x.2.threshold < x.2.value :=
  (h.induct_on (fun m => m.loops.length ≤ 1 → AlertsRaised m)
    (fun _ => ⟨fun x mem => absurd mem (List.not_mem_nil x), fun pc mem => absurd mem (List.not_mem_nil pc)⟩)
    (fun _ _ _ inv step single => alertsRaised_next (inv ((loops_length_next step).trans single)) single step)
    single).raised

theorem alerts_exceed_thresholds_after_tick :
    Reachable next newMonitor afterTickAndStop ∧ afterTickAndStop.loops.length ≤ 1 ∧
      afterTickAndStop.alerts.length = 1 ∧ ∀ x ∈ afterTickAndStop.alerts, x.2.threshold < x.2.value :=
  have h : Reachable next newMonitor afterTickAndStop :=
    reachable_of_run next (.setCustomStat (goString "jobs") (.given 7) :: tickAndStop) run_jobs_tickAndStop
  ⟨h, by decide, rfl, alerts_exceed_thresholds h (by decide)⟩

/-- Two loops: the first compares a goroutine count above `MaxGoroutines`, and the second collects
a lower one before the first builds its alert, which reports a value below the threshold. -/
theorem second_loop_lowers_alert_value :
    ∃ m, Reachable next newMonitor m ∧ m.loops.length = 2 ∧ ∃ x ∈ m.alerts, x.2.value < x.2.threshold := by
  obtain ⟨m, h, test⟩ := exists_reachable_of_run next newMonitor
    [.setAlertConfig (some ⟨1000, 100 * 1024 * 1024, 10 * 1024 * 1024, some 0⟩), .start, .start,
     .tick 0 ⟨1200, 1024, 512⟩ ⟨3, 1, 0, 2⟩ 0 [], .check 0, .compare 0,
     .tick 1 ⟨900, 1024, 512⟩ ⟨3, 1, 0, 2⟩ 0 [], .alert 0 false]
    (fun m => m.loops.length == 2 && m.alerts.any fun x => decide (x.2.value < x.2.threshold)) (by decide)
  simp only [Bool.and_eq_true, beq_iff_eq, List.any_eq_true, decide_eq_true_eq] at test
  exact ⟨m, h, test.1, test.2⟩

end ToolKit.Executor.Monitoring
