import ToolKit.Redis.ScriptManager
import Mathlib.Algebra.BigOperators.Group.List
import Mathlib.Algebra.Ring.Int.Defs

/-! What the statistics `ScriptManager` keeps for a script mean: each record against the list
of `ExecuteScript` calls since it was created or last reset, kept beside the manager. -/

namespace ToolKit.Redis

/-- One `ExecuteScript` call as `updateStats` sees it: what `Execute` returned and how long the
call took. -/
structure Execution where
  result : Option ScriptResult
  err : Option (List UInt8)
  duration : Int
  deriving DecidableEq, Repr

/-- `updateStats` counts a call as a cache hit when `Execute` returned a result with a SHA. -/
def Execution.hit (e : Execution) : Bool := e.result.any fun result => result.sha != []

/-- The statistics of a list of calls, computed from the whole list: counts, sum, truncated mean,
the largest duration and 0, the smallest duration and an hour, the last error's text (or the
message `carried` from before the list began), and no reload. -/
def summarize (carried : List UInt8) (history : List Execution) : ScriptStats where
  executions := history.length
  totalTime := (history.map Execution.duration).sum
  averageTime := (history.map Execution.duration).sum.tdiv history.length
  maxTime := (history.map Execution.duration).foldl max 0
  minTime := (history.map Execution.duration).foldl min hour
  errors := history.countP fun e => e.err.isSome
  lastErrorMsg := ((history.filterMap Execution.err).getLast?).getD carried
  cacheHits := history.countP Execution.hit
  cacheMisses := history.countP fun e => !e.hit
  reloads := 0

theorem summarize_nil (carried : List UInt8) :
    summarize carried [] = { newScriptStats with lastErrorMsg := carried } := rfl

theorem summarize_nil_nil : summarize [] [] = newScriptStats := rfl

/-- `updateStats` on a name without a record starts from a fresh one. -/
theorem updateStats_none (result : Option ScriptResult) (err : Option (List UInt8)) (duration : Int) :
    updateStats none result err duration = updateStats (some newScriptStats) result err duration := by
  simp only [updateStats, Option.getD_none, Option.getD_some]

/-- `updateStats` on an existing record, field by field: one more execution, its duration added,
the mean recomputed, the extremes moved, the error and the cache outcome counted. -/
theorem updateStats_some (stats : ScriptStats) (result : Option ScriptResult) (err : Option (List UInt8))
    (duration : Int) :
    updateStats (some stats) result err duration =
      { stats with
        executions := stats.executions + 1
        totalTime := stats.totalTime + duration
        averageTime := (stats.totalTime + duration).tdiv (stats.executions + 1)
        maxTime := if duration > stats.maxTime then duration else stats.maxTime
        minTime := if duration < stats.minTime then duration else stats.minTime
        errors := stats.errors + if err.isSome then 1 else 0
        lastErrorMsg := err.getD stats.lastErrorMsg
        cacheHits := stats.cacheHits + if (Execution.mk result err duration).hit then 1 else 0
        cacheMisses := stats.cacheMisses + if (Execution.mk result err duration).hit then 0 else 1 } := by
  unfold updateStats
  rcases err with _ | err <;> rcases result with _ | ⟨value, resultErr, sha⟩ <;>
    simp only [Option.getD_some, Option.getD_none, Option.isSome_none, Option.isSome_some, Execution.hit,
      Option.any_none, Option.any_some] <;>
    split_ifs <;> simp_all

/-- `updateStats` on the summary of a list is the summary of the list with the new call. -/
theorem updateStats_summarize (carried : List UInt8) (history : List Execution) (e : Execution) :
    updateStats (some (summarize carried history)) e.result e.err e.duration =
      summarize carried (history ++ [e]) := by
  obtain ⟨result, err, duration⟩ := e
  have largest (m : Int) : (if duration > m then duration else m) = max m duration := by
    rw [Int.max_def]; split_ifs <;> omega
  have smallest (m : Int) : (if duration < m then duration else m) = min m duration := by
    rw [Int.min_def]; split_ifs <;> omega
  rw [updateStats_some]
  simp only [summarize, largest, smallest, List.length_append, List.length_singleton, List.map_append,
    List.map_singleton, List.sum_append, List.sum_singleton, List.foldl_append, List.foldl_cons,
    List.foldl_nil, List.countP_append, List.filterMap_append]
  cases hit : Execution.hit ⟨result, err, duration⟩ <;> cases err <;> simp [hit]

/-- The manager beside, for each name with a record, the `LastErrorMsg` the record carried when
its current history began and the calls since then; kept for the statement, not part of the
source. -/
structure Timed where
  manager : ScriptManager
  history : List UInt8 → Option (List UInt8 × List Execution)

def Timed.start (cache : List UInt8 → Option (List UInt8)) : Timed := ⟨newScriptManager cache, fun _ => none⟩

def Timed.step (t : Timed) : Call → Timed
  | .registerScript info sha loadError =>
    let registered := t.manager.registerScript info sha loadError
    ⟨registered.1, match registered.2 with
      | some _ => t.history
      | none => setEntry t.history info.name ([], [])⟩
  | .executeScript name opts reply duration =>
    let executed := t.manager.executeScript name opts reply duration
    let begun := (t.history name).getD ([], [])
    ⟨executed.1, setEntry t.history name (begun.1, begun.2 ++ [⟨executed.2.1, executed.2.2, duration⟩])⟩
  | .resetStats name =>
    ⟨t.manager.resetStats name, match t.history name with
      | some begun => setEntry t.history name ((summarize begun.1 begun.2).lastErrorMsg, [])
      | none => t.history⟩

/-- Every call is enabled. -/
def nextTimed (t : Timed) (c : Call) : Option Timed := some (t.step c)

/-- Every name's record is the summary of its history, and a name without a history has none. -/
def Summarized (t : Timed) : Prop :=
  ∀ name, t.manager.stats name = (t.history name).map fun begun => summarize begun.1 begun.2

theorem summarized_step {t : Timed} (h : Summarized t) (c : Call) : Summarized (t.step c) := by
  intro k
  cases c with
  | registerScript info sha loadError =>
    simp only [Timed.step, ScriptManager.registerScript]
    cases (register t.manager.cache info sha loadError).2 with
    | some err => exact h k
    | none =>
      by_cases same : k = info.name
      · simp only [same, setEntry_same]
        rfl
      · simpa [setEntry, same] using h k
  | executeScript name opts reply duration =>
    simp only [Timed.step, ScriptManager.executeScript]
    by_cases same : k = name
    · subst same
      simp only [setEntry_same, h k]
      generalize execute (t.manager.cache k) k opts reply = returned
      cases t.history k with
      | none =>
        simp only [Option.map_none', Option.getD_none, updateStats_none, ← summarize_nil_nil]
        exact congrArg some (updateStats_summarize [] [] ⟨returned.1, returned.2, duration⟩)
      | some begun =>
        simp only [Option.map_some', Option.getD_some]
        exact congrArg some (updateStats_summarize begun.1 begun.2 ⟨returned.1, returned.2, duration⟩)
    · simpa [setEntry, same] using h k
  | resetStats name =>
    simp only [Timed.step, ScriptManager.resetStats, h name]
    cases t.history name with
    | none => exact h k
    | some begun =>
      by_cases same : k = name
      · simp only [same, Option.map_some', setEntry_same]
        rfl
      · simpa [setEntry, same] using h k

theorem summarized_reachable {cache : List UInt8 → Option (List UInt8)} {t : Timed}
    (h : Reachable nextTimed (Timed.start cache) t) : Summarized t :=
  h.induct_on Summarized (fun _ => rfl) fun _ c _ inv step => by cases step; exact summarized_step inv c

/-- In every run, each name's statistics record is the summary of the `ExecuteScript` calls since
the record was created or last reset: `Executions` counts them, `TotalTime` adds their durations
and `AverageTime` is that sum divided by the count, truncated; `MaxTime` is the largest duration
or 0 and `MinTime` the smallest or an hour; `Errors` counts the calls in which `Execute` returned
an error of its own and `LastErrorMsg` is the last such error, kept across `ResetStats`;
`CacheHits` counts the results that carry a SHA, `CacheMisses` the others, and `Reloads` stays 0. -/
theorem stats_summarize_history {cache : List UInt8 → Option (List UInt8)} {t : Timed}
    (h : Reachable nextTimed (Timed.start cache) t) (name : List UInt8) :
    t.manager.stats name = (t.history name).map fun begun => summarize begun.1 begun.2 :=
  summarized_reachable h name

/-- `RegisterScript` of `return 1`, then one `ExecuteScript` that took a millisecond. -/
def registeredThenRun : Timed :=
  ((Timed.start fun _ => none).step
      (.registerScript ⟨goString "incr", goString "return 1"⟩ (goString "e0e1f9fabfc9d4800c877a703b823ac0578ff8db") none)).step
    (.executeScript (goString "incr") none (fun _ => .value 1) 1000000)

theorem stats_summarize_history_registered_then_run :
    Reachable nextTimed (Timed.start fun _ => none) registeredThenRun ∧
      registeredThenRun.manager.stats (goString "incr") =
        (registeredThenRun.history (goString "incr")).map fun begun => summarize begun.1 begun.2 :=
  have h : Reachable nextTimed (Timed.start fun _ => none) registeredThenRun :=
    reachable_of_run _ [.registerScript ⟨goString "incr", goString "return 1"⟩
      (goString "e0e1f9fabfc9d4800c877a703b823ac0578ff8db") none,
      .executeScript (goString "incr") none (fun _ => .value 1) 1000000] rfl
  ⟨h, stats_summarize_history h _⟩

/-! ### Counting calls and errors -/

/-- The record `Tracked` keeps: the timed run with the durations and the carried messages
forgotten. -/
def Timed.forget (t : Timed) : Tracked :=
  ⟨t.manager, fun name => ((t.history name).map fun begun => begun.2.map fun e => (e.result, e.err)).getD []⟩

theorem Timed.forget_start (cache : List UInt8 → Option (List UInt8)) :
    (Timed.start cache).forget = Tracked.start cache := rfl

/-- One call on the timed run, forgotten, is the same call on the run `Tracked` records; a reset
matches on the record where `Timed` matches on the history, which agree by `Summarized`. -/
theorem Timed.forget_step {t : Timed} (h : Summarized t) (c : Call) : (t.step c).forget = t.forget.step c := by
  cases c with
  | registerScript info sha loadError =>
    simp only [Timed.step, Tracked.step, Timed.forget, ScriptManager.registerScript]
    cases (register t.manager.cache info sha loadError).2 with
    | some err => rfl
    | none =>
      congr 1
      funext k
      by_cases same : k = info.name <;> simp [setEntry, same]
  | executeScript name opts reply duration =>
    simp only [Timed.step, Tracked.step, Timed.forget]
    congr 1
    funext k
    by_cases same : k = name
    · subst same
      cases t.history k <;> simp [setEntry]
    · simp [setEntry, same]
  | resetStats name =>
    simp only [Timed.step, Tracked.step, Timed.forget, h name]
    cases t.history name with
    | none => rfl
    | some begun =>
      congr 1
      funext k
      by_cases same : k = name <;> simp [setEntry, same]

/-- Every state of the run `Tracked` records is a state of the timed run, forgotten. -/
theorem exists_timed_of_reachable {cache : List UInt8 → Option (List UInt8)} {t : Tracked}
    (h : Reachable next (Tracked.start cache) t) :
    ∃ u, Reachable nextTimed (Timed.start cache) u ∧ u.forget = t := by
  induction h with
  | init => exact ⟨_, .init, Timed.forget_start cache⟩
  | step c _ step ih =>
    obtain ⟨u, reach, rfl⟩ := ih
    cases step
    exact ⟨u.step c, reach.step c rfl, Timed.forget_step (summarized_reachable reach) c⟩

/-- A name's record counts the calls recorded for it, and the errors among them that `Execute`
returned of its own; a name without a record has none recorded. -/
def EntryAccounted (returned : List (Option ScriptResult × Option (List UInt8))) : Option ScriptStats → Prop
  | some stats => stats.executions = returned.length ∧ stats.errors = returned.countP fun r => r.2.isSome
  | none => returned = []

structure Accounted (t : Tracked) : Prop where
  entry : ∀ name, EntryAccounted (t.returned name) (t.manager.stats name)

/-- In every run, each script's `Executions` is the number of `ExecuteScript` calls since its
statistics were created or reset, and its `Errors` the number of those in which `Execute`
returned an error of its own, which it does only when it finds no SHA. -/
theorem errors_count_execute_errors {cache : List UInt8 → Option (List UInt8)} {t : Tracked}
    (h : Reachable next (Tracked.start cache) t) : Accounted t := by
  obtain ⟨u, reach, rfl⟩ := exists_timed_of_reachable h
  refine ⟨fun name => ?_⟩
  simp only [Timed.forget, summarized_reachable reach name]
  cases u.history name with
  | none => rfl
  | some begun => exact ⟨by simp [summarize], by simp [summarize, List.countP_map]; rfl⟩

/-- `ExecuteScript` of a name that was never registered: `Execute` finds no SHA. -/
def missingScriptRun : Tracked :=
  (Tracked.start fun _ => none).step (.executeScript (goString "missing") none (fun _ => .error []) 5)

theorem errors_count_execute_errors_missing :
    Reachable next (Tracked.start fun _ => none) missingScriptRun ∧
      (missingScriptRun.manager.stats (goString "missing")).map (fun stats => (stats.executions, stats.errors)) =
        some (1, 1) ∧ Accounted missingScriptRun :=
  have h : Reachable next (Tracked.start fun _ => none) missingScriptRun :=
    reachable_of_run _ [.executeScript (goString "missing") none (fun _ => .error []) 5] rfl
  ⟨h, by decide, errors_count_execute_errors h⟩

end ToolKit.Redis
