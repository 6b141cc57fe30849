import ToolKit.Redis.Lua
import ToolKit.Run

/-! `ScriptManager` (`redis/script_manager.go`) over any sequence of `RegisterScript`,
`ExecuteScript` and `ResetStats` calls, each taken under the manager's lock, so one after another.
What `calculateSHA` and `SCRIPT LOAD` return is given with each registration. -/

namespace ToolKit.Redis

/-- The fields of `ScriptStats` that `updateStats` and `ResetStats` compute from the calls;
durations are in nanoseconds. -/
structure ScriptStats where
  executions : Int
  totalTime : Int
  averageTime : Int
  maxTime : Int
  minTime : Int
  errors : Int
  lastErrorMsg : List UInt8
  cacheHits : Int
  cacheMisses : Int
  reloads : Int
  deriving DecidableEq, Repr

/-- `time.Hour`. -/
def hour : Int := 3600000000000

/-- The record `RegisterScript` stores and `updateStats` creates for a name it has none for. -/
def newScriptStats : ScriptStats := ⟨0, 0, 0, 0, hour, 0, [], 0, 0, 0⟩

/-- `updateStats`, on the record the name has, if any. -/
def updateStats (stats : Option ScriptStats) (result : Option ScriptResult) (err : Option (List UInt8))
    (duration : Int) : ScriptStats :=
  let stats := stats.getD newScriptStats
  let executions := stats.executions + 1
  let totalTime := stats.totalTime + duration
  let stats := { stats with executions, totalTime, averageTime := totalTime.tdiv executions }
  let stats := if duration > stats.maxTime then { stats with maxTime := duration } else stats
  let stats := if duration < stats.minTime then { stats with minTime := duration } else stats
  let stats := match err with
    | some err => { stats with errors := stats.errors + 1, lastErrorMsg := err }
    | none => stats
  match result with
  | some result =>
    if result.sha != [] then { stats with cacheHits := stats.cacheHits + 1 }
    else { stats with cacheMisses := stats.cacheMisses + 1 }
  | none => { stats with cacheMisses := stats.cacheMisses + 1 }

/-- `m[key] = value` on a map held as a function. -/
def setEntry {β : Type} (m : List UInt8 → Option β) (key : List UInt8) (value : β) : List UInt8 → Option β :=
  fun k => if k = key then some value else m k

@[simp] theorem setEntry_same {β : Type} (m : List UInt8 → Option β) (key : List UInt8) (value : β) :
    setEntry m key value key = some value := if_pos rfl

theorem setEntry_other {β : Type} (m : List UInt8 → Option β) {key k : List UInt8} (value : β)
    (h : k ≠ key) : setEntry m key value k = m k := if_neg h

/-- The name and source of a `ScriptInfo`. -/
structure ScriptInfo where
  name : List UInt8
  source : List UInt8
  deriving DecidableEq, Repr

/-- `Script.Register` on the `Script`'s cache: `sha` is `calculateSHA(info.Source)` and
`loadError` is what `SCRIPT LOAD` returned. The SHA is cached before the load, whatever it
returns. -/
def register (cache : List UInt8 → Option (List UInt8)) (info : ScriptInfo) (sha : List UInt8)
    (loadError : Option (List UInt8)) : (List UInt8 → Option (List UInt8)) × Option (List UInt8) :=
  if info.name = [] then (cache, some (goString "script name cannot be empty"))
  else if info.source = [] then (cache, some (goString "script source cannot be empty"))
  else (setEntry cache info.name sha, loadError.map fun err => goString "failed to load script: " ++ err)

/-- The `Script`'s SHA cache and the manager's statistics. -/
structure ScriptManager where
  cache : List UInt8 → Option (List UInt8)
  stats : List UInt8 → Option ScriptStats

/-- `NewScriptManager` on a `Script` whose cache is `cache`. -/
def newScriptManager (cache : List UInt8 → Option (List UInt8)) : ScriptManager := ⟨cache, fun _ => none⟩

/-- `RegisterScript`: `Register`'s error, and a fresh record once it has succeeded. -/
def ScriptManager.registerScript (sm : ScriptManager) (info : ScriptInfo) (sha : List UInt8)
    (loadError : Option (List UInt8)) : ScriptManager × Option (List UInt8) :=
  let registered := register sm.cache info sha loadError
  ({ cache := registered.1,
     stats := match registered.2 with
       | some _ => sm.stats
       | none => setEntry sm.stats info.name newScriptStats },
   registered.2)

/-- `ExecuteScript`, taking `duration` to run: the manager after `updateStats`, and what
`Execute` returned. The `Script`'s cache and the statistics are maps from script names. -/
def ScriptManager.executeScript (sm : ScriptManager) (name : List UInt8) (opts : Option ScriptOptions)
    (reply : Nat → Reply) (duration : Int) : ScriptManager × (Option ScriptResult × Option (List UInt8)) :=
  let returned := execute (sm.cache name) name opts reply
  ({ sm with stats := setEntry sm.stats name (updateStats (sm.stats name) returned.1 returned.2 duration) },
   returned)

/-- The counters `ResetStats` zeroes; `LastErrorMsg` stays. -/
def ScriptStats.reset (stats : ScriptStats) : ScriptStats :=
  { stats with executions := 0, totalTime := 0, averageTime := 0, maxTime := 0, minTime := hour,
               errors := 0, cacheHits := 0, cacheMisses := 0, reloads := 0 }

/-- `ResetStats`: reset the record of a name that has one. -/
def ScriptManager.resetStats (sm : ScriptManager) (name : List UInt8) : ScriptManager :=
  match sm.stats name with
  | some stats => { sm with stats := setEntry sm.stats name stats.reset }
  | none => sm

/-- A call on the manager, with what the world gives it. -/
inductive Call
  | registerScript (info : ScriptInfo) (sha : List UInt8) (loadError : Option (List UInt8))
  | executeScript (name : List UInt8) (opts : Option ScriptOptions) (reply : Nat → Reply) (duration : Int)
  | resetStats (name : List UInt8)

/-- The manager beside a record, kept for the statement and not part of the source, of what each
`ExecuteScript` on a name returned since the name's statistics were created or reset. -/
structure Tracked where
  manager : ScriptManager
  returned : List UInt8 → List (Option ScriptResult × Option (List UInt8))

def Tracked.start (cache : List UInt8 → Option (List UInt8)) : Tracked := ⟨newScriptManager cache, fun _ => []⟩

def Tracked.step (t : Tracked) : Call → Tracked
  | .registerScript info sha loadError =>
    let registered := t.manager.registerScript info sha loadError
    ⟨registered.1, match registered.2 with
      | some _ => t.returned
      | none => fun k => if k = info.name then [] else t.returned k⟩
  | .executeScript name opts reply duration =>
    let executed := t.manager.executeScript name opts reply duration
    ⟨executed.1, fun k => if k = name then t.returned k ++ [executed.2] else t.returned k⟩
  | .resetStats name =>
    ⟨t.manager.resetStats name, match t.manager.stats name with
      | some _ => fun k => if k = name then [] else t.returned k
      | none => t.returned⟩

/-- Every call is enabled. -/
def next (t : Tracked) (c : Call) : Option Tracked := some (t.step c)

/-- `RegisterScript` of `return 1`, then one `ExecuteScript` with default options in which
`EVALSHA` fails with an error that is neither `NOSCRIPT` nor retryable: `ExecuteScript` returns
the failure inside its result and no error, and the record shows one execution and no error, so
`SuccessRate` is 100. -/
theorem failed_script_run_not_counted :
    ∃ t, Reachable next (Tracked.start fun _ => none) t ∧
      t.returned (goString "incr") =
        [(some ⟨none, some (goString "ERR user_script:1: attempt to call a nil value"),
          goString "e0e1f9fabfc9d4800c877a703b823ac0578ff8db"⟩, none)] ∧
      (t.manager.stats (goString "incr")).map (fun stats => (stats.executions, stats.errors)) = some (1, 0) :=
  ⟨_, reachable_of_run _
    [.registerScript ⟨goString "incr", goString "return 1"⟩ (goString "e0e1f9fabfc9d4800c877a703b823ac0578ff8db") none,
     .executeScript (goString "incr") none (fun _ => .error (goString "ERR user_script:1: attempt to call a nil value"))
       1000000] rfl, by decide, by decide⟩

end ToolKit.Redis
