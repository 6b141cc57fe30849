import ToolKit.Go
import Mathlib.Data.List.Infix

/-! `Script` of `redis/lua.go`: the string helpers of its error handling and `Script.Execute`
with its retry loop. A Go `string` is a byte sequence (`goString`), and an `error` is taken as
its `Error()` text, which is all `isRetryableError` and `isScriptNotFoundError` read. -/

namespace ToolKit.Redis

/-- `contains`, which its comment calls a match that ignores case. Go evaluates `s[1:]` only
when `len(s) > len(substr)`, so never for an empty `s`. -/
def contains (s substr : List UInt8) : Bool :=
  decide (s.length ≥ substr.length) &&
    (s == substr ||
      decide (s.length > substr.length) &&
        (s.take substr.length == substr || s.drop (s.length - substr.length) == substr ||
          match s with
          | [] => false
          | _ :: rest => contains rest substr))

/-- `contains` is substring search on bytes, Go's `strings.Contains`: it matches at the start,
at the end, or in `s[1:]`, and a match that is not at the start is one in `s[1:]`. -/
theorem contains_iff_substring (s substr : List UInt8) : contains s substr = true ↔ substr <:+: s := by
  induction s with
  | nil => cases substr <;> simp [contains]
  | cons b rest ih =>
    rw [contains]
    simp only [Bool.and_eq_true, Bool.or_eq_true, decide_eq_true_eq, beq_iff_eq, ih]
    constructor
    · rintro ⟨-, same | ⟨-, (atStart | atEnd) | inRest⟩⟩
      · exact same ▸ List.infix_refl _
      · exact (List.prefix_iff_eq_take.mpr atStart.symm).isInfix
      · exact (List.suffix_iff_eq_drop.mpr atEnd.symm).isInfix
      · exact List.infix_cons inRest
    · intro h
      refine ⟨h.length_le, ?_⟩
      rcases Nat.lt_or_eq_of_le h.length_le with shorter | same
      · refine Or.inr ⟨shorter, ?_⟩
        rcases List.infix_cons_iff.mp h with atStart | inRest
        · exact Or.inl (Or.inl (List.prefix_iff_eq_take.mp atStart).symm)
        · exact Or.inr inRest
      · exact Or.inl (h.eq_of_length same).symm

example : contains (goString "Connection refused") (goString "connection") = false := by decide

/-- The keywords `isRetryableError` looks for. -/
def retryableErrors : List (List UInt8) :=
  [goString "timeout", goString "connection", goString "network", goString "temporary", goString "busy"]

/-- `isRetryableError` of an error, given by its `Error()` text, or of nil. -/
def isRetryableError : Option (List UInt8) → Bool
  | none => false
  | some errorStr => retryableErrors.any fun retryable => contains errorStr retryable

/-- An error is retryable exactly when its text contains one of the keywords, byte for byte. -/
theorem isRetryableError_iff (errorStr : List UInt8) :
    isRetryableError (some errorStr) = true ↔ ∃ retryable ∈ retryableErrors, retryable <:+: errorStr := by
  simp only [isRetryableError, List.any_eq_true, contains_iff_substring]

/-- `contains` agrees with substring search for all strings, and so `isRetryableError` recognises
an error exactly when its text contains one of its keywords verbatim, with their case. -/
theorem contains_is_substring_search :
    (∀ s substr, contains s substr = true ↔ substr <:+: s) ∧
      ∀ errorStr, isRetryableError (some errorStr) = true ↔ ∃ retryable ∈ retryableErrors, retryable <:+: errorStr :=
  ⟨contains_iff_substring, isRetryableError_iff⟩

/-- `isScriptNotFoundError`. -/
def isScriptNotFoundError : Option (List UInt8) → Bool
  | some err => err == goString "NOSCRIPT No matching script. Use EVAL."
  | none => false

/-- The fields of `ScriptOptions` that `Execute` reads; `Keys` and `Args` go to `EVALSHA`, whose
reply is given. Durations are in nanoseconds. -/
structure ScriptOptions where
  timeout : Int
  retryCount : Int
  retryDelay : Int
  useCache : Bool
  forceReload : Bool
  deriving DecidableEq, Repr

/-- `DefaultScriptOptions`. -/
def defaultScriptOptions : ScriptOptions := ⟨5000000000, 3, 100000000, true, false⟩

/-- What `EvalSha(...).Result()` gives: the script's reply, or an error. -/
inductive Reply
  | value (v : Nat)
  | error (err : List UInt8)
  deriving DecidableEq, Repr

/-- `result, execErr = ....Result()`: the reply is nil when there is an error. -/
def Reply.result : Reply → Option Nat × Option (List UInt8)
  | .value v => (some v, none)
  | .error err => (none, some err)

/-- The fields of `ScriptResult` besides `Time`, which is measured. -/
structure ScriptResult where
  value : Option Nat
  error : Option (List UInt8)
  sha : List UInt8
  deriving DecidableEq, Repr

/-- `getScriptSource`: a stub whose only return is this error. -/
def getScriptSource (name : List UInt8) : List UInt8 := goString "script source not found: " ++ name

/-- `reloadScript`: a stub that returns this error. -/
def reloadScript (name : List UInt8) : Option (List UInt8) :=
  some (goString "script reload not implemented: " ++ name)

/-- `getScriptSHA` for a script whose entry in the `Script`'s cache is `cached`: the cached SHA
unless `forceReload`, and otherwise `getScriptSource`'s error. -/
def getScriptSHA (cached : Option (List UInt8)) (name : List UInt8) (forceReload : Bool) :
    Except (List UInt8) (List UInt8) :=
  match cached, forceReload with
  | some sha, false => .ok sha
  | _, _ => .error (getScriptSource name)

/-- The retry loop of `Execute` from attempt `i` on, with `fuel` rounds left: the last `result`,
`execErr` and `sha`. What `EVALSHA` replies is given attempt by attempt; the sleeps between
attempts and the per-attempt timeouts only shape those replies. -/
def executeLoop (cached : Option (List UInt8)) (name : List UInt8) (opts : ScriptOptions)
    (reply : Nat → Reply) (sha : List UInt8) (result : Option Nat) (execErr : Option (List UInt8))
    (i : Nat) : Nat → Option Nat × Option (List UInt8) × List UInt8
  | 0 => (result, execErr, sha)
  | fuel + 1 =>
    if opts.useCache && sha != [] then
      let (result, execErr) := (reply i).result
      if isScriptNotFoundError execErr then
        match reloadScript name with
        | some _ => executeLoop cached name opts reply sha result execErr (i + 1) fuel
        | none =>
          let sha := match getScriptSHA cached name false with
            | .ok sha => sha
            | .error _ => []
          executeLoop cached name opts reply sha result execErr (i + 1) fuel
      else if execErr.isNone || !isRetryableError execErr then (result, execErr, sha)
      else executeLoop cached name opts reply sha result execErr (i + 1) fuel
    else executeLoop cached name opts reply sha result (some (getScriptSource name)) (i + 1) fuel

/-- `Script.Execute` of the script `name`, whose entry in the cache is `cached`: its result, and
its own error. -/
def execute (cached : Option (List UInt8)) (name : List UInt8) (opts : Option ScriptOptions)
    (reply : Nat → Reply) : Option ScriptResult × Option (List UInt8) :=
  let opts := opts.getD defaultScriptOptions
  match getScriptSHA cached name opts.forceReload with
  | .error err => (none, some (goString "failed to get script SHA: " ++ err))
  | .ok sha =>
    let (result, execErr, sha) := executeLoop cached name opts reply sha none none 0 (opts.retryCount + 1).toNat
    (some ⟨result, execErr, sha⟩, none)

/-- The retry loop of `ExecuteString` from attempt `i` on, with `fuel` rounds left: `EVAL` of the
script's source until a reply that is not a retryable error. -/
def executeStringLoop (reply : Nat → Reply) (result : Option Nat) (execErr : Option (List UInt8))
    (i : Nat) : Nat → Option Nat × Option (List UInt8)
  | 0 => (result, execErr)
  | fuel + 1 =>
    let (result, execErr) := (reply i).result
    if execErr.isNone || !isRetryableError execErr then (result, execErr)
    else executeStringLoop reply result execErr (i + 1) fuel

/-- `Script.ExecuteString` of a script whose SHA-1 is `sha`, with `EVAL`'s replies given attempt
by attempt: its result. Its error is always nil. -/
def executeString (sha : List UInt8) (opts : Option ScriptOptions) (reply : Nat → Reply) : ScriptResult :=
  let opts := opts.getD defaultScriptOptions
  let (result, execErr) := executeStringLoop reply none none 0 (opts.retryCount + 1).toNat
  ⟨result, execErr, sha⟩

/-- A reply that ends `Execute`'s loop: a value, or an error that is neither `NOSCRIPT` (retried,
since `reloadScript` always fails) nor retryable. -/
def Reply.final (reply : Reply) : Bool :=
  !isScriptNotFoundError reply.result.2 && !isRetryableError reply.result.2

/-- The reply a loop that stops at the first `final` reply settles on, when it tries at most `n`
attempts from attempt `i` on: the first `final` one, else the last one tried, else `previous`. -/
def settle (final : Reply → Bool) (reply : Nat → Reply) (previous : Option Nat × Option (List UInt8))
    (i n : Nat) : Option Nat × Option (List UInt8) :=
  match (List.range' i n).find? fun k => final (reply k) with
  | some k => (reply k).result
  | none => if n = 0 then previous else (reply (i + n - 1)).result

theorem settle_zero (final : Reply → Bool) (reply : Nat → Reply) (previous : Option Nat × Option (List UInt8))
    (i : Nat) : settle final reply previous i 0 = previous := rfl

/-- One more attempt: it settles at once on a final reply, and otherwise its reply is the one
kept should no later attempt be tried. -/
theorem settle_succ (final : Reply → Bool) (reply : Nat → Reply) (previous : Option Nat × Option (List UInt8))
    (i n : Nat) :
    settle final reply previous i (n + 1) =
      if final (reply i) then (reply i).result else settle final reply (reply i).result (i + 1) n := by
  unfold settle
  rw [List.range'_succ, List.find?_cons]
  cases final (reply i)
  · simp only [Bool.false_eq_true, if_false]
    cases (List.range' (i + 1) n).find? fun k => final (reply k) with
    | some k => rfl
    | none =>
      cases n
      · rfl
      · rw [if_neg (by omega), if_neg (by omega)]
        exact congrArg (fun k => (reply k).result) (by omega)
  · rfl

/-- `ExecuteString` settles on the first reply that is not a retryable error among its
`RetryCount + 1` attempts, or on the last; with no attempt, on a nil value and a nil error. -/
theorem executeStringLoop_eq_settle (reply : Nat → Reply) (result : Option Nat)
    (execErr : Option (List UInt8)) (i n : Nat) :
    executeStringLoop reply result execErr i n =
      settle (fun r => !isRetryableError r.result.2) reply (result, execErr) i n := by
  induction n generalizing i result execErr with
  | zero => rfl
  | succ n ih =>
    rw [settle_succ]
    cases h : reply i <;> simp [executeStringLoop, h, Reply.result, isRetryableError, ih]

/-- With a SHA in hand and `UseCache` on, every attempt runs `EVALSHA` and the loop settles on the
first final reply: a `NOSCRIPT` reply is retried like a retryable one, since `reloadScript`
always fails. -/
theorem executeLoop_cached (cached : Option (List UInt8)) (name : List UInt8) (opts : ScriptOptions)
    (reply : Nat → Reply) (sha : List UInt8) (cache : opts.useCache = true) (nonempty : sha ≠ [])
    (result : Option Nat) (execErr : Option (List UInt8)) (i n : Nat) :
    executeLoop cached name opts reply sha result execErr i n =
      ((settle Reply.final reply (result, execErr) i n).1, (settle Reply.final reply (result, execErr) i n).2, sha) := by
  induction n generalizing i result execErr with
  | zero => rfl
  | succ n ih =>
    rw [settle_succ]
    cases h : reply i with
    | value v => simp [executeLoop, cache, nonempty, h, Reply.result, Reply.final, isScriptNotFoundError, isRetryableError]
    | error err =>
      cases hs : isScriptNotFoundError (some err) <;> cases hr : isRetryableError (some err) <;>
        simp [executeLoop, cache, nonempty, h, Reply.result, Reply.final, hs, hr, reloadScript, ih]

/-- Without the cache, or with an empty SHA, no attempt runs the script: each one takes
`getScriptSource`'s error. -/
theorem executeLoop_uncached (cached : Option (List UInt8)) (name : List UInt8) (opts : ScriptOptions)
    (reply : Nat → Reply) (sha : List UInt8) (off : (opts.useCache && sha != []) = false)
    (result : Option Nat) (execErr : Option (List UInt8)) (i n : Nat) :
    executeLoop cached name opts reply sha result execErr i (n + 1) = (result, some (getScriptSource name), sha) := by
  induction n generalizing i execErr with
  | zero => simp [executeLoop, off]
  | succ n ih => rw [executeLoop, if_neg (by simp [off]), ih]

/-- What `Execute` returns, its loop stated as the reply it settles on. With no cached SHA, or
with `ForceReload`, the `getScriptSHA` error wrapped. Otherwise a result and no error: with
`UseCache` and a non-empty SHA, the first of the `RetryCount + 1` `EVALSHA` replies that is
final, or else the last; without them, `getScriptSource`'s error, the script never run. With
`RetryCount < 0` no attempt is made, and the result has a nil value and a nil error. -/
def executeSpec (cached : Option (List UInt8)) (name : List UInt8) (opts : Option ScriptOptions)
    (reply : Nat → Reply) : Option ScriptResult × Option (List UInt8) :=
  let opts := opts.getD defaultScriptOptions
  let attempts := (opts.retryCount + 1).toNat
  match cached, opts.forceReload with
  | some sha, false =>
    let settled :=
      if opts.useCache && sha != [] then settle Reply.final reply (none, none) 0 attempts
      else if attempts = 0 then (none, none) else (none, some (getScriptSource name))
    (some ⟨settled.1, settled.2, sha⟩, none)
  | _, _ => (none, some (goString "failed to get script SHA: " ++ getScriptSource name))

/-- `Execute` is `executeSpec` on every input: its retry loop returns the first final reply, or
the last one tried. -/
theorem execute_eq_executeSpec (cached : Option (List UInt8)) (name : List UInt8)
    (opts : Option ScriptOptions) (reply : Nat → Reply) :
    execute cached name opts reply = executeSpec cached name opts reply := by
  unfold execute executeSpec getScriptSHA
  generalize opts.getD defaultScriptOptions = opts
  rcases cached with _ | sha <;> cases reload : opts.forceReload <;> simp only [reload]
  by_cases cacheOn : (opts.useCache && sha != []) = true
  · simp only [Bool.and_eq_true] at cacheOn
    rw [executeLoop_cached _ _ _ _ _ cacheOn.1 (by simpa using cacheOn.2)]
    simp [cacheOn.1, cacheOn.2]
  · rw [if_neg cacheOn]
    cases (opts.retryCount + 1).toNat with
    | zero => rfl
    | succ n => rw [executeLoop_uncached _ _ _ _ _ (by simpa using cacheOn)]; rfl

/-- `ExecuteString` settles on the first `EVAL` reply that is not a retryable error among its
`RetryCount + 1` attempts, or else on the last, and returns it with the script's SHA. -/
theorem executeString_settles (sha : List UInt8) (opts : Option ScriptOptions) (reply : Nat → Reply) :
    executeString sha opts reply =
      ⟨(settle (fun r => !isRetryableError r.result.2) reply (none, none) 0
          ((opts.getD defaultScriptOptions).retryCount + 1).toNat).1,
        (settle (fun r => !isRetryableError r.result.2) reply (none, none) 0
          ((opts.getD defaultScriptOptions).retryCount + 1).toNat).2, sha⟩ := by
  simp only [executeString, executeStringLoop_eq_settle]

end ToolKit.Redis
