import ToolKit.Go

/-! One goroutine started by `SafeExecutor.GoWithContext`, from its context check to the end of its
deferred function. Each piece of code returns the effects it performed in order and how it ended,
normally or unwinding a panic. -/

namespace ToolKit.Executor

/-- How a piece of Go code ended. A task whose final flow is still a panic has let it escape the
goroutine, which ends the process. -/
inductive Flow
  | returned
  | panicking (value : String)
  deriving DecidableEq, Repr

/-- The runtime error of a method call on a nil interface value, such as a nil `Logger`. -/
def nilDereference : String := "runtime error: invalid memory address or nil pointer dereference"

/-- What a goroutine does that others can observe. -/
inductive Effect
  | deactivated
  | completed
  | panicCounted
  | warn
  | error
  | recovered (value : String) (goroutineID : String)
  deriving DecidableEq, Repr

/-- The handler and logger `GoWithContext` read under `RLock` when it spawned the task; `false`
is a nil value. Both are taken to return normally when called. -/
structure Captured where
  recoverHandler : Bool
  logger : Bool
  deriving DecidableEq, Repr

/-- A call of one `Logger` method: a nil logger panics. -/
def logCall (logger : Bool) (e : Effect) : List Effect × Flow :=
  if logger then ([e], .returned) else ([], .panicking nilDereference)

/-- Runs two pieces of code in sequence; a panic in the first skips the second. -/
def andThen (first : List Effect × Flow) (second : List Effect × Flow) : List Effect × Flow :=
  match first.2 with
  | .returned => (first.1 ++ second.1, second.2)
  | .panicking v => (first.1, .panicking v)

/-- `handlePanic`: count the panic, log it three times, then call the handler if there is one. -/
def handlePanic (panicValue : String) (captured : Captured) (goroutineID : String) :
    List Effect × Flow :=
  andThen ([.panicCounted], .returned) <|
  andThen (logCall captured.logger .error) <|
  andThen (logCall captured.logger .error) <|
  andThen (logCall captured.logger .error) <|
  if captured.recoverHandler then ([.recovered panicValue goroutineID], .returned)
  else ([], .returned)

/-- `getGoroutineID`, on the trace `runtime.Stack` would write for the calling goroutine:
`goroutine N [status]:` and its frames. `Stack` writes at most the 64 bytes of the buffer, and
the ID is taken to be what comes before the first space. `handlePanic` passes this value to the
handler as the task ID and stores it in `LastPanicGoroutine`. -/
def getGoroutineID (trace : List UInt8) : List UInt8 :=
  let idField := trace.take 64
  match idField.findIdx? (· == ' '.toUInt8) with
  | some i => idField.take i
  | none => goString "unknown"

/-- For every goroutine number and every trace that starts with the runtime's header
`goroutine N [`, the ID is the word `goroutine`: the first space is the one after it. -/
theorem goroutineID_is_word_goroutine (digits rest : List UInt8) :
    getGoroutineID (goString "goroutine " ++ digits ++ goString " [" ++ rest) = goString "goroutine" := by
  rw [List.append_assoc, List.append_assoc]
  rfl

/-- The goroutine body before its deferred function: the context check, then `fn`, whose own
flow is given. -/
def body (cancelled : Bool) (logger : Bool) (fn : Flow) : List Effect × Flow :=
  if cancelled then logCall logger .warn else ([], fn)

/-- The deferred function. `recover()` stops an unwinding panic and hands its value to
`handlePanic`; a panic raised inside the deferred function itself is not recovered. -/
def deferred (captured : Captured) (goroutineID : String) : Flow → List Effect × Flow
  | .panicking v => andThen ([.deactivated], .returned) (handlePanic v captured goroutineID)
  | .returned => ([.deactivated, .completed], .returned)

def goroutine (captured : Captured) (goroutineID : String) (cancelled : Bool) (fn : Flow) :
    List Effect × Flow :=
  let b := body cancelled captured.logger fn
  let d := deferred captured goroutineID b.2
  (b.1 ++ d.1, d.2)

def isHandlerCall : Effect → Bool
  | .recovered _ _ => true
  | _ => false

/-- The handler calls a goroutine makes when its `fn` ends with `fn` and the context check sees
`cancelled`, as the spec describes them: one call with the panic value iff `fn` ran and panicked. -/
def expectedHandlerCalls (recoverHandler cancelled : Bool) (goroutineID : String) :
    Flow → List Effect
  | .panicking v => if recoverHandler && !cancelled then [.recovered v goroutineID] else []
  | .returned => []

/-- With a logger installed, no panic escapes a spawned goroutine, and the captured handler is
called exactly for a panic of `fn`, once, with its value. -/
theorem goroutine_contained (captured : Captured) (hlog : captured.logger = true)
    (goroutineID : String) (cancelled : Bool) (fn : Flow) :
    (goroutine captured goroutineID cancelled fn).2 = .returned ∧
      (goroutine captured goroutineID cancelled fn).1.filter isHandlerCall =
        expectedHandlerCalls captured.recoverHandler cancelled goroutineID fn := by
  obtain ⟨recoverHandler, logger⟩ := captured
  subst hlog
  cases cancelled <;> cases fn <;> cases recoverHandler <;>
    simp [goroutine, body, deferred, handlePanic, andThen, logCall, expectedHandlerCalls,
      isHandlerCall]

/-- `SetLogger(nil)` then `Go(func() { panic("boom") })`: the deferred function recovers the
panic, but `handlePanic` calls `Errorf` on the nil logger, and that second panic escapes. -/
theorem nil_logger_panic_escapes :
    goroutine ⟨true, false⟩ "1" false (.panicking "boom") =
      ([.deactivated, .panicCounted], .panicking nilDereference) := rfl

end ToolKit.Executor
