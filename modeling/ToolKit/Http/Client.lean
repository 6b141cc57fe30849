import ToolKit.Go

/-! The retry loop of the HTTP client's `Client.Do` (package `http`, in
`singleflight/singleflight.go`), with attempts numbered from 0 to `MaxRetries`. What each
attempt's exchange gives and which waits the context cuts short are given attempt by attempt. -/

namespace ToolKit.Http

/-- `RetryStrategy`, an `int`: `RetryStrategyFixed`, `RetryStrategyExponential` and
`RetryStrategyLinear` are 0, 1 and 2. -/
abbrev RetryStrategy := Int

structure RetryConfig where
  maxRetries : Int
  baseDelay : Int
  maxDelay : Int
  strategy : RetryStrategy
  retryableCodes : List Int
  deriving DecidableEq, Repr

/-- `calculateDelay` for a client whose `Retry` is set. The exponential strategy's
`time.Duration(float64(BaseDelay) * math.Pow(2, float64(attempt)))` is given as
`exponential attempt`. -/
def calculateDelay (retryConfig : RetryConfig) (exponential : Nat → Int) (attempt : Nat) : Int :=
  let delay :=
    if retryConfig.strategy = 0 then retryConfig.baseDelay
    else if retryConfig.strategy = 1 then exponential attempt
    else if retryConfig.strategy = 2 then wrapInt64 (retryConfig.baseDelay * wrapInt64 (attempt + 1))
    else retryConfig.baseDelay
  if delay > retryConfig.maxDelay then retryConfig.maxDelay else delay

/-- The fields of `Response` that `Do` reads. -/
structure Response where
  statusCode : Int
  text : String
  deriving DecidableEq, Repr

/-- What the underlying `http.Client` gives for one request: a response, or an error, which is a
`*url.Error` and so a `net.Error`. -/
inductive Exchange
  | response (response : Response)
  | failure (err : GoError)
  deriving DecidableEq, Repr

/-- `doRequest`: the response, or the exchange's error wrapped by `fmt.Errorf` with `%w`. -/
def doRequest : Exchange → Except GoError Response
  | .response response => .ok response
  | .failure err => .error (.wrapped "failed to send request" err)

/-- `isRetryableError`: a type assertion to `net.Error` on the error value itself, without
unwrapping it. The second assertion, to `*net.OpError`, only sees values the first has already
taken. -/
def isRetryableError : Option GoError → Bool
  | some (.net temporary timeout) => temporary || timeout
  | _ => false

/-- `isRetryableStatusCode`: the client's `RetryableCodes`, or 5xx, 408 and 429 when there is no
`Retry` or the list is empty. -/
def isRetryableStatusCode (retry : Option RetryConfig) (statusCode : Int) : Bool :=
  match retry.map RetryConfig.retryableCodes with
  | some (code :: codes) => (code :: codes).contains statusCode
  | _ => decide (500 ≤ statusCode) || statusCode == 408 || statusCode == 429

/-- What a caller of `Do` sees happen: the attempts and the waits between them. -/
inductive Event
  | attempt (n : Nat)
  | wait (delay : Int)
  deriving DecidableEq, Repr

/-- The inputs of one `Do` call: the client's `Retry`, what each attempt's exchange gives, the
values of the exponential delay, whether `ctx.Done()` wins the `select` after each attempt, and
`ctx.Err()`. -/
structure Scenario where
  retry : Option RetryConfig
  exchange : Nat → Exchange
  exponential : Nat → Int
  cancelled : Nat → Bool
  ctxErr : GoError

/-- `maxRetries` of `Do`: the client's `MaxRetries`, or 0 without a `Retry`. -/
def Scenario.maxRetries (s : Scenario) : Int := (s.retry.map RetryConfig.maxRetries).getD 0

/-- `calculateDelay(attempt)`. `Do` waits only when `attempt < maxRetries`, so only with a
`Retry` set; the 0 is never used. -/
def Scenario.delay (s : Scenario) (attempt : Nat) : Int :=
  (s.retry.map fun retryConfig => calculateDelay retryConfig s.exponential attempt).getD 0

/-- The response and the error `Do` returns. -/
abbrev Returned := Option Response × Option GoError

/-- The return after the loop: `request failed after` with `lastErr` wrapped, or alone when
there is none. -/
def failedAfter (maxRetries : Int) : Option GoError → Returned
  | some lastErr =>
    (none, some (.wrapped ("request failed after " ++ toString (maxRetries + 1) ++ " attempts") lastErr))
  | none => (none, some (.text ("request failed after " ++ toString (maxRetries + 1) ++ " attempts")))

/-- The `lastErr` an attempt leaves: its error, or `HTTP <status>: <text>` for a response. -/
def recordedErr : Except GoError Response → GoError
  | .ok response => .text ("HTTP " ++ toString response.statusCode ++ ": " ++ response.text)
  | .error err => err

/-- `shouldRetry`: the status of a response, the error otherwise. -/
def shouldRetry (retry : Option RetryConfig) : Except GoError Response → Bool
  | .ok response => isRetryableStatusCode retry response.statusCode
  | .error err => isRetryableError (some err)

/-- Leaving the loop at an attempt it does not retry: `return response, nil`, or `break`. -/
def giveUp (maxRetries : Int) (lastErr : GoError) : Except GoError Response → Returned
  | .ok response => (some response, none)
  | .error _ => failedAfter maxRetries (some lastErr)

/-- The `select` after a retried attempt, waiting `calculateDelay(attempt)`: `ctx.Done()` first
returns `ctx.Err()`, the timer first goes on to the rest of the loop. -/
def Scenario.pause (s : Scenario) (attempt : Nat) (rest : List Event × Returned) : List Event × Returned :=
  if s.cancelled attempt then ([.attempt attempt, .wait (s.delay attempt)], (none, some s.ctxErr))
  else (.attempt attempt :: .wait (s.delay attempt) :: rest.1, rest.2)

/-- An attempt that did not return at once: it records `lastErr`, gives up when it was the last
or `shouldRetry` is false, and otherwise waits before the attempts `next` makes. -/
def Scenario.retryOrGiveUp (s : Scenario) (attempt : Nat) (result : Except GoError Response)
    (next : GoError → List Event × Returned) : List Event × Returned :=
  let lastErr := recordedErr result
  if s.maxRetries ≤ attempt then ([.attempt attempt], giveUp s.maxRetries lastErr result)
  else if !shouldRetry s.retry result then ([.attempt attempt], giveUp s.maxRetries lastErr result)
  else s.pause attempt (next lastErr)

/-- The loop of `Do` from `attempt` on, with `fuel` rounds left. -/
def loop (s : Scenario) (lastErr : Option GoError) (attempt : Nat) : Nat → List Event × Returned
  | 0 => ([], failedAfter s.maxRetries lastErr)
  | fuel + 1 =>
    match doRequest (s.exchange attempt) with
    | .ok response =>
      if !isRetryableStatusCode s.retry response.statusCode then ([.attempt attempt], (some response, none))
      else s.retryOrGiveUp attempt (.ok response) fun lastErr => loop s (some lastErr) (attempt + 1) fuel
    | .error err => s.retryOrGiveUp attempt (.error err) fun lastErr => loop s (some lastErr) (attempt + 1) fuel

/-- `Client.Do`. -/
def clientDo (s : Scenario) : List Event × Returned :=
  loop s none 0 (s.maxRetries + 1).toNat

/-- Attempt `attempt` is followed by a wait: it was not the last, and `shouldRetry` held. -/
def Scenario.waitsAfter (s : Scenario) (attempt : Nat) : Bool :=
  decide ((attempt : Int) < s.maxRetries) && shouldRetry s.retry (doRequest (s.exchange attempt))

/-- Attempt `attempt` is followed by another: it is followed by a wait, and the timer won. -/
def Scenario.retriesAfter (s : Scenario) (attempt : Nat) : Bool :=
  s.waitsAfter attempt && !s.cancelled attempt

/-- A transport error is never retried: `doRequest` has wrapped it before `isRetryableError`
sees it. -/
theorem shouldRetry_doRequest_failure (retry : Option RetryConfig) (err : GoError) :
    shouldRetry retry (doRequest (.failure err)) = false := rfl

/-- The early return for a response whose status is not retryable is the give-up path of
`retryOrGiveUp`: every round is `retryOrGiveUp` of its attempt. -/
theorem loop_succ_retryOrGiveUp (s : Scenario) (lastErr : Option GoError) (attempt fuel : Nat) :
    loop s lastErr attempt (fuel + 1) =
      s.retryOrGiveUp attempt (doRequest (s.exchange attempt)) fun lastErr => loop s (some lastErr) (attempt + 1) fuel := by
  cases hx : s.exchange attempt with
  | failure err => simp only [loop, hx, doRequest]
  | response response =>
    simp only [loop, hx, doRequest]
    split
    · simp_all [Scenario.retryOrGiveUp, shouldRetry, giveUp]
    · rfl

/-- One round of the loop: after the attempt, the loop waits and goes on when the code retries,
returns `ctx.Err()` after the wait when the context cut it short, and otherwise gives up. -/
theorem loop_succ (s : Scenario) (lastErr : Option GoError) (attempt fuel : Nat) :
    loop s lastErr attempt (fuel + 1) =
      if s.retriesAfter attempt then
        (.attempt attempt :: .wait (s.delay attempt) ::
            (loop s (some (recordedErr (doRequest (s.exchange attempt)))) (attempt + 1) fuel).1,
          (loop s (some (recordedErr (doRequest (s.exchange attempt)))) (attempt + 1) fuel).2)
      else if s.waitsAfter attempt then ([.attempt attempt, .wait (s.delay attempt)], (none, some s.ctxErr))
      else ([.attempt attempt],
        giveUp s.maxRetries (recordedErr (doRequest (s.exchange attempt))) (doRequest (s.exchange attempt))) := by
  rw [loop_succ_retryOrGiveUp]
  unfold Scenario.retryOrGiveUp Scenario.pause Scenario.retriesAfter Scenario.waitsAfter
  by_cases last : s.maxRetries ≤ attempt
  · simp [last, show ¬ (attempt : Int) < s.maxRetries by omega]
  · cases shouldRetry s.retry (doRequest (s.exchange attempt)) <;> cases s.cancelled attempt <;>
      simp [last, show (attempt : Int) < s.maxRetries by omega]

theorem Scenario.lt_maxRetries_of_retriesAfter {s : Scenario} {attempt : Nat}
    (h : s.retriesAfter attempt = true) : (attempt : Int) < s.maxRetries := by
  simp only [Scenario.retriesAfter, Scenario.waitsAfter, Bool.and_eq_true, decide_eq_true_eq] at h
  exact h.1.1

theorem attempt_mem_loop_succ {s : Scenario} {lastErr : Option GoError} {attempt fuel i : Nat} :
    .attempt i ∈ (loop s lastErr attempt (fuel + 1)).1 ↔
      i = attempt ∨ s.retriesAfter attempt ∧
        .attempt i ∈ (loop s (some (recordedErr (doRequest (s.exchange attempt)))) (attempt + 1) fuel).1 := by
  rw [loop_succ]
  split
  · simp_all
  · split <;> simp_all

/-- With enough rounds left for the loop's own `attempt >= maxRetries` check, an attempt after
`i` is made exactly when attempt `i` is made and the code retries after it. -/
theorem loop_attempt_succ_iff {s : Scenario} {i : Nat} :
    ∀ (fuel attempt : Nat) lastErr, s.maxRetries < attempt + fuel → attempt ≤ i →
      (.attempt (i + 1) ∈ (loop s lastErr attempt fuel).1 ↔
        .attempt i ∈ (loop s lastErr attempt fuel).1 ∧ s.retriesAfter i)
  | 0, _, _, _, _ => by simp [loop]
  | fuel + 1, attempt, lastErr, enough, hi => by
    simp only [attempt_mem_loop_succ]
    rcases Nat.lt_or_eq_of_le hi with later | rfl
    · rw [loop_attempt_succ_iff fuel (attempt + 1) _ (by push_cast at enough ⊢; omega) later]
      simp only [show i + 1 ≠ attempt by omega, show i ≠ attempt by omega, false_or, and_assoc]
    · have first : s.retriesAfter attempt = true → .attempt (attempt + 1) ∈
          (loop s (some (recordedErr (doRequest (s.exchange attempt)))) (attempt + 1) fuel).1 := fun r => by
        have := Scenario.lt_maxRetries_of_retriesAfter r
        obtain ⟨fuel, rfl⟩ : ∃ f, fuel = f + 1 := ⟨fuel - 1, by push_cast at enough; omega⟩
        exact attempt_mem_loop_succ.mpr (Or.inl rfl)
      simp only [Nat.succ_ne_self, false_or, true_or, true_and]
      exact and_iff_left_of_imp first

/-- `Do` makes attempt `i + 1` exactly when it made attempt `i`, that attempt was not its last,
`shouldRetry` held for it, and the timer won the `select` after it. -/
theorem attempt_succ_mem_clientDo_iff (s : Scenario) (i : Nat) :
    .attempt (i + 1) ∈ (clientDo s).1 ↔ .attempt i ∈ (clientDo s).1 ∧ s.retriesAfter i :=
  loop_attempt_succ_iff _ 0 none (by omega) (Nat.zero_le i)

/-- An attempt that ends in a transport error, even a temporary or timed-out `net.Error`, is the
last attempt of `Do`. -/
theorem transport_error_never_retried (s : Scenario) (i : Nat) (err : GoError)
    (hfail : s.exchange i = .failure err) : .attempt (i + 1) ∉ (clientDo s).1 := by
  simp [attempt_succ_mem_clientDo_iff, Scenario.retriesAfter, Scenario.waitsAfter, hfail,
    shouldRetry_doRequest_failure]

/-- With `MaxRetries = 1`, a first attempt that times out and a second that would get `200`,
`Do` makes the first attempt only and returns its timeout wrapped twice. -/
theorem timeout_error_not_retried :
    clientDo ⟨some ⟨1, 1000, 30000, 1, []⟩,
        fun i => if i = 0 then .failure (.net false true) else .response ⟨200, "OK"⟩,
        fun _ => 1000, fun _ => false, .canceled⟩ =
      ([.attempt 0], (none, some (.wrapped "request failed after 2 attempts"
        (.wrapped "failed to send request" (.net false true))))) := by
  rfl

end ToolKit.Http
