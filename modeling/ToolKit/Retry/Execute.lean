import ToolKit.Retry.Backoff
import ToolKit.Executor.Task

/-! `Retry.Execute` and `Retry.ExecuteAsync` (`goroutine/examples/basic/basic_example.go`).
`fn` may be stateful, so its behaviour is given call by call. -/

namespace ToolKit

/-- A `Retry`: `maxAttempts` and its backoff's `GetDelay`. -/
structure Retry where
  maxAttempts : Int
  getDelay : Int → Int

namespace Retry

/-- `NewRetry`: without a backoff it uses a `FixedBackoff` of `delay`. -/
def newRetry (maxAttempts delay : Int) (backoff : Option (Int → Int)) : Retry :=
  ⟨maxAttempts, backoff.getD (FixedBackoff.getDelay ⟨delay⟩)⟩

/-- One call of `fn`: it returns an error or nil, or it panics. -/
inductive Call
  | returned (err : Option GoError)
  | panicked (value : String)
  deriving DecidableEq, Repr

/-- What a caller of `Execute` sees happen: the calls of `fn` and the sleeps between them. -/
inductive Event
  | call (attempt : Nat)
  | sleep (delay : Int)
  deriving DecidableEq, Repr

/-- How `Execute` ends: returning an error or nil, or unwinding a panic of `fn`. -/
inductive Ending
  | returned (err : Option GoError)
  | panicking (value : String)
  deriving DecidableEq, Repr

/-- The error `Execute` returns after its last failed call. -/
def failedAfter (maxAttempts : Int) (lastErr : Option GoError) : GoError :=
  match lastErr with
  | some e => .wrapped ("retry failed after " ++ toString maxAttempts ++ " attempts") e
  | none => .text ("retry failed after " ++ toString maxAttempts ++ " attempts: %!w(<nil>)")

/-- The loop of `Execute` from `attempt` on, with `fuel` rounds left: it returns nil at the first
call that returns nil, sleeps `GetDelay(attempt)` after a failed call unless it was the last
allowed one, and lets a panic of `fn` unwind. -/
def loop (r : Retry) (fn : Nat → Call) (lastErr : Option GoError) (attempt : Nat) :
    Nat → List Event × Ending
  | 0 => ([], .returned (some (failedAfter r.maxAttempts lastErr)))
  | fuel + 1 =>
    match fn attempt with
    | .panicked v => ([.call attempt], .panicking v)
    | .returned none => ([.call attempt], .returned none)
    | .returned (some e) =>
      let pause := if (attempt : Int) < r.maxAttempts - 1 then [Event.sleep (r.getDelay attempt)] else []
      let rest := r.loop fn (some e) (attempt + 1) fuel
      (.call attempt :: pause ++ rest.1, rest.2)

def execute (r : Retry) (fn : Nat → Call) : List Event × Ending :=
  r.loop fn none 0 r.maxAttempts.toNat

/-- The calls `attempt`, ..., `attempt + k - 1`, with `GetDelay` of each but the last slept
after it. -/
def callsAndSleeps (getDelay : Int → Int) (attempt : Nat) : Nat → List Event
  | 0 => []
  | 1 => [.call attempt]
  | k + 2 => .call attempt :: .sleep (getDelay attempt) :: callsAndSleeps getDelay (attempt + 1) (k + 1)

/-- From `attempt`, with the rounds left reaching `maxAttempts`, the loop makes the calls up to
the first success or the last round, sleeping between them, and returns nil or the last error
wrapped. -/
theorem loop_returning (r : Retry) (outcomes : Nat → Option GoError) :
    ∀ (fuel attempt : Nat) lastErr, 1 ≤ fuel → (attempt : Int) + fuel = r.maxAttempts →
      ∃ k : Nat, 1 ≤ k ∧ k ≤ fuel ∧ (∀ i, i + 1 < k → outcomes (attempt + i) ≠ none) ∧
        (k < fuel → outcomes (attempt + k - 1) = none) ∧
        r.loop (fun i => .returned (outcomes i)) lastErr attempt fuel =
          (callsAndSleeps r.getDelay attempt k,
            .returned ((outcomes (attempt + k - 1)).map fun e => failedAfter r.maxAttempts (some e)))
  | 0, _, _, h, _ => absurd h (by decide)
  | fuel + 1, attempt, lastErr, _, hsum => by
    cases hout : outcomes attempt with
    | none =>
      refine ⟨1, le_rfl, by omega, fun i hi => by omega, fun _ => by simpa using hout, ?_⟩
      simp [loop, hout, callsAndSleeps]
    | some e =>
      cases fuel with
      | zero =>
        refine ⟨1, le_rfl, le_rfl, fun i hi => by omega, fun h => by omega, ?_⟩
        simp [loop, hout, callsAndSleeps, show ¬ (attempt : Int) < r.maxAttempts - 1 by omega]
      | succ fuel =>
        obtain ⟨k, hk1, hkf, failing, stop, rest⟩ :=
          loop_returning r outcomes (fuel + 1) (attempt + 1) (some e) (by omega) (by push_cast at hsum ⊢; omega)
        obtain ⟨j, rfl⟩ : ∃ j, k = j + 1 := ⟨k - 1, by omega⟩
        refine ⟨j + 2, by omega, by omega, fun i hi => ?_, fun h => ?_, ?_⟩
        · rcases i with _ | i
          · simp [hout]
          · simpa [Nat.add_assoc, Nat.add_comm 1] using failing i (by omega)
        · simpa [Nat.add_assoc, Nat.add_comm 1] using stop (by omega)
        · rw [loop]
          simp only [hout, if_pos (show (attempt : Int) < r.maxAttempts - 1 by push_cast at hsum; omega)]
          rw [rest]
          simp [callsAndSleeps, Nat.add_assoc, Nat.add_comm 1]

/-- For `maxAttempts = N ≥ 1` and any outcomes of `fn`, `Execute` calls `fn` exactly `k` times,
where `k` is `N` or the number of the first successful call, whichever is smaller; it sleeps
`GetDelay(0)`, ..., `GetDelay(k - 2)` between the calls and never after the last; and it returns
nil iff the `k`-th call succeeded, and otherwise an error wrapping the `N`-th call's error. -/
theorem execute_calls_until_success (r : Retry) (hmax : 1 ≤ r.maxAttempts)
    (outcomes : Nat → Option GoError) :
    ∃ k : Nat, 1 ≤ k ∧ (k : Int) ≤ r.maxAttempts ∧ (∀ i, i + 1 < k → outcomes i ≠ none) ∧
      ((k : Int) < r.maxAttempts → outcomes (k - 1) = none) ∧
      (r.execute fun i => .returned (outcomes i)).1 = callsAndSleeps r.getDelay 0 k ∧
      ((r.execute fun i => .returned (outcomes i)).2 = .returned none ↔ outcomes (k - 1) = none) ∧
      ∀ e, outcomes (k - 1) = some e → ∃ err,
        (r.execute fun i => .returned (outcomes i)).2 = .returned (some err) ∧
          err.unwrap = outcomes (r.maxAttempts.toNat - 1) := by
  obtain ⟨k, hk1, hkN, failing, stop, run⟩ :=
    loop_returning r outcomes r.maxAttempts.toNat 0 none (by omega) (by omega)
  simp only [Nat.zero_add] at failing stop run
  refine ⟨k, hk1, by omega, failing, fun h => stop (by omega), by rw [execute, run], ?_, fun e he => ?_⟩
  · rw [execute, run]
    cases outcomes (k - 1) <;> simp
  · have last : k = r.maxAttempts.toNat := by
      by_contra ne
      simp [stop (by omega)] at he
    refine ⟨failedAfter r.maxAttempts (some e), by rw [execute, run, he]; rfl, ?_⟩
    rw [← last, he]
    rfl

theorem execute_calls_until_success_second_call :
    (1 : Int) ≤ 3 ∧ ∃ k : Nat, 1 ≤ k ∧ (k : Int) ≤ 3 ∧
      (∀ i, i + 1 < k → (fun i => if i = 0 then some (GoError.user 0) else none) i ≠ none) ∧
      ((k : Int) < 3 → (fun i => if i = 0 then some (GoError.user 0) else none) (k - 1) = none) ∧
      ((⟨3, fun a => a⟩ : Retry).execute fun i => .returned (if i = 0 then some (.user 0) else none)).1 =
        callsAndSleeps (fun a => a) 0 k ∧
      (((⟨3, fun a => a⟩ : Retry).execute fun i => .returned (if i = 0 then some (.user 0) else none)).2 =
          .returned none ↔ (fun i => if i = 0 then some (GoError.user 0) else none) (k - 1) = none) ∧
      ∀ e, (fun i => if i = 0 then some (GoError.user 0) else none) (k - 1) = some e → ∃ err,
        ((⟨3, fun a => a⟩ : Retry).execute fun i => .returned (if i = 0 then some (.user 0) else none)).2 =
          .returned (some err) ∧
          err.unwrap = (fun i => if i = 0 then some (GoError.user 0) else none) ((3 : Int).toNat - 1) :=
  ⟨by decide, execute_calls_until_success ⟨3, fun a => a⟩ (by decide)
    fun i => if i = 0 then some (.user 0) else none⟩

/-- `ExecuteAsync`: the task spawned with `Go` sends `Execute(fn)` on the result channel, of
capacity 1. The task's effects and ending, and what the channel holds once the task has
terminated. -/
def executeAsync (r : Retry) (captured : Executor.Captured) (goroutineID : String) (fn : Nat → Call) :
    (List Executor.Effect × Executor.Flow) × Option (Option GoError) :=
  match (r.execute fn).2 with
  | .returned err => (Executor.goroutine captured goroutineID false .returned, some err)
  | .panicking v => (Executor.goroutine captured goroutineID false (.panicking v), none)

/-- When the first call of `fn` panics, the executor recovers the panic and the task ends
normally, but the send never happens: the channel stays empty for ever. -/
theorem panicking_call_leaves_channel_empty (r : Retry) (hmax : 1 ≤ r.maxAttempts)
    (captured : Executor.Captured) (hlog : captured.logger = true) (goroutineID : String)
    (fn : Nat → Call) (value : String) (hpanic : fn 0 = .panicked value) :
    (r.executeAsync captured goroutineID fn).1.2 = .returned ∧
      (r.executeAsync captured goroutineID fn).2 = none := by
  obtain ⟨fuel, hfuel⟩ : ∃ fuel, r.maxAttempts.toNat = fuel + 1 := ⟨r.maxAttempts.toNat - 1, by omega⟩
  have ends : (r.execute fn).2 = .panicking value := by simp [execute, hfuel, loop, hpanic]
  simp only [executeAsync, ends]
  exact ⟨(Executor.goroutine_contained captured hlog goroutineID false _).1, trivial⟩

theorem panicking_call_leaves_channel_empty_boom :
    (1 : Int) ≤ 3 ∧
      ((⟨3, fun a => a⟩ : Retry).executeAsync ⟨true, true⟩ "1" fun _ => .panicked "boom").1.2 = .returned ∧
      ((⟨3, fun a => a⟩ : Retry).executeAsync ⟨true, true⟩ "1" fun _ => .panicked "boom").2 = none :=
  ⟨by decide, panicking_call_leaves_channel_empty ⟨3, fun a => a⟩ (by decide) ⟨true, true⟩ rfl "1" _ "boom" rfl⟩

end Retry

end ToolKit
