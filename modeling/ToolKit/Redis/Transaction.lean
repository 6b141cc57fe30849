import ToolKit.Go
import Mathlib.Data.List.Range

/-! The optimistic-locking retries of the Redis client (`redis/transaction.go`).
`Transaction.ExecWithRetry` and `Client.WithTransactionOptions` run the same loop, given what
each call of go-redis's `Watch` returns. -/

namespace ToolKit.Redis

/-- A non-nil error of go-redis's `Watch`: `redis.TxFailedErr`, compared by identity, or another
error, given by an identifier, such as the context's once `WithTransactionOptions`'s timeout has
passed. -/
inductive WatchError
  | txFailed
  | other (id : Nat)
  deriving DecidableEq, Repr

/-- The fields of `TransactionOptions`; `Timeout` only bounds the context the calls get, whose
outcome is in what `Watch` returns. -/
structure TransactionOptions where
  maxRetries : Int
  timeout : Int
  deriving DecidableEq, Repr

/-- `DefaultTransactionOptions`. -/
def defaultTransactionOptions : TransactionOptions := ⟨3, 5 * 1000000000⟩

/-- The loop from call `i` on, with at most `n` calls left: the calls made and the result. A call
follows only a `redis.TxFailedErr`, and the loop returns `redis.TxFailedErr` when the calls run
out. -/
def retryLoop (watch : Nat → Option WatchError) (i : Nat) : Nat → List Nat × Option WatchError
  | 0 => ([], some .txFailed)
  | n + 1 =>
    match watch i with
    | some .txFailed => let rest := retryLoop watch (i + 1) n; (i :: rest.1, rest.2)
    | result => ([i], result)

/-- `Transaction.ExecWithRetry`. -/
def execWithRetry (watch : Nat → Option WatchError) (maxRetries : Int) : List Nat × Option WatchError :=
  retryLoop watch 0 maxRetries.toNat

/-- `Client.WithTransactionOptions`, whose nil options are `DefaultTransactionOptions`. -/
def withTransactionOptions (watch : Nat → Option WatchError) (opts : Option TransactionOptions) :
    List Nat × Option WatchError :=
  retryLoop watch 0 (opts.getD defaultTransactionOptions).maxRetries.toNat

/-- What the loop does, said without the loop: the calls up to the first one among the `n` that
does not return `redis.TxFailedErr`, and its result; or all `n` calls and `redis.TxFailedErr`. -/
def retrySpec (watch : Nat → Option WatchError) (i n : Nat) : List Nat × Option WatchError :=
  match (List.range' i n).find? fun k => watch k != some .txFailed with
  | some k => (List.range' i (k + 1 - i), watch k)
  | none => (List.range' i n, some .txFailed)

theorem retryLoop_eq_retrySpec (watch : Nat → Option WatchError) (i n : Nat) :
    retryLoop watch i n = retrySpec watch i n := by
  induction n generalizing i with
  | zero => rfl
  | succ n ih =>
    simp only [retryLoop, retrySpec, List.range'_succ, List.find?_cons]
    rcases hw : watch i with _ | _ | id
    · have stops : ((none : Option WatchError) != some .txFailed) = true := rfl
      simp [stops, hw]
    · simp only [bne_self_eq_false, ih, retrySpec]
      cases found : (List.range' (i + 1) n).find? (fun k => watch k != some .txFailed) with
      | none => rfl
      | some k =>
        have later : i + 1 ≤ k := (List.mem_range'_1.mp (List.mem_of_find?_eq_some found)).1
        dsimp only
        rw [show k + 1 - i = (k + 1 - (i + 1)) + 1 by omega, List.range'_succ]
    · have stops : (some (WatchError.other id) != some .txFailed) = true := rfl
      simp [stops, hw]

/-- `ExecWithRetry` and `WithTransactionOptions` call `Watch` at most `MaxRetries` times, stop at
the first call that does not return `redis.TxFailedErr` and return its result, and return
`redis.TxFailedErr` once the calls run out; with `MaxRetries ≤ 0` they return it without calling
`Watch` at all. -/
theorem transaction_retries_spec (watch : Nat → Option WatchError) (maxRetries : Int)
    (opts : Option TransactionOptions) :
    execWithRetry watch maxRetries = retrySpec watch 0 maxRetries.toNat ∧
      withTransactionOptions watch opts = retrySpec watch 0 (opts.getD defaultTransactionOptions).maxRetries.toNat :=
  ⟨retryLoop_eq_retrySpec watch 0 _, retryLoop_eq_retrySpec watch 0 _⟩

example : execWithRetry (fun k => if k < 2 then some .txFailed else none) 3 = ([0, 1, 2], none) := by decide

end ToolKit.Redis
