import ToolKit.Rabbitmq.Errors
import ToolKit.Run

/-! Calls on a value guarded by one `sync.Mutex`, the way the producer and the consumer of the
message-broker package make them: each exported method locks the mutex, runs its section and
unlocks it by `defer`, so a section is one step, run against what the broker replies. -/

namespace ToolKit.Rabbitmq

/-- The sections of a client's methods: what a method does under the mutex (`locked`), whether
it keeps the mutex and calls `initChannel` instead (`relocks`), as `handleReconnect` does on an
open client, and `initChannel`'s own section. A Go mutex is not reentrant, so the `Lock` of
`initChannel` then waits for a mutex its caller holds. -/
structure Methods (σ κ ρ : Type) where
  locked : σ → κ → ρ → σ × Option Error
  relocks : σ → κ → Bool
  initChannel : σ → ρ → σ × Option Error

/-- Where a call is: waiting in its method's `Lock`; holding the mutex and waiting in
`initChannel`'s `Lock`; returned with its result; or stopped by the fatal `Unlock` of an unlocked
mutex, should that second `Lock` ever return, when `initChannel` and then the outer deferred
`Unlock` both unlock. -/
inductive CallPc (κ : Type)
  | locking (call : κ)
  | relocking
  | returned (err : Option Error)
  | fatal
  deriving DecidableEq, Repr

/-- A guarded value, the call holding its mutex across steps, and every call made so far. -/
structure Guarded (σ κ : Type) where
  state : σ
  holder : Option Nat
  calls : List (CallPc κ)

inductive Action (κ ρ : Type)
  | call (call : κ)
  | acquire (i : Nat) (reply : ρ)

/-- A client just returned by `New`: no call yet. -/
def Guarded.start {σ κ : Type} (s : σ) : Guarded σ κ := ⟨s, none, []⟩

section

variable {σ κ ρ : Type} (methods : Methods σ κ ρ)

/-- A caller calls a method; a waiting call takes the free mutex and runs its section. -/
def Guarded.next (g : Guarded σ κ) : Action κ ρ → Option (Guarded σ κ)
  | .call c => some { g with calls := g.calls ++ [.locking c] }
  | .acquire i reply =>
    if g.holder = none then
      match g.calls[i]? with
      | some (.locking c) =>
        if methods.relocks g.state c then some { g with holder := some i, calls := g.calls.set i .relocking }
        else
          let done := methods.locked g.state c reply
          some { g with state := done.1, calls := g.calls.set i (.returned done.2) }
      | some .relocking =>
        some { g with state := (methods.initChannel g.state reply).1, calls := g.calls.set i .fatal }
      | _ => none
    else none

/-- While a call keeps the mutex, the only enabled step is a new call, which waits in `Lock`. -/
theorem next_of_held {g g' : Guarded σ κ} {a : Action κ ρ} {i : Nat} (held : g.holder = some i)
    (h : g.next methods a = some g') : ∃ c, g' = { g with calls := g.calls ++ [.locking c] } := by
  cases a with
  | call c => exact ⟨c, (Option.some.inj h).symm⟩
  | acquire j reply => simp [Guarded.next, held] at h

/-- A call whose method keeps the mutex takes it and waits in `initChannel`'s `Lock`. -/
theorem next_acquire_relocks {g g' : Guarded σ κ} {i : Nat} {c : κ} {reply : ρ}
    (waiting : g.calls[i]? = some (.locking c)) (relocks : methods.relocks g.state c = true)
    (h : g.next methods (.acquire i reply) = some g') :
    g' = { g with holder := some i, calls := g.calls.set i .relocking } := by
  simp only [Guarded.next] at h
  split_ifs at h
  simp only [waiting, relocks, if_true] at h
  exact (Option.some.inj h).symm

/-- Once a call keeps the mutex, every later state is the same client with more calls, each
waiting in its `Lock`: the guarded value and every result stay as they were. -/
theorem frozen_of_held {g g' : Guarded σ κ} (h : Reachable (Guarded.next methods) g g') {i : Nat}
    (held : g.holder = some i) : ∃ waiting : List κ, g' = { g with calls := g.calls ++ waiting.map .locking } := by
  induction h with
  | init => exact ⟨[], by simp⟩
  | step a _ step ih =>
    obtain ⟨waiting, rfl⟩ := ih
    obtain ⟨c, rfl⟩ := next_of_held methods (by exact held) step
    exact ⟨waiting ++ [c], by simp⟩

/-- A call whose method keeps the mutex deadlocks the client once it takes the mutex: every later
state is the client as it was then, with more calls waiting in their `Lock`. -/
theorem frozen_after_relock {g g' g'' : Guarded σ κ} {i : Nat} {c : κ} {reply : ρ}
    (waiting : g.calls[i]? = some (.locking c)) (relocks : methods.relocks g.state c = true)
    (acquired : g.next methods (.acquire i reply) = some g') (later : Reachable (Guarded.next methods) g' g'') :
    ∃ callers : List κ, g'' = { g with holder := some i, calls := g.calls.set i .relocking ++ callers.map .locking } := by
  rw [next_acquire_relocks methods waiting relocks acquired] at later
  exact frozen_of_held methods later rfl

end

end ToolKit.Rabbitmq
