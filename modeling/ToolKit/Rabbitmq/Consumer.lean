import ToolKit.Rabbitmq.Guarded

/-! The message consumer (`rabbitmq/consumer`) as a guarded client, like the producer. After
`initChannel`, `handleReconnect` would call `Consume`; the model stops at the `Lock` of
`initChannel`, which never returns. -/

namespace ToolKit.Rabbitmq

/-- The fields of the consumer's `Config` that its code reads; the other fields go to the
library unchanged. -/
structure Consumer.Config where
  queue : List UInt8
  exchange : List UInt8
  exchangeType : List UInt8
  prefetchCount : Int
  deriving DecidableEq, Repr

/-- The defaults `New` fills in. -/
def Consumer.Config.withDefaults (config : Consumer.Config) : Consumer.Config :=
  { config with
    exchangeType := if config.exchangeType = [] then goString "direct" else config.exchangeType
    prefetchCount := if config.prefetchCount ≤ 0 then 1 else config.prefetchCount }

/-- The consumer: its configuration, `closed`, `consuming`, and whether `channel` is set. The
goroutines that `Consume` and `initChannel` start hold none of it. -/
structure Consumer where
  config : Consumer.Config
  closed : Bool
  consuming : Bool
  channel : Bool
  deriving DecidableEq, Repr

/-- What the library gives during one section: the errors of `CreateChannel`, `Qos`,
`ExchangeDeclare`, `QueueDeclare` (or the declared queue's name), `QueueBind`, `Consume` and
`Close`. -/
structure Consumer.Reply where
  create : Option Error
  qos : Option Error
  declare : Option Error
  queueDeclare : Except Error (List UInt8)
  bind : Option Error
  consume : Option Error
  close : Option Error

inductive Consumer.Call
  | consume
  | close
  | handleReconnect
  deriving DecidableEq, Repr

/-- `initChannel` under the mutex. An empty `Queue` takes the declared queue's name before the
binding, whether the binding succeeds or not. -/
def Consumer.initChannel (c : Consumer) (reply : Consumer.Reply) : Consumer × Option Error :=
  if c.closed then (c, some (.sentinel .connectionClosed))
  else match reply.create, reply.qos with
    | some err, _ => (c, some (.wrapped (goString "failed to create channel: %w") err))
    | none, some err => (c, some (.wrapped (goString "failed to set prefetch count: %w") err))
    | none, none =>
      if c.config.exchange ≠ [] ∧ reply.declare.isSome then (c, wrapError (.sentinel .exchangeDeclare) reply.declare)
      else match reply.queueDeclare with
        | .error err => (c, wrapError (.sentinel .queueDeclare) (some err))
        | .ok name =>
          let c := if c.config.queue = [] then { c with config := { c.config with queue := name } } else c
          if c.config.exchange ≠ [] ∧ reply.bind.isSome then (c, wrapError (.sentinel .queueBind) reply.bind)
          else ({ c with channel := true }, none)

/-- `Consume` under the mutex. -/
def Consumer.consume (c : Consumer) (reply : Consumer.Reply) : Consumer × Option Error :=
  if c.closed then (c, some (.sentinel .connectionClosed))
  else if !c.channel then (c, some (.sentinel .channelClosed))
  else match reply.consume with
    | some err => (c, wrapError (.sentinel .consumeFailed) (some err))
    | none => ({ c with consuming := true }, none)

/-- `Close` under the mutex. -/
def Consumer.close (c : Consumer) (reply : Consumer.Reply) : Consumer × Option Error :=
  if c.closed then (c, none)
  else if c.channel then
    match reply.close with
    | some err => ({ c with closed := true, consuming := false },
        some (.wrapped (goString "failed to close channel: %w") err))
    | none => ({ c with closed := true, consuming := false, channel := false }, none)
  else ({ c with closed := true, consuming := false }, none)

def Consumer.methods : Methods Consumer Consumer.Call Consumer.Reply where
  locked c
    | .consume, reply => c.consume reply
    | .close, reply => c.close reply
    | .handleReconnect, _ => (c, none)
  relocks c
    | .handleReconnect => !c.closed
    | _ => false
  initChannel := Consumer.initChannel

/-- `New`: the defaults, then `initChannel` on a fresh consumer. -/
def Consumer.new (config : Consumer.Config) (reply : Consumer.Reply) : Except Error (Guarded Consumer Consumer.Call) :=
  let init := Consumer.initChannel ⟨config.withDefaults, false, false, false⟩ reply
  match init.2 with
  | some err => .error err
  | none => .ok (Guarded.start init.1)

/-- `handleReconnect` on an open consumer deadlocks it, as it does the producer: the callback
waits in `initChannel`'s `Lock` for ever, holding `c.mutex`, so the consumer never changes again
and every later `Consume` and `Close` waits in its `Lock`. In particular a consumer that was
consuming is never resubscribed. -/
theorem consumer_deadlocks_on_reconnect {g g' g'' : Guarded Consumer Consumer.Call} {i : Nat}
    {reply : Consumer.Reply} (waiting : g.calls[i]? = some (.locking .handleReconnect))
    (opened : g.state.closed = false) (acquired : g.next Consumer.methods (.acquire i reply) = some g')
    (later : Reachable (Guarded.next Consumer.methods) g' g'') :
    ∃ callers : List Consumer.Call,
      g'' = { g with holder := some i, calls := g.calls.set i .relocking ++ callers.map .locking } :=
  frozen_after_relock Consumer.methods waiting (by simp [Consumer.methods, opened]) acquired later

/-- A broker that accepts every request and names a server-generated queue. -/
def Consumer.acceptingReply : Consumer.Reply := ⟨none, none, none, .ok (goString "amq.gen-1"), none, none, none⟩

/-- The consumer `New` returns for an empty configuration, consuming, after a call of the
reconnect callback. -/
def Consumer.reconnecting : Guarded Consumer Consumer.Call :=
  let started : Guarded Consumer Consumer.Call :=
    Guarded.start (Consumer.initChannel ⟨(⟨[], [], [], 0⟩ : Consumer.Config).withDefaults, false, false, false⟩
      Consumer.acceptingReply).1
  (run (Guarded.next Consumer.methods) started
    [.call .consume, .acquire 0 Consumer.acceptingReply, .call .handleReconnect]).getD started

/-- `Consumer.reconnecting` once the callback holds the mutex. -/
def Consumer.relocking : Guarded Consumer Consumer.Call :=
  (Consumer.reconnecting.next Consumer.methods (.acquire 1 Consumer.acceptingReply)).getD Consumer.reconnecting

/-- `Consumer.relocking` after a later `Consume` and `Close`. -/
def Consumer.blocked : Guarded Consumer Consumer.Call :=
  (run (Guarded.next Consumer.methods) Consumer.relocking [.call .consume, .call .close]).getD Consumer.relocking

theorem consumer_deadlocks_on_reconnect_while_consuming :
    Consumer.reconnecting.calls[1]? = some (.locking .handleReconnect) ∧ Consumer.reconnecting.state.closed = false ∧
      Consumer.reconnecting.state.consuming = true ∧
      Consumer.reconnecting.next Consumer.methods (.acquire 1 Consumer.acceptingReply) = some Consumer.relocking ∧
      Reachable (Guarded.next Consumer.methods) Consumer.relocking Consumer.blocked ∧
      ∃ callers : List Consumer.Call, Consumer.blocked = { Consumer.reconnecting with
        holder := some 1, calls := Consumer.reconnecting.calls.set 1 .relocking ++ callers.map .locking } :=
  have acquired : Consumer.reconnecting.next Consumer.methods (.acquire 1 Consumer.acceptingReply) =
      some Consumer.relocking := rfl
  have later : Reachable (Guarded.next Consumer.methods) Consumer.relocking Consumer.blocked :=
    reachable_of_run _ [.call .consume, .call .close] rfl
  ⟨rfl, rfl, rfl, acquired, later, consumer_deadlocks_on_reconnect rfl rfl acquired later⟩

end ToolKit.Rabbitmq
