import ToolKit.Rabbitmq.Guarded

/-! The message producer (`rabbitmq/producer/producer.go`) as a guarded client. The connection
manager that calls `handleReconnect` is not part of the sources; its callback may come at any
time after `New`. -/

namespace ToolKit.Rabbitmq

/-- The fields of the producer's `Config` that its code reads; `RoutingKey`, `Durable`,
`Mandatory`, `Immediate` and `ExchangeArgs` go to the library unchanged. `ConfirmTimeout` is in
nanoseconds. -/
structure Producer.Config where
  exchange : List UInt8
  exchangeType : List UInt8
  confirmMode : Bool
  confirmTimeout : Int
  deliveryMode : UInt8
  contentType : List UInt8
  contentEncoding : List UInt8
  deriving DecidableEq, Repr

/-- The defaults `New` fills in. -/
def Producer.Config.withDefaults (config : Producer.Config) : Producer.Config :=
  { config with
    exchangeType := if config.exchangeType = [] then goString "direct" else config.exchangeType
    deliveryMode := if config.deliveryMode = 0 then 1 else config.deliveryMode
    contentType := if config.contentType = [] then goString "application/octet-stream" else config.contentType
    confirmTimeout := if config.confirmTimeout = 0 then 5 * 1000000000 else config.confirmTimeout }

/-- The fields of `amqp.Publishing` that `Publish` sets, besides `Headers`, which it passes on
from its caller, and `Timestamp`. -/
structure Publishing where
  contentType : List UInt8
  contentEncoding : List UInt8
  body : List UInt8
  deliveryMode : UInt8
  deriving DecidableEq, Repr

/-- The producer: its configuration, `closed`, whether `channel` is set, and the messages the
library has accepted from `PublishWithContext`. -/
structure Producer where
  config : Producer.Config
  closed : Bool
  channel : Bool
  sent : List Publishing
  deriving DecidableEq, Repr

/-- How `Publish`'s `select` on a confirmation ends: a positive or a negative acknowledgement, the
caller's context done first, or `time.After(ConfirmTimeout)` first. -/
inductive Confirmation
  | ack
  | nack
  | done (deadlineExceeded : Bool)
  | timeout
  deriving DecidableEq, Repr

def Confirmation.err : Confirmation → Option Error
  | .ack => none
  | .nack => some (.text (goString "message not confirmed"))
  | .done deadlineExceeded => some (.context deadlineExceeded)
  | .timeout => some (.text (goString "timeout waiting for confirmation"))

/-- What the library gives during one section: the errors of `CreateChannel`, `ExchangeDeclare`,
`Confirm`, `PublishWithContext` and `Close`, and how the wait for a confirmation ends. -/
structure Producer.Reply where
  create : Option Error
  declare : Option Error
  confirm : Option Error
  publish : Option Error
  confirmation : Confirmation
  close : Option Error
  deriving DecidableEq, Repr

/-- The producer's exported methods, and `handleReconnect`, which `New` registers as the connection
manager's callback for a new connection. -/
inductive Producer.Call
  | publish (body : List UInt8)
  | close
  | handleReconnect
  deriving DecidableEq, Repr

/-- `initChannel` under the mutex. A failed declaration or confirm mode closes the new channel
and leaves `channel` as it was; the `monitor` goroutine it starts only prints. -/
def Producer.initChannel (p : Producer) (reply : Producer.Reply) : Producer × Option Error :=
  if p.closed then (p, some (.sentinel .connectionClosed))
  else match reply.create with
    | some err => (p, some (.wrapped (goString "failed to create channel: %w") err))
    | none =>
      if p.config.exchange ≠ [] ∧ reply.declare.isSome then (p, wrapError (.sentinel .exchangeDeclare) reply.declare)
      else if p.config.confirmMode ∧ reply.confirm.isSome then (p, wrapError (.sentinel .confirmMode) reply.confirm)
      else ({ p with channel := true }, none)

/-- `Publish` under the mutex. -/
def Producer.publish (p : Producer) (body : List UInt8) (reply : Producer.Reply) : Producer × Option Error :=
  if p.closed then (p, some (.sentinel .connectionClosed))
  else if !p.channel then (p, some (.sentinel .channelClosed))
  else match reply.publish with
    | some err => (p, wrapError (.sentinel .publishFailed) (some err))
    | none =>
      ({ p with sent := p.sent ++ [⟨p.config.contentType, p.config.contentEncoding, body, p.config.deliveryMode⟩] },
        if p.config.confirmMode then reply.confirmation.err else none)

/-- `Close` under the mutex. A failed `Close` of the channel leaves `channel` set. -/
def Producer.close (p : Producer) (reply : Producer.Reply) : Producer × Option Error :=
  if p.closed then (p, none)
  else if p.channel then
    match reply.close with
    | some err => ({ p with closed := true }, some (.wrapped (goString "failed to close channel: %w") err))
    | none => ({ p with closed := true, channel := false }, none)
  else ({ p with closed := true }, none)

def Producer.methods : Methods Producer Producer.Call Producer.Reply where
  locked p
    | .publish body, reply => p.publish body reply
    | .close, reply => p.close reply
    | .handleReconnect, _ => (p, none)
  relocks p
    | .handleReconnect => !p.closed
    | _ => false
  initChannel := Producer.initChannel

/-- `New`: the defaults, then `initChannel` on a fresh producer. -/
def Producer.new (config : Producer.Config) (reply : Producer.Reply) : Except Error (Guarded Producer Producer.Call) :=
  let init := Producer.initChannel ⟨config.withDefaults, false, false, []⟩ reply
  match init.2 with
  | some err => .error err
  | none => .ok (Guarded.start init.1)

/-- A broker that accepts every request. -/
def acceptingReply : Producer.Reply := ⟨none, none, none, none, .ack, none⟩

/-- The producer `New` returns for an empty configuration and an accepting broker. -/
def Producer.started : Guarded Producer Producer.Call :=
  Guarded.start (Producer.initChannel ⟨(⟨[], [], false, 0, 0, [], []⟩ : Producer.Config).withDefaults, false, false, []⟩
    acceptingReply).1

example : Producer.new ⟨[], [], false, 0, 0, [], []⟩ acceptingReply = .ok Producer.started := rfl

/-- `handleReconnect` on an open producer deadlocks it: once the callback takes `p.mutex`, it
waits in `initChannel`'s `Lock` for ever, holding the mutex, so in every later state the producer
is as it was, every call made before is where it was, and every later `Publish` and `Close`
waits in its `Lock`. -/
theorem producer_deadlocks_on_reconnect {g g' g'' : Guarded Producer Producer.Call} {i : Nat} {reply : Producer.Reply}
    (waiting : g.calls[i]? = some (.locking .handleReconnect)) (opened : g.state.closed = false)
    (acquired : g.next Producer.methods (.acquire i reply) = some g')
    (later : Reachable (Guarded.next Producer.methods) g' g'') :
    ∃ callers : List Producer.Call,
      g'' = { g with holder := some i, calls := g.calls.set i .relocking ++ callers.map .locking } :=
  frozen_after_relock Producer.methods waiting (by simp [Producer.methods, opened]) acquired later

/-- The started producer after one published message and a call of the reconnect callback. -/
def Producer.reconnecting : Guarded Producer Producer.Call :=
  (run (Guarded.next Producer.methods) Producer.started
    [.call (.publish (goString "hello")), .acquire 0 acceptingReply, .call .handleReconnect]).getD Producer.started

/-- `Producer.reconnecting` once the callback holds the mutex. -/
def Producer.relocking : Guarded Producer Producer.Call :=
  (Producer.reconnecting.next Producer.methods (.acquire 1 acceptingReply)).getD Producer.reconnecting

/-- `Producer.relocking` after a later `Publish` and `Close`. -/
def Producer.blocked : Guarded Producer Producer.Call :=
  (run (Guarded.next Producer.methods) Producer.relocking [.call (.publish (goString "late")), .call .close]).getD
    Producer.relocking

theorem producer_deadlocks_on_reconnect_after_publish :
    Producer.reconnecting.calls[1]? = some (.locking .handleReconnect) ∧ Producer.reconnecting.state.closed = false ∧
      Producer.reconnecting.next Producer.methods (.acquire 1 acceptingReply) = some Producer.relocking ∧
      Reachable (Guarded.next Producer.methods) Producer.relocking Producer.blocked ∧
      ∃ callers : List Producer.Call, Producer.blocked = { Producer.reconnecting with
        holder := some 1, calls := Producer.reconnecting.calls.set 1 .relocking ++ callers.map .locking } :=
  have later : Reachable (Guarded.next Producer.methods) Producer.relocking Producer.blocked :=
    reachable_of_run _ [.call (.publish (goString "late")), .call .close] rfl
  have acquired : Producer.reconnecting.next Producer.methods (.acquire 1 acceptingReply) = some Producer.relocking := rfl
  ⟨rfl, rfl, acquired, later, producer_deadlocks_on_reconnect rfl rfl acquired later⟩

end ToolKit.Rabbitmq
