import ToolKit.Go

/-! The errors of the message-broker package (`rabbitmq/errors.go`), with the two classifiers
`IsConnectionError` and `IsChannelError` and the wrapper `WrapError`. -/

namespace ToolKit.Rabbitmq

/-- The package's `errors.New` values; `errors.Is` compares them by identity. -/
inductive Sentinel
  | notConnected
  | channelClosed
  | connectionClosed
  | publishFailed
  | consumeFailed
  | queueDeclare
  | exchangeDeclare
  | queueBind
  | confirmMode
  deriving DecidableEq, Repr

def Sentinel.text : Sentinel → List UInt8
  | .notConnected => goString "unconnected to RabbitMQ server"
  | .channelClosed => goString "channel closed"
  | .connectionClosed => goString "connection closed"
  | .publishFailed => goString "publish failed"
  | .consumeFailed => goString "consume failed"
  | .queueDeclare => goString "declare queue failed"
  | .exchangeDeclare => goString "declare exchange failed"
  | .queueBind => goString "bind queue failed"
  | .confirmMode => goString "confirm mode failed"

/-- An `error` as the package meets it: one of its sentinels; a `*amqp.Error` with its reply
`Code`; `context.Canceled` or `context.DeadlineExceeded`; any other error of the library or of
the runtime, given by an identifier; the result of `errors.New` or of a `fmt.Errorf` with no
`%w`; a `fmt.Errorf` whose format has one `%w`, wrapping `cause`, and, in `wrappedWith`, a `%v`
that formats `detail`; or an `errors.Join`, or a `fmt.Errorf` with several `%w`, whose list of
errors is nested to the right. -/
inductive Error
  | sentinel (s : Sentinel)
  | amqp (code : Int)
  | context (deadlineExceeded : Bool)
  | other (id : Nat)
  | text (message : List UInt8)
  | wrapped (format : List UInt8) (cause : Error)
  | wrappedWith (format : List UInt8) (cause detail : Error)
  | joined (first rest : Error)
  deriving DecidableEq, Repr

/-- `errors.Is(err, target)` for a sentinel `target`: the unwrap tree of `err` reaches it. -/
def Error.isSentinel : Error → Sentinel → Bool
  | .sentinel s, target => s == target
  | .wrapped _ cause, target | .wrappedWith _ cause _, target => cause.isSentinel target
  | .joined first rest, target => first.isSentinel target || rest.isSentinel target
  | _, _ => false

/-- `errors.As(err, &amqpErr)` with `amqpErr` a `*amqp.Error`: the `Code` of the first one in
a depth-first walk of the unwrap tree. -/
def Error.asAmqp : Error → Option Int
  | .amqp code => some code
  | .wrapped _ cause | .wrappedWith _ cause _ => cause.asAmqp
  | .joined first rest => first.asAmqp <|> rest.asAmqp
  | _ => none

/-- The unwrap tree of the error is a chain: it passes no `errors.Join`. -/
def Error.isChain : Error → Bool
  | .wrapped _ cause | .wrappedWith _ cause _ => cause.isChain
  | .joined _ _ => false
  | _ => true

/-- `IsConnectionError`. -/
def isConnectionError : Option Error → Bool
  | none => false
  | some err =>
    if err.isSentinel .notConnected || err.isSentinel .connectionClosed then true
    else match err.asAmqp with
      | some code => 300 ≤ code && code < 400
      | none => false

/-- `IsChannelError`. -/
def isChannelError : Option Error → Bool
  | none => false
  | some err =>
    if err.isSentinel .channelClosed then true
    else match err.asAmqp with
      | some code => 200 ≤ code && code < 300
      | none => false

/-- `WrapError`: `fmt.Errorf("%w: %v", baseErr, err)`, or nil for a nil `err`. -/
def wrapError (baseErr : Error) : Option Error → Option Error
  | none => none
  | some err => some (.wrappedWith (goString "%w: %v") baseErr err)

end ToolKit.Rabbitmq
