import ToolKit.Go

/-! The connection settings of the message-broker package (`rabbitmq/config.go`): `Validate`,
which fills in defaults in place, and `BuildURL`. Durations are in nanoseconds. -/

namespace ToolKit.Rabbitmq

/-- The fields of `Config` that `Validate` and `BuildURL` read; `TLSConfig` is read by neither. -/
structure Config where
  url : List UInt8
  host : List UInt8
  port : Int
  username : List UInt8
  password : List UInt8
  vHost : List UInt8
  maxConnections : Int
  reconnectDelay : Int
  maxReconnectAttempts : Int
  enableTLS : Bool
  heartbeat : Int
  deriving DecidableEq, Repr

/-- `Config.Validate`: the settings with their defaults filled in, or its error. It fails before
it writes anything, so a failed call leaves the settings as they were. -/
def Config.validate (c : Config) : Except (List UInt8) Config :=
  if c.url = [] ∧ c.host = [] then .error (goString "必须提供URL或Host参数")
  else
    let c := if c.url = [] ∧ c.port ≤ 0 then { c with port := 5672 } else c
    .ok { c with
      reconnectDelay := if c.reconnectDelay ≤ 0 then 5 * 1000000000 else c.reconnectDelay
      maxReconnectAttempts := if c.maxReconnectAttempts ≤ 0 then 10 else c.maxReconnectAttempts
      maxConnections := if c.maxConnections ≤ 0 then 1 else c.maxConnections
      heartbeat := if c.heartbeat ≤ 0 then 10 * 1000000000 else c.heartbeat }

/-- `Config.BuildURL`: `URL` when set, else `%s://%s:%s@%s:%d%s` of the scheme, the user name
and password (`guest` when empty), the host, the port and the virtual host (`/` when empty). -/
def Config.buildURL (c : Config) : List UInt8 :=
  if c.url ≠ [] then c.url
  else
    (if c.enableTLS then goString "amqps" else goString "amqp") ++ goString "://" ++
      (if c.username ≠ [] then c.username else goString "guest") ++ goString ":" ++
      (if c.password ≠ [] then c.password else goString "guest") ++ goString "@" ++ c.host ++ goString ":" ++
      goString (toString c.port) ++ (if c.vHost ≠ [] then c.vHost else goString "/")

/-- What `Validate` guarantees: a URL or a host, positive limits and durations, and a positive
port when there is no URL. -/
structure Config.Valid (c : Config) : Prop where
  addressed : c.url ≠ [] ∨ c.host ≠ []
  port : c.url = [] → 0 < c.port
  maxConnections : 0 < c.maxConnections
  reconnectDelay : 0 < c.reconnectDelay
  maxReconnectAttempts : 0 < c.maxReconnectAttempts
  heartbeat : 0 < c.heartbeat

/-- A default filled in for a value that is not positive is positive. -/
theorem positive_default {x d : Int} (hd : 0 < d) : 0 < if x ≤ 0 then d else x := by
  split_ifs <;> omega

theorem validate_valid {c c' : Config} (h : c.validate = .ok c') : c'.Valid := by
  unfold Config.validate at h
  split_ifs at h with missing portless <;> cases h
  · exact ⟨not_and_or.mp missing, fun _ => by simp, positive_default (by decide), positive_default (by decide),
      positive_default (by decide), positive_default (by decide)⟩
  · exact ⟨not_and_or.mp missing, fun u => by dsimp only; have := not_and.mp portless u; omega, positive_default (by decide),
      positive_default (by decide), positive_default (by decide), positive_default (by decide)⟩

/-- `Validate` leaves valid settings as they are. -/
theorem validate_of_valid {c : Config} (valid : c.Valid) : c.validate = .ok c := by
  have addressed : ¬(c.url = [] ∧ c.host = []) := fun ⟨u, h⟩ => valid.addressed.elim (· u) (· h)
  have port : ¬(c.url = [] ∧ c.port ≤ 0) := fun ⟨u, p⟩ => by have := valid.port u; omega
  simp only [Config.validate, addressed, port, if_false, Int.not_le.mpr valid.reconnectDelay,
    Int.not_le.mpr valid.maxReconnectAttempts, Int.not_le.mpr valid.maxConnections, Int.not_le.mpr valid.heartbeat]

/-- Settings naming only a host. -/
def hostOnly : Config := ⟨[], goString "mq", 0, [], [], [], 0, 0, 0, false, 0⟩

example : hostOnly.validate.map Config.buildURL =
    .ok (goString "amqp://guest:guest@mq:5672/") := rfl

end ToolKit.Rabbitmq
