import MessageServer.Address.Reader

/-!
# Configuration

What a server is told before it is bound, the defaults, and the conditions under which a
configuration makes sense.  `Config.validate` reports the first condition that fails.
-/

namespace MessageServer

/-- How a server is set up.  Times are in nanoseconds. -/
structure Config where
  bindAddress : IpAddress
  port : UInt16
  workers : UInt64
  pollTimeout : Nat
  maxEvents : UInt64
  backlog : Int32
  socketBufferSize : UInt64
  poolSize : UInt64
  maxConnections : UInt64
  statsInterval : Option Nat
  authenticateOnAccept : Bool
  pinWorkers : Bool
  deriving DecidableEq

/-- Why a configuration is refused. -/
inductive ConfigError where
  | noWorkers
  | poolBelowWorkers (poolSize workers : UInt64)
  | eventsOutOfRange
  | connectionsOutOfRange
  | backlogNotPositive
  | zeroStatsInterval
  deriving DecidableEq, Repr

namespace ConfigError

def message : ConfigError → String
  | noWorkers => "worker_threads must be at least 1"
  | poolBelowWorkers poolSize workers =>
    s!"buffer_pool_size ({poolSize}) must be at least worker_threads ({workers})"
  | eventsOutOfRange => "max_events must be between 1 and i32::MAX"
  | connectionsOutOfRange => "max_connections must be between 1 and u32::MAX - 1"
  | backlogNotPositive => "backlog must be positive"
  | zeroStatsInterval => "stats_interval must be non-zero (use None to disable)"

end ConfigError

namespace Config

/-- One millisecond in nanoseconds. -/
def millisecond : Nat := 1000000

/-- The default: four workers behind port 8888 of the machine itself, statistics every second. -/
def default : Config where
  bindAddress := .v4 Ipv4.localhost
  port := 8888
  workers := 4
  pollTimeout := millisecond
  maxEvents := 1024
  backlog := 1024
  socketBufferSize := 1048576
  poolSize := 1024
  maxConnections := 65536
  statsInterval := some (1000 * millisecond)
  authenticateOnAccept := true
  pinWorkers := false

/-- The address to bind. -/
def socketAddress (c : Config) : SocketAddress :=
  .ofIp c.bindAddress c.port

/-- Every worker needs a slot of each pool, and sizes must fit the calls they are passed to. -/
def validate (c : Config) : Except ConfigError Unit :=
  if c.workers = 0 then .error .noWorkers
  else if c.poolSize < c.workers then .error (.poolBelowWorkers c.poolSize c.workers)
  else if c.maxEvents = 0 ∨ 2147483647 < c.maxEvents then .error .eventsOutOfRange
  else if c.maxConnections = 0 ∨ 4294967295 ≤ c.maxConnections then .error .connectionsOutOfRange
  else if c.backlog ≤ 0 then .error .backlogNotPositive
  else if c.statsInterval = some 0 then .error .zeroStatsInterval
  else .ok ()

end Config

end MessageServer
