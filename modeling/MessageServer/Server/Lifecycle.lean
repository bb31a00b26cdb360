import MessageServer.Server.Service

/-!
# Binding, starting and stopping

A server is bound, started at most once, and stopped.  The stop ends the listening and the workers
and closes every connection that is still open; a server that was stopped stays stopped, and
stopping it again does nothing.  A start that cannot spawn all its workers stops the server.
-/

namespace MessageServer

namespace Server

/-! ## Binding -/

/-- The address a socket gets: the machine chooses a port where none is asked for. -/
def boundAddress (host : Host) (a : SocketAddress) : SocketAddress :=
  if a.port = 0 then a.withPort host.freePort else a

/-- A server that listens and does nothing else yet. -/
def bound (config : Config) (table : HandlerTable) (address : SocketAddress) (pools : Pools) :
    Server where
  config
  table
  address
  running := false
  stopped := false
  listening := true
  workers := 0
  watchlist := ⟨[⟨listenerDescriptor, listenerToken, false⟩]⟩
  registry := Registry.new config.maxConnections.toNat
  pools
  counters := Counters.zero
  latencies := Latencies.new 0
  connections := #[]
  calls := []
  reports := []

/-- Checks the configuration and binds the listening socket. -/
def bind (host : Host) (config : Config) (table : HandlerTable) : Except ServerError Server :=
  match config.validate with
  | .error e => .error (.invalidConfig e.message)
  | .ok () =>
    let address := config.socketAddress
    match host.bindError? address.ip with
    | some e => .error (.bind address e)
    | none =>
      match Pools.new config.poolSize.toNat with
      | .error e => .error (.pools e)
      | .ok pools => .ok (bound config table (boundAddress host address) pools)

/-- Binds another server to the address of this one. -/
def bindAgain (s : Server) (host : Host) : Except ServerError Server :=
  let config := { s.config with port := s.address.port }
  if s.listening then
    match config.validate with
    | .error e => .error (.invalidConfig e.message)
    | .ok () => .error (.bind s.address .addressInUse)
  else bind host config s.table

/-! ## Stopping -/

/-- The steps that close a connection that the registry has let go of already. -/
def abandonSteps (s : Server) (t : Ticket) : List Step :=
  match s.connection? t.serial with
  | none => []
  | some c =>
    if c.state.isOpen then
      [.beginClose t.serial, .unwatch t.serial, .shutdown t.serial, .markClosed t.serial,
        .notifyClosed t.serial, .countClosed, .drop t.serial]
    else [.drop t.serial]

/-- The steps of the stop, where the registry gives its connections back in the order of `ids`. -/
def stopStepsIn (s : Server) (ids : List ConnectionId) : List Step :=
  if s.stopped then []
  else
    [.halt, .closeListener, .joinWorkers, .drain ids] ++
      (s.registry.releaseAll ids).1.flatMap s.abandonSteps

/-- Ends the listening and the workers and closes every connection. -/
def stop (s : Server) : Server :=
  s.run (s.stopStepsIn (s.registry.byDescriptor.map (·.2)))

/-! ## Starting -/

/-- The first of the workers that cannot be spawned. -/
def firstSpawnError (spawnError? : Nat → Option SystemError) (workers : Nat) :
    Option (Nat × SystemError) :=
  (List.range workers).findSome? fun i => (spawnError? i).map fun e => (i, e)

/-- Spawns the workers, up to the first that cannot be spawned; `spawnError?` says which of them
cannot. -/
def spawn (s : Server) (spawnError? : Nat → Option SystemError) : Option SystemError × Server :=
  let workers := s.config.workers.toNat
  let s := { s with running := true, latencies := Latencies.new workers }
  match firstSpawnError spawnError? workers with
  | some (spawned, e) => (some e, { s with workers := spawned })
  | none => (none, { s with workers })

/-- Starts the workers; a start that cannot spawn all of them stops the server, which gets its
connections from the registry in the order of `ids`. -/
def startIn (s : Server) (spawnError? : Nat → Option SystemError) (ids : List ConnectionId) :
    Except ServerError Unit × Server :=
  if s.stopped then (.error .shutdown, s)
  else if s.running then (.error .alreadyRunning, s)
  else
    match s.spawn spawnError? with
    | (some e, s) => (.error (.spawn e), s.run (s.stopStepsIn ids))
    | (none, s) => (.ok (), s)

/-- Starts the workers. -/
def start (s : Server) (spawnError? : Nat → Option SystemError) :
    Except ServerError Unit × Server :=
  s.startIn spawnError? (s.registry.byDescriptor.map (·.2))

end Server

end MessageServer
