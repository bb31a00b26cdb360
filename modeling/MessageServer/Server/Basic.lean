import MessageServer.Connection.Registry
import MessageServer.Desk
import MessageServer.Host
import MessageServer.Latency.Samples
import MessageServer.Readiness
import MessageServer.Server.Error

/-!
# Servers

The state of a server, and the internal steps that admissions, closings and the stop consist of.

A server remembers every connection it ever admitted, by serial number; the registry knows those
that are live.  The calls of the hooks and the reports are kept in the order in which they were
made.

Each operation is a list of `Step`s, applied one after the other by `Server.run`.  The states
between two steps are states of a server too.
-/

namespace MessageServer

/-- Which hook was called. -/
inductive HookPhase where
  | opened | closed
  deriving DecidableEq, Repr

/-- A call of a hook: which one, and the connection it was called on. -/
structure HookCall where
  phase : HookPhase
  connection : Connection
  deriving DecidableEq

/-- A call in words. -/
def HookCall.text (h : HookCall) : String :=
  let c := h.connection
  match h.phase with
  | .opened => s!"open {c.clientId} {c.state.name} {c.standing.authenticated}"
  | .closed => s!"close {c.clientId} {c.state.name}"

/-- The statistics as they are logged. -/
structure Report where
  counters : Counters
  latency : LatencySummary
  deriving DecidableEq

/-- A bound server. -/
structure Server where
  config : Config
  table : HandlerTable
  address : SocketAddress
  running : Bool
  stopped : Bool
  listening : Bool
  /-- How many workers run. -/
  workers : Nat
  watchlist : Watchlist
  registry : Registry
  pools : Pools
  counters : Counters
  latencies : Latencies
  /-- Every connection ever admitted; the index is the serial number. -/
  connections : Array Connection
  calls : List HookCall
  reports : List Report

/-- The descriptor of the listening socket. -/
def listenerDescriptor : Descriptor := 4

/-- What an admission, a closing or the stop does at a time.  Connections go by serial number. -/
inductive Step where
  | register (opening : Opening)
  | activate (k : Nat)
  | notifyOpened (k : Nat)
  | countOpened
  | watch (k : Nat)
  | unwatch (k : Nat)
  | unregister (k : Nat)
  | beginClose (k : Nat)
  | shutdown (k : Nat)
  | markClosed (k : Nat)
  | notifyClosed (k : Nat)
  | countClosed
  /-- The last reference to the connection goes, and its descriptor with it.  A descriptor that was
  given back is not watched any more. -/
  | drop (k : Nat)
  | halt
  | closeListener
  | joinWorkers
  | drain (ids : List ConnectionId)
  deriving DecidableEq

namespace Server

/-- The connection with a serial number. -/
def connection? (s : Server) (k : Nat) : Option Connection :=
  s.connections[k]?

/-- Changes the connection with a serial number. -/
def updateConnection (s : Server) (k : Nat) (f : Connection → Connection) : Server :=
  { s with connections := s.connections.modify k f }

/-- What is watched besides the connection with a serial number. -/
def unwatched (s : Server) (k : Nat) : Watchlist :=
  match s.connection? k with
  | none => s.watchlist
  | some c => s.watchlist.delete c.descriptor

/-- Calls a hook, if there is one, on the connection with a serial number. -/
def notify (s : Server) (phase : HookPhase) (hook : Option Hook) (k : Nat) : Server :=
  match hook, s.connection? k with
  | some hook, some c =>
    { s.updateConnection k fun c => c.treated (hook c) with
      calls := s.calls ++ [⟨phase, c⟩] }
  | _, _ => s

/-- Collects the latencies and reports, if reports are wanted. -/
def report (s : Server) : Server :=
  let s := { s with latencies := s.latencies.collect }
  match s.config.statsInterval with
  | none => s
  | some _ =>
    let (latency, latencies) := s.latencies.takeSummary
    { s with latencies, reports := s.reports ++ [⟨s.counters, latency⟩] }

/-- One internal step. -/
def apply (s : Server) : Step → Server
  | .register o =>
    let (result, registry) := s.registry.register o
    match result with
    | .ok c => { s with registry, connections := s.connections.push c }
    | .error _ => { s with registry }
  | .activate k => s.updateConnection k fun c => c.activate.2
  | .notifyOpened k => s.notify .opened s.table.onConnect k
  | .countOpened => { s with counters := s.counters.connectionOpened }
  | .watch k =>
    match s.connection? k with
    | none => s
    | some c =>
      match s.watchlist.add ⟨c.descriptor, c.id.toToken, true⟩ with
      | .ok watchlist => { s with watchlist }
      | .error _ => s
  | .unwatch k => { s with watchlist := s.unwatched k }
  | .unregister k =>
    match s.connection? k with
    | none => s
    | some c => { s with registry := (s.registry.release c.id).2 }
  | .beginClose k => s.updateConnection k fun c => c.beginClose.2
  | .shutdown k => s.updateConnection k Connection.shutdown
  | .markClosed k => s.updateConnection k Connection.markClosed
  | .notifyClosed k => s.notify .closed s.table.onClose k
  | .countClosed => { s with counters := s.counters.connectionClosed }
  | .drop k =>
    { s.updateConnection k fun c => { c with stream := c.stream.drop } with
      watchlist := s.unwatched k }
  | .halt => { s with running := false, stopped := true }
  | .closeListener =>
    if s.listening then
      { s with listening := false, watchlist := s.watchlist.delete listenerDescriptor }
    else s
  | .joinWorkers => { if 0 < s.workers then s.report else s with workers := 0 }
  | .drain ids => { s with registry := (s.registry.releaseAll ids).2 }

/-- Steps one after the other. -/
def run (s : Server) (steps : List Step) : Server :=
  steps.foldl apply s

/-- The states before, between and after the steps. -/
def trace (s : Server) : List Step → List Server
  | [] => [s]
  | step :: steps => s :: (s.apply step).trace steps

end Server

end MessageServer
