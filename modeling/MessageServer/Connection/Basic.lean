import MessageServer.Address.Ip
import MessageServer.Connection.Id
import MessageServer.Connection.Stream
import MessageServer.Record.Basic

/-!
# Connections

An admitted client.  Its `Ticket` says which connection it is and never changes: the id, the number
of connections registered before it, and the descriptor of its socket.  Its `Standing` is what
changes while it is served.  Its `Stream` is the socket.

A connection goes from accepted to active, from either to closing, and to closed; `beginClose`
succeeds at most once.
-/

namespace MessageServer

/-- A socket's number in the process. -/
abbrev Descriptor := Int

/-- Which connection it is. -/
structure Ticket where
  id : ConnectionId
  /-- How many connections were registered before it. -/
  serial : Nat
  descriptor : Descriptor
  deriving DecidableEq, Repr

/-- The number a client is known by in logs: connections count from 1, modulo the word size. -/
def Ticket.clientId (t : Ticket) : UInt64 :=
  UInt64.ofNat (t.serial + 1)

/-- The life of a connection.  Only active connections are served. -/
inductive Lifecycle where
  | accepted | active | closing | closed
  deriving DecidableEq, Repr

namespace Lifecycle

def name : Lifecycle → String
  | accepted => "Accepted"
  | active => "Active"
  | closing => "Closing"
  | closed => "Closed"

/-- Whether the connection is not yet on its way out. -/
def isOpen : Lifecycle → Bool
  | accepted | active => true
  | closing | closed => false

end Lifecycle

/-- What changes while a connection is served. -/
structure Standing where
  state : Lifecycle
  /-- The time of the last heartbeat, or of the acceptance. -/
  heartbeat : UInt64
  authenticated : Bool
  deriving DecidableEq, Repr

/-- An admitted client. -/
structure Connection extends Ticket where
  peer : SocketAddress
  standing : Standing
  stream : Stream
  deriving DecidableEq

namespace Connection

def clientId (c : Connection) : UInt64 :=
  c.toTicket.clientId

def state (c : Connection) : Lifecycle :=
  c.standing.state

def isActive (c : Connection) : Bool :=
  c.state == .active

/-- The same connection in another state. -/
def withState (c : Connection) (state : Lifecycle) : Connection :=
  { c with standing := { c.standing with state } }

/-- From accepted to active, and from nowhere else. -/
def activate (c : Connection) : Bool × Connection :=
  match c.state with
  | .accepted => (true, c.withState .active)
  | _ => (false, c)

/-- From accepted or active to closing; answers whether this call was the one. -/
def beginClose (c : Connection) : Bool × Connection :=
  if c.state.isOpen then (true, c.withState .closing) else (false, c)

def markClosed (c : Connection) : Connection :=
  c.withState .closed

def touch (c : Connection) (now : UInt64) : Connection :=
  { c with standing := { c.standing with heartbeat := now } }

def setAuthenticated (c : Connection) (authenticated : Bool) : Connection :=
  { c with standing := { c.standing with authenticated } }

def shutdown (c : Connection) : Connection :=
  { c with stream := c.stream.shutdown }

def read (c : Connection) (size : Nat) : Except IoError (List UInt8) × Connection :=
  let (got, stream) := c.stream.read size
  (got, { c with stream })

/-- Writes a record with a single write; a write that takes only a part of it is an error. -/
def send (c : Connection) (r : Record) : Except IoError Unit × Connection :=
  let (result, stream) := c.stream.write r.toBytes
  let c := { c with stream }
  match result with
  | .error e => (.error e, c)
  | .ok written =>
    if written = Record.size then (.ok (), c) else (.error (.partialWrite written), c)

/-- The connection in a log, with the given text for its descriptor. -/
def describeWith (descriptor : String) (c : Connection) : String :=
  let id := s!"ConnectionId \x7b index: {c.id.index}, generation: {c.id.generation} \x7d"
  s!"Connection \x7b id: {id}, client_id: {c.clientId}, peer_addr: {c.peer.text}, " ++
    s!"fd: {descriptor}, state: {c.state.name} \x7d"

def describe (c : Connection) : String :=
  c.describeWith (toString c.descriptor)

end Connection

end MessageServer
