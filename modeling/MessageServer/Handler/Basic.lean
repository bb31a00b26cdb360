import MessageServer.Connection.Basic
import MessageServer.Handler.Event

/-!
# Handlers

A handler is given a record, the connection it came from and the time.  It decides on a reply, on
what is done to the connection, and on what is logged.  A hook is given a connection that is opened
or closed.

Either can change the standing of the connection, its state included, and shut its stream down.
Neither reads from the stream or writes to it.
-/

namespace MessageServer

/-- What a handler wants sent back. -/
inductive Reply where
  | ack (type : MessageType)
  | silent
  deriving DecidableEq, Repr

/-- What a handler decides about: a record, the connection it came from, and the time. -/
structure Request where
  record : Record
  connection : Connection
  now : UInt64

/-- What is done to a connection. -/
structure Treatment where
  standing : Standing
  /-- Whether the stream is shut down. -/
  shutsDown : Bool := false
  deriving DecidableEq, Repr

/-- The connection when that has been done to it. -/
def Connection.treated (c : Connection) (t : Treatment) : Connection :=
  { c with
    standing := t.standing
    stream := { c.stream with shutDown := c.stream.shutDown || t.shutsDown } }

/-- What a handler decides. -/
structure Decision extends Treatment where
  reply : Reply
  events : List DispatchEvent

abbrev Handler := Request → Decision

namespace Handler

/-- Logs an order and acknowledges it. -/
def order : Handler := fun q =>
  { reply := .ack .orderAck
    standing := q.connection.standing
    events :=
      match q.record.body with
      | .ok (.order o) => [.order q.connection.clientId q.record.header.messageId o]
      | _ => [.orderWithoutBody q.connection.clientId q.record.header.messageId] }

/-- Logs a market-data update and acknowledges it. -/
def marketData : Handler := fun q =>
  { reply := .ack .marketDataAck
    standing := q.connection.standing
    events :=
      match q.record.marketDataBody with
      | .ok d => [.marketData q.connection.clientId d]
      | .error _ => [] }

/-- Notes the time of the heartbeat and answers with one. -/
def heartbeat : Handler := fun q =>
  { reply := .ack .heartbeat
    standing := { q.connection.standing with heartbeat := q.now }
    events := [] }

/-- Gives a fixed reply and does nothing else. -/
def replying (reply : Reply) : Handler := fun q =>
  { reply, standing := q.connection.standing, events := [] }

/-- Withdraws the authentication and acknowledges the logout. -/
def logout : Handler := fun q =>
  { reply := .ack .logout
    standing := { q.connection.standing with authenticated := false }
    events := [] }

end Handler

/-- What is called when a connection is opened or closed. -/
abbrev Hook := Connection → Treatment

/-- Does nothing to the connection. -/
def Hook.idle : Hook := fun c => { standing := c.standing }

end MessageServer
