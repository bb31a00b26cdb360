import MessageServer.Record.Body

/-!
# Stamping outbound records

A sender numbers its records: each gets the next message id and the next sequence number.  Message
ids count from 1 and skip 0 when they wrap; sequence numbers count from 1 and pass through 0.
-/

namespace MessageServer

/-- The last message id and the last sequence number that were given out. -/
structure Stamper where
  messageId : UInt64
  sequence : UInt32
  deriving DecidableEq

namespace Stamper

/-- Nothing was given out yet. -/
def new : Stamper := ⟨0, 0⟩

/-- The next sequence number. -/
def nextSequence (s : Stamper) : UInt32 × Stamper :=
  let n := s.sequence + 1
  (n, { s with sequence := n })

/-- The next message id, never 0. -/
def nextMessageId (s : Stamper) : UInt64 × Stamper :=
  let n := max (s.messageId + 1) 1
  (n, { s with messageId := n })

/-- Draws an id for `make`, then a sequence number for the record that it makes. -/
def stamp (s : Stamper) (make : UInt64 → Record) : Record × Stamper :=
  let (id, s) := s.nextMessageId
  let (n, s) := s.nextSequence
  let r := make id
  ({ r with header := { r.header with sequence := n } }, s)

def order (s : Stamper) (type : MessageType) (timestamp : UInt64) (o : Order) :
    Record × Stamper :=
  s.stamp fun id => Record.order id type timestamp o

def marketData (s : Stamper) (timestamp : UInt64) (d : MarketData) : Record × Stamper :=
  s.stamp fun id => Record.marketData id timestamp d

def heartbeat (s : Stamper) (timestamp : UInt64) : Record × Stamper :=
  s.stamp fun id => Record.envelope id .heartbeat timestamp

end Stamper

end MessageServer
