import MessageServer.Log
import MessageServer.Record.Body
import MessageServer.SystemError

/-!
# Events of a dispatch

What happens while a record is dispatched is reported as a cause, `DispatchEvent`;
`DispatchEvent.entry` puts it into words.
-/

namespace MessageServer

/-- What a dispatch reports to the log. -/
inductive DispatchEvent where
  | unknownType (clientId : UInt64) (code : UInt8)
  | invalidHeader (clientId messageId : UInt64) (type : MessageType)
  | noHandler (clientId : UInt64) (type : MessageType)
  | order (clientId messageId : UInt64) (order : Order)
  | orderWithoutBody (clientId messageId : UInt64)
  | marketData (clientId : UInt64) (data : MarketData)
  | sendPoolExhausted (clientId : UInt64)
  | ackFailed (clientId : UInt64) (slot : Nat) (error : IoError)
  | ackSent (clientId : UInt64) (slot : Nat)
  deriving DecidableEq

namespace DispatchEvent

/-- The side of an order, if its code is one. -/
def sideText : Option Side → String
  | none => "None"
  | some side => s!"Some({side.name})"

/-- The event in words. -/
def entry : DispatchEvent → LogEntry
  | unknownType clientId code =>
    ⟨.warn, "unknown message type, dropping",
      [("client_id", toString clientId), ("tag", toString code)]⟩
  | invalidHeader clientId messageId type =>
    ⟨.warn, "invalid header, dropping",
      [("client_id", toString clientId), ("message_id", toString messageId),
        ("msg_type", type.name)]⟩
  | noHandler clientId type =>
    ⟨.debug, "no handler, dropping", [("client_id", toString clientId), ("msg_type", type.name)]⟩
  | order clientId messageId o =>
    ⟨.debug, "order",
      [("client_id", toString clientId), ("message_id", toString messageId),
        ("symbol", o.symbol.text), ("side", sideText o.side?), ("quantity", toString o.quantity),
        ("price", toString o.price)]⟩
  | orderWithoutBody clientId messageId =>
    ⟨.debug, "order without body",
      [("client_id", toString clientId), ("message_id", toString messageId)]⟩
  | marketData clientId d =>
    ⟨.trace, "market data",
      [("client_id", toString clientId), ("symbol", d.symbol.text), ("bid", toString d.bidPrice),
        ("ask", toString d.askPrice)]⟩
  | sendPoolExhausted clientId =>
    ⟨.warn, "send pool exhausted, ack dropped", [("client_id", toString clientId)]⟩
  | ackFailed clientId slot e =>
    ⟨.debug, "ack send failed",
      [("client_id", toString clientId), ("slot", toString slot), ("error", e.message)]⟩
  | ackSent clientId slot =>
    ⟨.trace, "ack sent", [("client_id", toString clientId), ("slot", toString slot)]⟩

end DispatchEvent

end MessageServer
