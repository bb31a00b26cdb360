import MessageServer.Text.Hex

/-!
# Why bytes are no record

The causes for which a buffer, a header or a payload is refused, and their wording.
-/

namespace MessageServer

/-- Why a buffer holds no record, a record no known message, or a payload no body. -/
inductive RecordError where
  /-- Fewer bytes than a record has. -/
  | truncated (length : Nat)
  /-- The type code names no message type. -/
  | unknownType (code : UInt8)
  /-- The id or the timestamp is zero, or the payload length exceeds the payload. -/
  | invalidHeader
  /-- The payload is shorter than the body that is asked for. -/
  | bodyTooShort (expected actual : Nat)
  /-- The address does not allow the bytes to be used in place. -/
  | misaligned
  deriving DecidableEq, Repr

namespace RecordError

/-- The cause in words. -/
def message : RecordError → String
  | truncated length => s!"truncated record: {length} of 128 bytes"
  | unknownType code => s!"unknown message type 0x{Text.hexByte code}"
  | invalidHeader => "invalid message header"
  | bodyTooShort expected actual => s!"payload of {actual} bytes, body needs {expected}"
  | misaligned => "buffer is not aligned for a message"

end RecordError

end MessageServer
