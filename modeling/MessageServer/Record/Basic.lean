import MessageServer.Bytes.Layout
import MessageServer.Record.Code
import MessageServer.Record.Error

/-!
# Records

Everything on the wire is a record of 128 bytes: a header of 40 bytes and a payload of 88.

* `Record.toBytes` and `Record.read` write and read a record; `Record.parse` reads it in place and
  therefore asks for an address that is a multiple of 64.
* `Record.validate` is what a receiver checks before it looks at anything else: the type code must
  be known, id and timestamp must not be zero, and the payload length must not exceed the payload.
* `Record.acknowledge` is the answer to a record.
-/

namespace MessageServer

open Bytes

/-- The first 40 bytes of a record. -/
structure Header where
  messageId : UInt64
  timestamp : UInt64
  sequence : UInt32
  typeCode : UInt8
  statusCode : UInt8
  padding : UInt8 × UInt8
  source : UInt32
  destination : UInt32
  payloadLength : UInt32
  reserved : UInt32
  deriving DecidableEq

namespace Header

/-- The header of which every byte is zero. -/
def zero : Header :=
  ⟨0, 0, 0, 0, 0, (0, 0), 0, 0, 0, 0⟩

/-- The fields follow each other without a gap. -/
def layout : Layout Header :=
  (Layout.u64.seq <| Layout.u64.seq <| Layout.u32.seq <| Layout.u8.seq <| Layout.u8.seq <|
    (Layout.u8.seq Layout.u8).seq <| Layout.u32.seq <| Layout.u32.seq <|
    Layout.u32.seq Layout.u32).via
    (fun (messageId, timestamp, sequence, typeCode, statusCode, padding, source, destination,
        payloadLength, reserved) =>
      { messageId, timestamp, sequence, typeCode, statusCode, padding, source, destination,
        payloadLength, reserved })
    (fun h => (h.messageId, h.timestamp, h.sequence, h.typeCode, h.statusCode, h.padding,
      h.source, h.destination, h.payloadLength, h.reserved))

theorem layout_faithful : layout.Faithful :=
  Layout.Faithful.via
    (.seq Layout.u64_faithful <| .seq Layout.u64_faithful <| .seq Layout.u32_faithful <|
      .seq Layout.u8_faithful <| .seq Layout.u8_faithful <|
      .seq (.seq Layout.u8_faithful Layout.u8_faithful) <| .seq Layout.u32_faithful <|
      .seq Layout.u32_faithful <| .seq Layout.u32_faithful Layout.u32_faithful)
    (fun _ => rfl) (fun _ => rfl)

theorem layout_width : layout.width = 40 := rfl

end Header

/-- A header and the payload behind it. -/
structure Record where
  header : Header
  payload : Vector UInt8 88
  deriving DecidableEq

namespace Record

/-- The number of bytes of a record. -/
def size : Nat := 128

/-- The number of bytes of its payload, which is also where a body begins to be too long. -/
def payloadSize : Nat := 88

/-- The offset of the payload. -/
def headerSize : Nat := 40

/-- A record used in place starts a cache line. -/
def alignment : Nat := 64

def layout : Layout Record :=
  (Header.layout.seq (Layout.block 88)).via
    (fun (header, payload) => { header, payload }) (fun r => (r.header, r.payload))

theorem layout_faithful : layout.Faithful :=
  Layout.Faithful.via (.seq Header.layout_faithful (Layout.block_faithful 88))
    (fun _ => rfl) (fun _ => rfl)

theorem layout_width : layout.width = 128 := rfl

/-! ## Bytes -/

/-- The 128 bytes of a record. -/
def toBytes (r : Record) : List UInt8 :=
  layout.encode r

/-- The record at the start of a buffer; what follows it is ignored. -/
def read (buffer : List UInt8) : Except RecordError Record :=
  if buffer.length < size then .error (.truncated buffer.length)
  else .ok (layout.decode buffer)

/-- The record at the start of a buffer that lies at `address`, used in place. -/
def parse (address : Nat) (buffer : List UInt8) : Except RecordError Record :=
  if buffer.length < size then .error (.truncated buffer.length)
  else if address % alignment ≠ 0 then .error .misaligned
  else .ok (layout.decode buffer)

/-! ## Making records -/

/-- The record of which every byte is zero. -/
def zero : Record :=
  ⟨Header.zero, Vector.replicate 88 0⟩

/-- A pending message without payload. -/
def envelope (messageId : UInt64) (type : MessageType) (timestamp : UInt64) : Record :=
  { zero with
    header := { Header.zero with
      messageId, timestamp, typeCode := type.code, statusCode := Status.pending.code } }

/-- The acknowledgment of `request`: its id and sequence, the ends exchanged, status processed,
no payload. -/
def acknowledge (request : Record) (type : MessageType) (timestamp : UInt64) : Record :=
  { zero with
    header := { Header.zero with
      messageId := request.header.messageId
      timestamp
      sequence := request.header.sequence
      typeCode := type.code
      statusCode := Status.processed.code
      source := request.header.destination
      destination := request.header.source } }

/-! ## Checking records -/

/-- The message type, if the code is known. -/
def messageType (r : Record) : Except RecordError MessageType :=
  match MessageType.ofCode? r.header.typeCode with
  | some type => .ok type
  | none => .error (.unknownType r.header.typeCode)

/-- The status, if the code is known. -/
def status? (r : Record) : Option Status :=
  Status.ofCode? r.header.statusCode

/-- Id and timestamp are not zero, and the payload length does not exceed the payload. -/
def isValid (r : Record) : Bool :=
  r.header.messageId != 0 && r.header.timestamp != 0 &&
    decide (r.header.payloadLength.toNat ≤ payloadSize)

/-- The message type of a record with a valid header.  An unknown type is reported before any
other fault. -/
def validate (r : Record) : Except RecordError MessageType :=
  match r.messageType with
  | .error e => .error e
  | .ok type => if r.isValid then .ok type else .error .invalidHeader

variable {r : Record} {type : MessageType} {e : RecordError}

theorem messageType_eq_ok_iff : r.messageType = .ok type ↔ type.code = r.header.typeCode := by
  rw [← MessageType.ofCode?_eq_some_iff, messageType]
  cases MessageType.ofCode? r.header.typeCode <;> simp

theorem messageType_eq_error_iff :
    r.messageType = .error e ↔
      e = .unknownType r.header.typeCode ∧ ∀ t : MessageType, t.code ≠ r.header.typeCode := by
  rw [← MessageType.ofCode?_eq_none_iff, messageType]
  cases MessageType.ofCode? r.header.typeCode <;> simp [eq_comm]

theorem isValid_iff :
    r.isValid = true ↔ r.header.messageId ≠ 0 ∧ r.header.timestamp ≠ 0 ∧
      r.header.payloadLength.toNat ≤ payloadSize := by
  rw [isValid, Bool.and_eq_true, Bool.and_eq_true, bne_iff_ne, bne_iff_ne, decide_eq_true_iff,
    and_assoc]

theorem validate_eq_ok_iff :
    r.validate = .ok type ↔ type.code = r.header.typeCode ∧ r.isValid = true := by
  rw [← messageType_eq_ok_iff, validate]
  cases r.messageType with
  | error other => simp
  | ok other => cases r.isValid <;> simp

/-- A check fails for one of two reasons. -/
theorem validate_eq_error_iff :
    r.validate = .error e ↔
      r.messageType = .error e ∨
        (∃ type, r.messageType = .ok type) ∧ r.isValid = false ∧ e = .invalidHeader := by
  rw [validate]
  cases r.messageType with
  | error other => simp
  | ok other => cases r.isValid <;> simp [eq_comm]

theorem validate_error_cases (he : r.validate = .error e) :
    e = .unknownType r.header.typeCode ∨ e = .invalidHeader := by
  rcases validate_eq_error_iff.mp he with htype | ⟨-, -, rfl⟩
  · exact .inl (messageType_eq_error_iff.mp htype).1
  · exact .inr rfl

end Record

end MessageServer
