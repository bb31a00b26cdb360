import MessageServer.Record.Basic

/-!
# Records on the wire

A record and its 128 bytes determine each other, and every field of it has its fixed place among
the bytes.

* `Layout.LiesAt` says that the bytes of a value begin at an offset.  `Layout.LiesAt.seq` follows
  the structure of a layout: what lies in memory as one value after the other puts the second one
  behind the width of the first.  The offsets of a header come out of it by addition.
* `Record.LaidOut` is the table of offsets, in terms of single bytes: it names no layout.
* `record_wire` is the main statement: writing and reading undo each other in both directions, a
  buffer that is too short is refused with its length, reading in place differs from reading a
  copy in the address only, and the bytes are those of the table.
-/

namespace MessageServer

open Bytes

/-! ## Where a value lies -/

namespace Bytes

/-- The `width` bytes from `offset` on are those of `value`, the least significant one first. -/
def HoldsNumber (bytes : List UInt8) (offset width value : Nat) : Prop :=
  ∀ i < width, bytes[offset + i]? = some (UInt8.ofNat (value >>> (8 * i)))

namespace Layout

variable {α β : Type}

/-- The bytes of `a` begin at `offset`. -/
def LiesAt (l : Layout α) (bytes : List UInt8) (offset : Nat) (a : α) : Prop :=
  ∃ before after, bytes = before ++ l.encode a ++ after ∧ before.length = offset

theorem LiesAt.seq {l : Layout α} {m : Layout β} (hl : l.Faithful) {bytes : List UInt8}
    {offset : Nat} {p : α × β} (h : (l.seq m).LiesAt bytes offset p) :
    l.LiesAt bytes offset p.1 ∧ m.LiesAt bytes (offset + l.width) p.2 := by
  obtain ⟨before, after, hbytes, hoffset⟩ := h
  refine ⟨⟨before, m.encode p.2 ++ after, ?_, hoffset⟩,
    ⟨before ++ l.encode p.1, after, ?_, ?_⟩⟩
  · simp [hbytes, Layout.seq]
  · simp [hbytes, Layout.seq]
  · rw [List.length_append, hoffset, hl.length_encode]

theorem LiesAt.via {l : Layout α} {into : α → β} {out : β → α} {bytes : List UInt8}
    {offset : Nat} {b : β} (h : (l.via into out).LiesAt bytes offset b) :
    l.LiesAt bytes offset (out b) :=
  h

theorem LiesAt.getElem? {l : Layout α} {bytes : List UInt8} {offset : Nat} {a : α}
    (h : l.LiesAt bytes offset a) {i : Nat} (hi : i < (l.encode a).length) :
    bytes[offset + i]? = (l.encode a)[i]? := by
  obtain ⟨before, after, rfl, rfl⟩ := h
  rw [List.append_assoc, List.getElem?_append_right (Nat.le_add_right _ _),
    Nat.add_sub_cancel_left, List.getElem?_append_left hi]

theorem LiesAt.u8 {bytes : List UInt8} {offset : Nat} {b : UInt8}
    (h : Layout.u8.LiesAt bytes offset b) : bytes[offset]? = some b :=
  h.getElem? (i := 0) Nat.one_pos

theorem LiesAt.u32 {bytes : List UInt8} {offset : Nat} {w : UInt32}
    (h : Layout.u32.LiesAt bytes offset w) : HoldsNumber bytes offset 4 w.toNat := by
  intro i hi
  rw [h.getElem? (by simpa [Layout.u32] using hi)]
  exact getElem?_littleEndian _ hi

theorem LiesAt.u64 {bytes : List UInt8} {offset : Nat} {w : UInt64}
    (h : Layout.u64.LiesAt bytes offset w) : HoldsNumber bytes offset 8 w.toNat := by
  intro i hi
  rw [h.getElem? (by simpa [Layout.u64] using hi)]
  exact getElem?_littleEndian _ hi

end Layout

end Bytes

namespace Record

/-- The offset of every field: `bytes` are the bytes of `r`. -/
structure LaidOut (r : Record) (bytes : List UInt8) : Prop where
  messageId : HoldsNumber bytes 0 8 r.header.messageId.toNat
  timestamp : HoldsNumber bytes 8 8 r.header.timestamp.toNat
  sequence : HoldsNumber bytes 16 4 r.header.sequence.toNat
  typeCode : bytes[20]? = some r.header.typeCode
  statusCode : bytes[21]? = some r.header.statusCode
  padding : bytes[22]? = some r.header.padding.1 ∧ bytes[23]? = some r.header.padding.2
  source : HoldsNumber bytes 24 4 r.header.source.toNat
  destination : HoldsNumber bytes 28 4 r.header.destination.toNat
  payloadLength : HoldsNumber bytes 32 4 r.header.payloadLength.toNat
  reserved : HoldsNumber bytes 36 4 r.header.reserved.toNat
  payload : bytes.drop 40 = r.payload.toList

theorem toBytes_eq (r : Record) : r.toBytes = Header.layout.encode r.header ++ r.payload.toList :=
  rfl

theorem length_toBytes (r : Record) : r.toBytes.length = size :=
  layout_faithful.length_encode r

theorem laidOut_toBytes (r : Record) : r.LaidOut r.toBytes := by
  have hheader : Header.layout.LiesAt r.toBytes 0 r.header :=
    ⟨[], r.payload.toList, toBytes_eq r, rfl⟩
  -- one field is split off after the other; `hrest` is what lies behind the fields named so far
  obtain ⟨messageId, hrest⟩ := hheader.via.seq Layout.u64_faithful
  obtain ⟨timestamp, hrest⟩ := hrest.seq Layout.u64_faithful
  obtain ⟨sequence, hrest⟩ := hrest.seq Layout.u32_faithful
  obtain ⟨typeCode, hrest⟩ := hrest.seq Layout.u8_faithful
  obtain ⟨statusCode, hrest⟩ := hrest.seq Layout.u8_faithful
  obtain ⟨padding, hrest⟩ := hrest.seq (Layout.u8_faithful.seq Layout.u8_faithful)
  obtain ⟨padding₀, padding₁⟩ := padding.seq Layout.u8_faithful
  obtain ⟨source, hrest⟩ := hrest.seq Layout.u32_faithful
  obtain ⟨destination, hrest⟩ := hrest.seq Layout.u32_faithful
  obtain ⟨payloadLength, reserved⟩ := hrest.seq Layout.u32_faithful
  exact
    { messageId := messageId.u64
      timestamp := timestamp.u64
      sequence := sequence.u32
      typeCode := typeCode.u8
      statusCode := statusCode.u8
      padding := ⟨padding₀.u8, padding₁.u8⟩
      source := source.u32
      destination := destination.u32
      payloadLength := payloadLength.u32
      reserved := reserved.u32
      payload := by
        rw [toBytes_eq]
        exact List.drop_left' (Header.layout_faithful.length_encode r.header) }

/-! ## Reading -/

theorem read_of_lt {buffer : List UInt8} (h : buffer.length < size) :
    read buffer = .error (.truncated buffer.length) :=
  if_pos h

theorem read_of_le {buffer : List UInt8} (h : size ≤ buffer.length) :
    read buffer = .ok (layout.decode buffer) :=
  if_neg (Nat.not_lt.mpr h)

theorem parse_of_lt {address : Nat} {buffer : List UInt8} (h : buffer.length < size) :
    parse address buffer = .error (.truncated buffer.length) :=
  if_pos h

theorem parse_of_misaligned {address : Nat} {buffer : List UInt8} (h : size ≤ buffer.length)
    (haddress : address % alignment ≠ 0) : parse address buffer = .error .misaligned := by
  rw [parse, if_neg (Nat.not_lt.mpr h), if_pos haddress]

/-- At a proper address it makes no difference whether a record is used in place. -/
theorem parse_eq_read {address : Nat} {buffer : List UInt8} (h : size ≤ buffer.length)
    (haddress : address % alignment = 0) : parse address buffer = read buffer := by
  rw [parse, if_neg (Nat.not_lt.mpr h), if_neg (not_not_intro haddress), read_of_le h]

/-- Reading undoes writing, whatever follows the record. -/
theorem read_toBytes_append (r : Record) (rest : List UInt8) :
    read (r.toBytes ++ rest) = .ok r := by
  have hlong : size ≤ (r.toBytes ++ rest).length := by
    rw [List.length_append, length_toBytes]
    exact Nat.le_add_right _ _
  rw [read_of_le hlong, toBytes, layout_faithful.decode_encode]

/-- Writing undoes reading, up to what follows the record. -/
theorem exists_read_of_le {buffer : List UInt8} (h : size ≤ buffer.length) :
    ∃ r, read buffer = .ok r ∧ r.toBytes = buffer.take size :=
  ⟨layout.decode buffer, read_of_le h, layout_faithful.encode_decode buffer h⟩

/-! ## Both directions -/

/-- Every record has its 128 bytes, and 128 bytes are those of one record. -/
theorem record_wire :
    (∀ (r : Record) (rest : List UInt8), r.toBytes.length = 128 ∧ r.LaidOut r.toBytes ∧
      Record.read (r.toBytes ++ rest) = .ok r) ∧
    (∀ buffer : List UInt8,
      (128 ≤ buffer.length →
        ∃ r, Record.read buffer = .ok r ∧ r.toBytes = buffer.take 128) ∧
      (buffer.length < 128 → Record.read buffer = .error (.truncated buffer.length))) ∧
    ∀ (address : Nat) (buffer : List UInt8),
      (buffer.length < 128 →
        Record.parse address buffer = .error (.truncated buffer.length)) ∧
      (128 ≤ buffer.length → address % 64 ≠ 0 →
        Record.parse address buffer = .error .misaligned) ∧
      (128 ≤ buffer.length → address % 64 = 0 →
        Record.parse address buffer = Record.read buffer) := by
  refine ⟨fun r rest => ⟨length_toBytes r, laidOut_toBytes r, read_toBytes_append r rest⟩,
    fun buffer => ⟨exists_read_of_le, read_of_lt⟩, fun address buffer => ⟨?_, ?_, ?_⟩⟩
  · exact parse_of_lt
  · exact parse_of_misaligned
  · exact parse_eq_read

end Record

end MessageServer
