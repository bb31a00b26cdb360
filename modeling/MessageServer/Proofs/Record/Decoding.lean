import Mathlib.Logic.Basic
import MessageServer.Proofs.Record.Wire
import MessageServer.Record.Body

/-!
# What a record decodes to

Every 128 bytes are a record, and a record either decodes or is refused for one definite reason.
The payload length of a record is whatever 32-bit number came over the wire: it may claim less than
a body needs, or more than a payload has.

* `Record.Viewed` says what reading the payload as a body of so many bytes comes to.  `viewed` has
  it for every faithful layout that fits into the payload and is aligned there; the three bodies are
  cases of it.
* `Record.bytesRead` is the number of payload bytes that the body of a record depends on.
  `body_congr` says that nothing else but the type code and the payload length counts.
* `Record.Decodes` puts together the views, the body and the check of the header, each with the
  exact condition under which it succeeds and the error otherwise.
* `every_record_decodes` is the main statement.
-/

namespace MessageServer

open Bytes

/-- The codes of the message types; every other byte names none. -/
def MessageType.codes : List UInt8 :=
  [0x01, 0x02, 0x03, 0x04, 0x05, 0x06, 0x07, 0x08, 0x09, 0x10, 0x11, 0xff]

theorem MessageType.mem_codes_iff {code : UInt8} :
    code ∈ codes ↔ ∃ type : MessageType, type.code = code := by
  rw [show codes = all.map MessageType.code from rfl, List.mem_map]
  exact exists_congr fun type => and_iff_right type.mem_all

theorem MessageType.not_mem_codes_iff {code : UInt8} :
    code ∉ codes ↔ ∀ type : MessageType, type.code ≠ code := by
  rw [mem_codes_iff, not_exists]

namespace Record

variable {β : Type} {r r' : Record}

/-! ## Reading the payload as a body -/

/-- A view takes the payload for a body of `width` bytes.  The payload length alone decides whether
it succeeds, and its result depends on nothing but that length and these bytes. -/
structure Viewed (l : Layout β) (width : Nat) (view : Record → Except RecordError β)
    (r : Record) : Prop where
  ok_iff : (∃ body, view r = .ok body) ↔ width ≤ r.header.payloadLength.toNat
  encode_eq : ∀ body, view r = .ok body → l.encode body = r.payload.toList.take width
  error_eq : ∀ e, view r = .error e → e = .bodyTooShort width r.header.payloadLength.toNat
  congr : ∀ r' : Record, r'.header.payloadLength = r.header.payloadLength →
    (width ≤ r.header.payloadLength.toNat →
      r'.payload.toList.take width = r.payload.toList.take width) → view r' = view r

section View

variable {l : Layout β}

theorem view_of_lt (hshort : r.header.payloadLength.toNat < l.width) :
    r.view l = .error (.bodyTooShort l.width r.header.payloadLength.toNat) :=
  if_pos hshort

theorem view_of_le (haligned : headerSize % l.alignment = 0)
    (hlong : l.width ≤ r.header.payloadLength.toNat) :
    r.view l = .ok (l.decode r.payload.toList) := by
  rw [view, if_neg (Nat.not_lt.mpr hlong), if_neg (not_not_intro haligned)]

theorem view_congr (hl : l.Faithful) (hfits : l.width ≤ payloadSize)
    (haligned : headerSize % l.alignment = 0)
    (hlength : r'.header.payloadLength = r.header.payloadLength)
    (hbytes : l.width ≤ r.header.payloadLength.toNat →
      r'.payload.toList.take l.width = r.payload.toList.take l.width) : r'.view l = r.view l := by
  rcases Nat.lt_or_ge r.header.payloadLength.toNat l.width with hshort | hlong
  · have hshort' : r'.header.payloadLength.toNat < l.width := by rwa [hlength]
    rw [view_of_lt hshort, view_of_lt hshort', hlength]
  · have hlong' : l.width ≤ r'.header.payloadLength.toNat := by rwa [hlength]
    have hpayload (s : Record) : l.width ≤ s.payload.toList.length := by
      rw [Vector.length_toList]
      exact hfits
    calc
      r'.view l = .ok (l.decode (r'.payload.toList.take l.width)) := by
        rw [view_of_le haligned hlong', hl.decode_take (hpayload r')]
      _ = .ok (l.decode (r.payload.toList.take l.width)) := by rw [hbytes hlong]
      _ = r.view l := by rw [view_of_le haligned hlong, hl.decode_take (hpayload r)]

/-- Whatever the layout, as long as its bodies fit and lie right. -/
theorem viewed (hl : l.Faithful) (hfits : l.width ≤ payloadSize)
    (haligned : headerSize % l.alignment = 0) (r : Record) :
    Viewed l l.width (fun s => s.view l) r := by
  have hpayload : l.width ≤ r.payload.toList.length := by
    rw [Vector.length_toList]
    exact hfits
  constructor
  case congr => exact fun r' => view_congr hl hfits haligned
  all_goals rcases Nat.lt_or_ge r.header.payloadLength.toNat l.width with hshort | hlong
  case ok_iff.inl => simp [view_of_lt hshort, hshort]
  case ok_iff.inr => simp [view_of_le haligned hlong, hlong]
  case encode_eq.inl => simp [view_of_lt hshort]
  case encode_eq.inr =>
    intro body hbody
    rw [view_of_le haligned hlong, Except.ok.injEq] at hbody
    rw [← hbody, hl.encode_decode _ hpayload]
  case error_eq.inl =>
    intro e he
    rw [view_of_lt hshort, Except.error.injEq] at he
    exact he.symm
  case error_eq.inr => simp [view_of_le haligned hlong]

end View

theorem viewed_orderBody (r : Record) : Viewed Order.layout 56 orderBody r :=
  viewed Order.layout_faithful (by decide) (by decide) r

theorem viewed_marketDataBody (r : Record) : Viewed MarketData.layout 80 marketDataBody r :=
  viewed MarketData.layout_faithful (by decide) (by decide) r

theorem viewed_fillBody (r : Record) : Viewed Fill.layout 56 fillBody r :=
  viewed Fill.layout_faithful (by decide) (by decide) r

/-! ## Bodies -/

/-- How many bytes of the payload the body is made of.  A body that would be too short, and a
message of no known type, are refused without a look at the payload. -/
def bytesRead (code : UInt8) (length : Nat) : Nat :=
  match MessageType.ofCode? code with
  | some .newOrder | some .cancel | some .replace | some .fill => if 56 ≤ length then 56 else 0
  | some .marketData => if 80 ≤ length then 80 else 0
  | some _ => min length 88
  | none => 0

/-- The raw bytes end with the payload, however much the payload length claims. -/
theorem rawBody_eq (r : Record) :
    r.rawBody = r.payload.toList.take (min r.header.payloadLength.toNat 88) := by
  rw [rawBody, List.take_eq_take_min, Vector.length_toList]

section Body

variable {type : MessageType} {e : RecordError}

theorem body_of_unknown (h : ∀ type : MessageType, type.code ≠ r.header.typeCode) :
    r.body = .error (.unknownType r.header.typeCode) := by
  rw [body, messageType_eq_error_iff.mpr ⟨rfl, h⟩]

theorem body_of_order (hcode : type.code = r.header.typeCode) (horder : type.isOrder = true) :
    r.body = r.orderBody.map .order := by
  rw [body, messageType_eq_ok_iff.mpr hcode]
  cases type with
  | newOrder | cancel | replace => rfl
  | _ => cases horder

theorem body_of_marketData (hcode : MessageType.marketData.code = r.header.typeCode) :
    r.body = r.marketDataBody.map .marketData := by
  rw [body, messageType_eq_ok_iff.mpr hcode]

theorem body_of_fill (hcode : MessageType.fill.code = r.header.typeCode) :
    r.body = r.fillBody.map .fill := by
  rw [body, messageType_eq_ok_iff.mpr hcode]

/-- The types whose payload has no layout of its own. -/
theorem body_of_raw (hcode : type.code = r.header.typeCode) (horder : type.isOrder = false)
    (hdata : type ≠ .marketData) (hfill : type ≠ .fill) : r.body = .ok (.raw r.rawBody) := by
  rw [body, messageType_eq_ok_iff.mpr hcode]
  cases type with
  | newOrder | cancel | replace => cases horder
  | marketData => exact absurd rfl hdata
  | fill => exact absurd rfl hfill
  | _ => rfl

theorem Viewed.map_error_eq {l : Layout β} {width : Nat} {view : Record → Except RecordError β}
    (h : Viewed l width view r) {f : β → Body} (he : (view r).map f = .error e) :
    e = .bodyTooShort width r.header.payloadLength.toNat := by
  cases hview : view r with
  | ok body =>
      rw [hview] at he
      cases he
  | error other =>
      rw [hview] at he
      cases he
      exact h.error_eq _ hview

/-- A message of a known type is refused only because its body would be too short. -/
theorem body_error_of_known (hcode : type.code = r.header.typeCode) (he : r.body = .error e) :
    ∃ expected, e = .bodyTooShort expected r.header.payloadLength.toNat := by
  cases type with
  | newOrder | cancel | replace =>
      rw [body_of_order hcode rfl] at he
      exact ⟨56, (viewed_orderBody r).map_error_eq he⟩
  | marketData =>
      rw [body_of_marketData hcode] at he
      exact ⟨80, (viewed_marketDataBody r).map_error_eq he⟩
  | fill =>
      rw [body_of_fill hcode] at he
      exact ⟨56, (viewed_fillBody r).map_error_eq he⟩
  | _ =>
      rw [body_of_raw hcode rfl (by decide) (by decide)] at he
      cases he

theorem body_eq_unknown_iff {code : UInt8} :
    r.body = .error (.unknownType code) ↔
      code = r.header.typeCode ∧ code ∉ MessageType.codes := by
  constructor
  · intro he
    have hunknown : ∀ type : MessageType, type.code ≠ r.header.typeCode := by
      intro type hcode
      obtain ⟨expected, hshort⟩ := body_error_of_known hcode he
      cases hshort
    have hcode : code = r.header.typeCode := by
      rw [body_of_unknown hunknown] at he
      cases he
      rfl
    exact ⟨hcode, MessageType.not_mem_codes_iff.mpr (hcode ▸ hunknown)⟩
  · rintro ⟨rfl, hunknown⟩
    exact body_of_unknown (MessageType.not_mem_codes_iff.mp hunknown)

theorem body_ne_misaligned (r : Record) : r.body ≠ .error .misaligned := by
  intro he
  by_cases hknown : ∃ type : MessageType, type.code = r.header.typeCode
  · obtain ⟨type, hcode⟩ := hknown
    obtain ⟨expected, hshort⟩ := body_error_of_known hcode he
    cases hshort
  · rw [body_of_unknown (not_exists.mp hknown)] at he
    cases he

/-- Two records with one type code and one payload length have the same body if they agree on the
bytes that it is made of. -/
theorem body_congr (hcode : r'.header.typeCode = r.header.typeCode)
    (hlength : r'.header.payloadLength = r.header.payloadLength)
    (hbytes : r'.payload.toList.take (bytesRead r.header.typeCode r.header.payloadLength.toNat) =
      r.payload.toList.take (bytesRead r.header.typeCode r.header.payloadLength.toNat)) :
    r'.body = r.body := by
  cases htype : MessageType.ofCode? r.header.typeCode with
  | none =>
      have hunknown := MessageType.ofCode?_eq_none_iff.mp htype
      rw [body_of_unknown hunknown, body_of_unknown (hcode ▸ hunknown), hcode]
  | some type =>
      have hknown := MessageType.ofCode?_eq_some_iff.mp htype
      have hknown' := hknown.trans hcode.symm
      unfold bytesRead at hbytes
      rw [htype] at hbytes
      -- the cases of `bytesRead`; a view asks for its bytes only where it succeeds
      cases type with
      | newOrder | cancel | replace =>
          have hview := (viewed_orderBody r).congr r' hlength fun hlong => by
            rwa [if_pos hlong] at hbytes
          rw [body_of_order hknown rfl, body_of_order hknown' rfl, hview]
      | marketData =>
          have hview := (viewed_marketDataBody r).congr r' hlength fun hlong => by
            rwa [if_pos hlong] at hbytes
          rw [body_of_marketData hknown, body_of_marketData hknown', hview]
      | fill =>
          have hview := (viewed_fillBody r).congr r' hlength fun hlong => by
            rwa [if_pos hlong] at hbytes
          rw [body_of_fill hknown, body_of_fill hknown', hview]
      | _ =>
          rw [body_of_raw hknown rfl (by decide) (by decide),
            body_of_raw hknown' rfl (by decide) (by decide), rawBody_eq, rawBody_eq, hlength,
            hbytes]

end Body

/-! ## The check of the header -/

theorem validate_eq_unknown_iff {code : UInt8} :
    r.validate = .error (.unknownType code) ↔
      code = r.header.typeCode ∧ code ∉ MessageType.codes := by
  rw [validate_eq_error_iff, messageType_eq_error_iff, ← MessageType.not_mem_codes_iff,
    RecordError.unknownType.injEq]
  constructor
  · rintro (⟨rfl, hunknown⟩ | ⟨-, -, he⟩)
    · exact ⟨rfl, hunknown⟩
    · cases he
  · rintro ⟨rfl, hunknown⟩
    exact .inl ⟨rfl, hunknown⟩

theorem isValid_eq_false_iff :
    r.isValid = false ↔ r.header.messageId = 0 ∨ r.header.timestamp = 0 ∨
      88 < r.header.payloadLength.toNat := by
  rw [← Bool.not_eq_true, isValid_iff, not_and_or, not_and_or, not_not, not_not, Nat.not_le]
  rfl

theorem validate_eq_invalid_iff :
    r.validate = .error .invalidHeader ↔
      r.header.typeCode ∈ MessageType.codes ∧
        (r.header.messageId = 0 ∨ r.header.timestamp = 0 ∨
          88 < r.header.payloadLength.toNat) := by
  rw [validate_eq_error_iff, messageType_eq_error_iff, isValid_eq_false_iff,
    MessageType.mem_codes_iff]
  constructor
  · rintro (⟨he, -⟩ | ⟨⟨type, htype⟩, hinvalid, -⟩)
    · cases he
    · exact ⟨⟨type, messageType_eq_ok_iff.mp htype⟩, hinvalid⟩
  · rintro ⟨⟨type, hcode⟩, hinvalid⟩
    exact .inr ⟨⟨type, messageType_eq_ok_iff.mpr hcode⟩, hinvalid, rfl⟩

/-! ## Every record -/

/-- What the parts of a record decode to, and why they are refused otherwise.  The payload of a
message that is no order, market data or fill is the raw bytes that its length claims. -/
structure Decodes (r : Record) : Prop where
  order : Viewed Order.layout 56 orderBody r
  marketData : Viewed MarketData.layout 80 marketDataBody r
  fill : Viewed Fill.layout 56 fillBody r
  body_unknown : ∀ code, r.body = .error (.unknownType code) ↔
    code = r.header.typeCode ∧ code ∉ MessageType.codes
  body_order : ∀ type ∈ [MessageType.newOrder, .cancel, .replace],
    type.code = r.header.typeCode → r.body = r.orderBody.map .order
  body_marketData : MessageType.marketData.code = r.header.typeCode →
    r.body = r.marketDataBody.map .marketData
  body_fill : MessageType.fill.code = r.header.typeCode → r.body = r.fillBody.map .fill
  body_raw : ∀ type ∉ [MessageType.newOrder, .cancel, .replace, .marketData, .fill],
    type.code = r.header.typeCode →
      r.body = .ok (.raw (r.payload.toList.take (min r.header.payloadLength.toNat 88)))
  body_aligned : r.body ≠ .error .misaligned
  body_local : ∀ r' : Record, r'.header.typeCode = r.header.typeCode →
    r'.header.payloadLength = r.header.payloadLength →
      r'.payload.toList.take (bytesRead r.header.typeCode r.header.payloadLength.toNat) =
        r.payload.toList.take (bytesRead r.header.typeCode r.header.payloadLength.toNat) →
      r'.body = r.body
  validate_unknown : ∀ code, r.validate = .error (.unknownType code) ↔
    code = r.header.typeCode ∧ code ∉ MessageType.codes
  validate_invalid : r.validate = .error .invalidHeader ↔
    r.header.typeCode ∈ MessageType.codes ∧
      (r.header.messageId = 0 ∨ r.header.timestamp = 0 ∨ 88 < r.header.payloadLength.toNat)
  validate_ok : ∀ type, r.validate = .ok type ↔
    type.code = r.header.typeCode ∧ r.header.messageId ≠ 0 ∧ r.header.timestamp ≠ 0 ∧
      r.header.payloadLength.toNat ≤ 88
  validate_error : ∀ e, r.validate = .error e →
    e = .unknownType r.header.typeCode ∨ e = .invalidHeader

theorem decodes (r : Record) : r.Decodes where
  order := viewed_orderBody r
  marketData := viewed_marketDataBody r
  fill := viewed_fillBody r
  body_unknown _ := body_eq_unknown_iff
  body_order type htype hcode := by
    refine body_of_order hcode ?_
    simp only [List.mem_cons, List.not_mem_nil, or_false] at htype
    rcases htype with rfl | rfl | rfl <;> rfl
  body_marketData := body_of_marketData
  body_fill := body_of_fill
  body_raw type htype hcode := by
    rw [← rawBody_eq]
    simp only [List.mem_cons, List.not_mem_nil, or_false, not_or] at htype
    refine body_of_raw hcode ?_ htype.2.2.2.1 htype.2.2.2.2
    cases type with
    | newOrder | cancel | replace => simp at htype
    | _ => rfl
  body_aligned := body_ne_misaligned r
  body_local _ := body_congr
  validate_unknown _ := validate_eq_unknown_iff
  validate_invalid := validate_eq_invalid_iff
  validate_ok _ := by rw [validate_eq_ok_iff, isValid_iff, payloadSize]
  validate_error _ := validate_error_cases

/-- Every 128 bytes are those of a record, each field in its place, and every record decodes or is
refused for exactly the right reason. -/
theorem every_record_decodes :
    (∀ bytes : Vector UInt8 128, ∃ r, Record.read bytes.toList = .ok r ∧
      r.toBytes = bytes.toList ∧ r.LaidOut bytes.toList ∧ r.Decodes) ∧
    ∀ r : Record, r.Decodes := by
  refine ⟨fun bytes => ?_, decodes⟩
  have hlength : bytes.toList.length = size := Vector.length_toList
  obtain ⟨r, hread, hbytes⟩ := exists_read_of_le (Nat.le_of_eq hlength.symm)
  rw [List.take_of_length_le (Nat.le_of_eq hlength)] at hbytes
  exact ⟨r, hread, hbytes, hbytes ▸ laidOut_toBytes r, decodes r⟩

end Record

end MessageServer
