import MessageServer.Proofs.Record.Decoding

/-!
# Bodies on the wire

A record that is made of a body is read back with this body, whatever the raw fields of the body
are.

* The lemmas on `Record.withBody` speak of any faithful layout that fits into the payload.  A view
  of the same layout finds the body because the payload begins with the bytes of the body, and the
  zeros behind them are what decoding ignores.
* `Record.Carries` lists the records that are made of an order, of market data or of a fill.
* `body_survives_wire` is the main statement.  It also says what such a record looks like to a
  receiver that checks it, and that the body can be told from the record.
-/

namespace MessageServer

open Bytes

namespace Record

/-! ## A body in a payload -/

section WithBody

variable {β : Type} {l : Layout β} (messageId : UInt64) (type : MessageType) (timestamp : UInt64)
  (body : β)

/-- The payload has the bytes of the body, and zeros behind them. -/
theorem toList_payload_withBody (hl : l.Faithful) (hfits : l.width ≤ payloadSize) :
    (withBody l messageId type timestamp body).payload.toList =
      l.encode body ++ List.replicate (payloadSize - l.width) 0 := by
  have hlength := hl.length_encode body
  have hsize : payloadSize = 88 := rfl
  apply List.ext_getElem?
  intro i
  rcases Nat.lt_or_ge i 88 with hi | hi
  · rw [Vector.getElem?_toList, Vector.getElem?_eq_getElem hi]
    simp only [withBody, Vector.getElem_ofFn, List.getD_eq_getElem?_getD]
    rcases Nat.lt_or_ge i l.width with hbody | hrest
    · rw [List.getElem?_append_left (by omega), List.getElem?_eq_getElem (by omega),
        Option.getD_some]
    · rw [List.getElem?_append_right (by omega), List.getElem?_eq_none (by omega),
        List.getElem?_replicate, if_pos (by omega), Option.getD_none]
  · rw [List.getElem?_eq_none (by simpa using hi),
      List.getElem?_eq_none (by simp only [List.length_append, List.length_replicate]; omega)]

theorem getElem_payload_withBody (hl : l.Faithful) {i : Nat} (hi : i < 88)
    (hbehind : l.width ≤ i) : (withBody l messageId type timestamp body).payload[i] = 0 := by
  have hnone : (l.encode body)[i]? = none :=
    List.getElem?_eq_none (by rw [hl.length_encode]; exact hbehind)
  simp [withBody, hnone]

theorem payloadLength_withBody (hfits : l.width ≤ payloadSize) :
    (withBody l messageId type timestamp body).header.payloadLength.toNat = l.width :=
  UInt32.toNat_ofNat_of_lt' (Nat.lt_of_le_of_lt hfits (by decide))

/-- A body is found again by a view of its own layout. -/
theorem view_withBody (hl : l.Faithful) (hfits : l.width ≤ payloadSize)
    (haligned : headerSize % l.alignment = 0) :
    (withBody l messageId type timestamp body).view l = .ok body := by
  have hlong : l.width ≤ (withBody l messageId type timestamp body).header.payloadLength.toNat :=
    Nat.le_of_eq (payloadLength_withBody _ _ _ _ hfits).symm
  rw [view_of_le haligned hlong, toList_payload_withBody _ _ _ _ hl hfits, hl.decode_encode]

theorem messageType_withBody :
    (withBody l messageId type timestamp body).messageType = .ok type := by
  simp [messageType, withBody, envelope]

theorem status?_withBody :
    (withBody l messageId type timestamp body).status? = some .pending :=
  rfl

/-- Of what a receiver checks, only the id and the timestamp can be wrong. -/
theorem validate_withBody (hfits : l.width ≤ payloadSize) :
    (withBody l messageId type timestamp body).validate =
      if messageId ≠ 0 ∧ timestamp ≠ 0 then .ok type else .error .invalidHeader := by
  have hvalid : (withBody l messageId type timestamp body).isValid = true ↔
      messageId ≠ 0 ∧ timestamp ≠ 0 := by
    rw [isValid_iff, payloadLength_withBody _ _ _ _ hfits]
    exact and_congr_right fun _ => and_iff_left hfits
  simp only [validate, messageType_withBody, hvalid]

end WithBody

/-! ## Records that are made of a body -/

/-- The record is made of the body, has the type, and gives the body so many bytes. -/
inductive Carries (messageId timestamp : UInt64) :
    Record → MessageType → (width : Nat) → Body → Prop where
  | order {type : MessageType} (entry : type.isOrder = true) (o : Order) :
      Carries messageId timestamp (Record.order messageId type timestamp o) type 56 (.order o)
  | marketData (d : MarketData) :
      Carries messageId timestamp (Record.marketData messageId timestamp d) .marketData 80
        (.marketData d)
  | fill (f : Fill) :
      Carries messageId timestamp (Record.fill messageId timestamp f) .fill 56 (.fill f)

theorem orderBody_order (messageId : UInt64) (type : MessageType) (timestamp : UInt64) (o : Order) :
    (Record.order messageId type timestamp o).orderBody = .ok o :=
  view_withBody _ _ _ _ Order.layout_faithful (by decide) (by decide)

namespace Carries

variable {messageId timestamp : UInt64} {r : Record} {type : MessageType} {width : Nat}
  {body : Body}

/-- The body of the record is the one it is made of. -/
theorem body_eq (h : Carries messageId timestamp r type width body) : r.body = .ok body := by
  cases h with
  | order entry o =>
      have hview := orderBody_order messageId type timestamp o
      rw [body_of_order rfl entry, hview]
      rfl
  | marketData d =>
      have hview : (Record.marketData messageId timestamp d).marketDataBody = .ok d :=
        view_withBody _ _ _ _ MarketData.layout_faithful (by decide) (by decide)
      rw [body_of_marketData rfl, hview]
      rfl
  | fill f =>
      have hview : (Record.fill messageId timestamp f).fillBody = .ok f :=
        view_withBody _ _ _ _ Fill.layout_faithful (by decide) (by decide)
      rw [body_of_fill rfl, hview]
      rfl

/-- Whatever the body, the record is one of `withBody` with a layout that fits. -/
theorem exists_withBody (h : Carries messageId timestamp r type width body) :
    ∃ (β : Type) (l : Layout β) (b : β), l.Faithful ∧ l.width = width ∧ l.width ≤ payloadSize ∧
      r = withBody l messageId type timestamp b := by
  cases h with
  | order entry o => exact ⟨_, _, o, Order.layout_faithful, rfl, by decide, rfl⟩
  | marketData d => exact ⟨_, _, d, MarketData.layout_faithful, rfl, by decide, rfl⟩
  | fill f => exact ⟨_, _, f, Fill.layout_faithful, rfl, by decide, rfl⟩

end Carries

/-- A record that is made of a body comes through the wire with this body, its length and its
status; behind the body there are zeros only.  A receiver takes it unless its id or its timestamp is
zero.  Different bodies make different records. -/
theorem body_survives_wire :
    (∀ (messageId timestamp : UInt64) (r : Record) (type : MessageType) (width : Nat) (body : Body),
      Carries messageId timestamp r type width body → ∀ rest : List UInt8,
        ∃ got : Record, Record.read (r.toBytes ++ rest) = .ok got ∧ got.body = .ok body ∧
          got.header.payloadLength.toNat = width ∧
          (∀ (i : Nat) (hi : i < 88), width ≤ i → got.payload[i] = 0) ∧
          got.status? = some .pending ∧
          got.validate =
            if messageId ≠ 0 ∧ timestamp ≠ 0 then .ok type else .error .invalidHeader) ∧
    ∀ (messageId messageId' timestamp timestamp' : UInt64) (r r' : Record)
      (type type' : MessageType) (width width' : Nat) (body body' : Body),
      Carries messageId timestamp r type width body →
        Carries messageId' timestamp' r' type' width' body' → body ≠ body' → r ≠ r' := by
  constructor
  · intro messageId timestamp r type width body h rest
    refine ⟨r, read_toBytes_append r rest, h.body_eq, ?_⟩
    obtain ⟨β, l, b, hl, rfl, hfits, rfl⟩ := h.exists_withBody
    refine ⟨payloadLength_withBody _ _ _ _ hfits, fun i hi hbehind => ?_, status?_withBody _ _ _ _,
      validate_withBody _ _ _ _ hfits⟩
    exact getElem_payload_withBody _ _ _ _ hl hi hbehind
  · intro messageId messageId' timestamp timestamp' r r' type type' width width' body body' h h' hne
    rintro rfl
    -- the body is a function of the record
    have hsame := h.body_eq.symm.trans h'.body_eq
    exact hne (Except.ok.inj hsame)

end Record

end MessageServer
