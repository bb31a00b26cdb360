import MessageServer.Record.Basic
import MessageServer.Symbol

/-!
# Bodies

The payload of a record starts with its body: an order, a market-data update or a fill, each with
a fixed layout.  `Record.view` reads the payload as a body of a given layout, whatever the type of
the record; `Record.body` picks the layout by the type.  A payload of any other type is raw bytes.

A body is used in place.  It lies 40 bytes behind the start of an aligned record, so that every
layout used here is aligned there.
-/

namespace MessageServer

open Bytes

/-! ## Orders -/

/-- An order as it is sent: codes that name nothing are kept as they are. -/
structure Order where
  symbol : Symbol
  orderId : UInt64
  clientOrderId : UInt64
  price : UInt64
  stopPrice : UInt64
  quantity : UInt32
  sideCode : UInt8
  typeCode : UInt8
  timeInForceCode : UInt8
  padding : UInt8
  deriving DecidableEq

namespace Order

def layout : Layout Order :=
  (Symbol.layout.seq <| Layout.u64.seq <| Layout.u64.seq <| Layout.u64.seq <| Layout.u64.seq <|
    Layout.u32.seq <| Layout.u8.seq <| Layout.u8.seq <| Layout.u8.seq Layout.u8).via
    (fun (symbol, orderId, clientOrderId, price, stopPrice, quantity, sideCode, typeCode,
        timeInForceCode, padding) =>
      { symbol, orderId, clientOrderId, price, stopPrice, quantity, sideCode, typeCode,
        timeInForceCode, padding })
    (fun o => (o.symbol, o.orderId, o.clientOrderId, o.price, o.stopPrice, o.quantity,
      o.sideCode, o.typeCode, o.timeInForceCode, o.padding))

theorem layout_faithful : layout.Faithful :=
  Layout.Faithful.via
    (.seq Symbol.layout_faithful <| .seq Layout.u64_faithful <| .seq Layout.u64_faithful <|
      .seq Layout.u64_faithful <| .seq Layout.u64_faithful <| .seq Layout.u32_faithful <|
      .seq Layout.u8_faithful <| .seq Layout.u8_faithful <|
      .seq Layout.u8_faithful Layout.u8_faithful)
    (fun _ => rfl) (fun _ => rfl)

theorem layout_width : layout.width = 56 := rfl

/-- The order of which every byte is zero. -/
def zero : Order :=
  ⟨Symbol.blank, 0, 0, 0, 0, 0, 0, 0, 0, 0⟩

/-- A limit order for the day, without a stop price. -/
def limit (symbol : String) (side : Side) (orderId : UInt64) (quantity : UInt32)
    (price : UInt64) : Order :=
  { zero with
    symbol := Symbol.ofText symbol
    orderId, price, quantity
    sideCode := side.code
    typeCode := OrderType.limit.code
    timeInForceCode := TimeInForce.day.code }

def side? (o : Order) : Option Side :=
  Side.ofCode? o.sideCode

def type? (o : Order) : Option OrderType :=
  OrderType.ofCode? o.typeCode

def timeInForce? (o : Order) : Option TimeInForce :=
  TimeInForce.ofCode? o.timeInForceCode

end Order

/-! ## Market data -/

/-- The state of the market in one instrument. -/
structure MarketData where
  symbol : Symbol
  bidPrice : UInt64
  askPrice : UInt64
  lastPrice : UInt64
  volume : UInt64
  highPrice : UInt64
  lowPrice : UInt64
  bidSize : UInt32
  askSize : UInt32
  lastSize : UInt32
  padding : UInt32
  deriving DecidableEq

namespace MarketData

def layout : Layout MarketData :=
  (Symbol.layout.seq <| Layout.u64.seq <| Layout.u64.seq <| Layout.u64.seq <| Layout.u64.seq <|
    Layout.u64.seq <| Layout.u64.seq <| Layout.u32.seq <| Layout.u32.seq <|
    Layout.u32.seq Layout.u32).via
    (fun (symbol, bidPrice, askPrice, lastPrice, volume, highPrice, lowPrice, bidSize, askSize,
        lastSize, padding) =>
      { symbol, bidPrice, askPrice, lastPrice, volume, highPrice, lowPrice, bidSize, askSize,
        lastSize, padding })
    (fun d => (d.symbol, d.bidPrice, d.askPrice, d.lastPrice, d.volume, d.highPrice, d.lowPrice,
      d.bidSize, d.askSize, d.lastSize, d.padding))

theorem layout_faithful : layout.Faithful :=
  Layout.Faithful.via
    (.seq Symbol.layout_faithful <| .seq Layout.u64_faithful <| .seq Layout.u64_faithful <|
      .seq Layout.u64_faithful <| .seq Layout.u64_faithful <| .seq Layout.u64_faithful <|
      .seq Layout.u64_faithful <| .seq Layout.u32_faithful <| .seq Layout.u32_faithful <|
      .seq Layout.u32_faithful Layout.u32_faithful)
    (fun _ => rfl) (fun _ => rfl)

theorem layout_width : layout.width = 80 := rfl

/-- The update of which every byte is zero. -/
def zero : MarketData :=
  ⟨Symbol.blank, 0, 0, 0, 0, 0, 0, 0, 0, 0, 0⟩

/-- The best bid and ask, and nothing about trades. -/
def quote (symbol : String) (bidPrice : UInt64) (bidSize : UInt32) (askPrice : UInt64)
    (askSize : UInt32) : MarketData :=
  { zero with symbol := Symbol.ofText symbol, bidPrice, bidSize, askPrice, askSize }

end MarketData

/-! ## Fills -/

/-- The execution of an order, or of a part of it. -/
structure Fill where
  orderId : UInt64
  fillId : UInt64
  fillPrice : UInt64
  commission : UInt64
  fillQuantity : UInt32
  padding : UInt32
  executionVenue : Symbol
  deriving DecidableEq

namespace Fill

def layout : Layout Fill :=
  (Layout.u64.seq <| Layout.u64.seq <| Layout.u64.seq <| Layout.u64.seq <| Layout.u32.seq <|
    Layout.u32.seq Symbol.layout).via
    (fun (orderId, fillId, fillPrice, commission, fillQuantity, padding, executionVenue) =>
      { orderId, fillId, fillPrice, commission, fillQuantity, padding, executionVenue })
    (fun f => (f.orderId, f.fillId, f.fillPrice, f.commission, f.fillQuantity, f.padding,
      f.executionVenue))

theorem layout_faithful : layout.Faithful :=
  Layout.Faithful.via
    (.seq Layout.u64_faithful <| .seq Layout.u64_faithful <| .seq Layout.u64_faithful <|
      .seq Layout.u64_faithful <| .seq Layout.u32_faithful <|
      .seq Layout.u32_faithful Symbol.layout_faithful)
    (fun _ => rfl) (fun _ => rfl)

theorem layout_width : layout.width = 56 := rfl

/-- The fill of which every byte is zero. -/
def zero : Fill :=
  ⟨0, 0, 0, 0, 0, 0, Symbol.blank⟩

end Fill

/-! ## Payloads -/

/-- What a payload says. -/
inductive Body where
  | order (order : Order)
  | marketData (data : MarketData)
  | fill (fill : Fill)
  | raw (bytes : List UInt8)
  deriving DecidableEq

namespace Record

/-- A pending message that carries a body of the given layout, followed by zero bytes. -/
def withBody {β : Type} (l : Layout β) (messageId : UInt64) (type : MessageType)
    (timestamp : UInt64) (body : β) : Record :=
  let plain := envelope messageId type timestamp
  let bytes := l.encode body
  { header := { plain.header with payloadLength := UInt32.ofNat l.width }
    payload := Vector.ofFn fun i => bytes.getD i 0 }

/-- An order entry; `type` should be that of an order. -/
def order (messageId : UInt64) (type : MessageType) (timestamp : UInt64) (o : Order) : Record :=
  withBody Order.layout messageId type timestamp o

def newOrder (messageId : UInt64) (timestamp : UInt64) (o : Order) : Record :=
  order messageId .newOrder timestamp o

def marketData (messageId : UInt64) (timestamp : UInt64) (d : MarketData) : Record :=
  withBody MarketData.layout messageId .marketData timestamp d

def fill (messageId : UInt64) (timestamp : UInt64) (f : Fill) : Record :=
  withBody Fill.layout messageId .fill timestamp f

/-- The payload as a body of the given layout, whatever the type of the record. -/
def view {β : Type} (l : Layout β) (r : Record) : Except RecordError β :=
  let actual := r.header.payloadLength.toNat
  if actual < l.width then .error (.bodyTooShort l.width actual)
  else if headerSize % l.alignment ≠ 0 then .error .misaligned
  else .ok (l.decode r.payload.toList)

def orderBody (r : Record) : Except RecordError Order :=
  r.view Order.layout

def marketDataBody (r : Record) : Except RecordError MarketData :=
  r.view MarketData.layout

def fillBody (r : Record) : Except RecordError Fill :=
  r.view Fill.layout

/-- The part of the payload that the payload length claims. -/
def rawBody (r : Record) : List UInt8 :=
  r.payload.toList.take r.header.payloadLength.toNat

/-- The payload read as its type demands. -/
def body (r : Record) : Except RecordError Body :=
  match r.messageType with
  | .error e => .error e
  | .ok .newOrder | .ok .cancel | .ok .replace => r.orderBody.map .order
  | .ok .marketData => r.marketDataBody.map .marketData
  | .ok .fill => r.fillBody.map .fill
  | .ok _ => .ok (.raw r.rawBody)

end Record

end MessageServer
