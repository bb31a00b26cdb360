/-!
# Codes

The one-byte codes of a record: what kind of message it is, how far it has been processed, and the
side, kind and lifetime of an order.  Each is an enumeration with its `code`, its `name`, and the
partial inverse `ofCode?`; most bytes are the code of nothing.
-/

namespace MessageServer

/-! ## Message types -/

/-- What a record is about. -/
inductive MessageType where
  | newOrder | cancel | replace | fill | reject
  | marketData
  | heartbeat | login | logout
  | orderAck | marketDataAck
  | error
  deriving DecidableEq, Repr

namespace MessageType

/-- All message types, by ascending code. -/
def all : List MessageType :=
  [newOrder, cancel, replace, fill, reject, marketData, heartbeat, login, logout, orderAck,
    marketDataAck, error]

def code : MessageType → UInt8
  | newOrder => 0x01
  | cancel => 0x02
  | replace => 0x03
  | fill => 0x04
  | reject => 0x05
  | marketData => 0x06
  | heartbeat => 0x07
  | login => 0x08
  | logout => 0x09
  | orderAck => 0x10
  | marketDataAck => 0x11
  | error => 0xff

def ofCode? (b : UInt8) : Option MessageType :=
  match b.toNat with
  | 0x01 => some newOrder
  | 0x02 => some cancel
  | 0x03 => some replace
  | 0x04 => some fill
  | 0x05 => some reject
  | 0x06 => some marketData
  | 0x07 => some heartbeat
  | 0x08 => some login
  | 0x09 => some logout
  | 0x10 => some orderAck
  | 0x11 => some marketDataAck
  | 0xff => some error
  | _ => none

def name : MessageType → String
  | newOrder => "NewOrder"
  | cancel => "Cancel"
  | replace => "Replace"
  | fill => "Fill"
  | reject => "Reject"
  | marketData => "MarketData"
  | heartbeat => "Heartbeat"
  | login => "Login"
  | logout => "Logout"
  | orderAck => "OrderAck"
  | marketDataAck => "MarketDataAck"
  | error => "Error"

/-- Order entry: the types whose payload is an order. -/
def isOrder : MessageType → Bool
  | newOrder | cancel | replace => true
  | _ => false

/-- The acknowledgments of orders and of market data. -/
def isAck : MessageType → Bool
  | orderAck | marketDataAck => true
  | _ => false

@[simp] theorem ofCode?_code (t : MessageType) : ofCode? t.code = some t := by
  cases t <;> rfl

theorem ofCode?_eq_some_iff {b : UInt8} {t : MessageType} : ofCode? b = some t ↔ t.code = b := by
  constructor
  · intro h
    unfold ofCode? at h
    split at h <;> cases h <;> exact UInt8.toNat_inj.mp (Eq.symm ‹_›)
  · rintro rfl
    exact ofCode?_code t

theorem ofCode?_eq_none_iff {b : UInt8} : ofCode? b = none ↔ ∀ t : MessageType, t.code ≠ b := by
  simp only [Option.eq_none_iff_forall_ne_some, ne_eq, ofCode?_eq_some_iff]

theorem mem_all (t : MessageType) : t ∈ all := by
  cases t <;> decide

end MessageType

/-! ## Status -/

/-- How far a record has been processed. -/
inductive Status where
  | pending | processed | completed | failed
  deriving DecidableEq, Repr

namespace Status

def code : Status → UInt8
  | pending => 1
  | processed => 2
  | completed => 3
  | failed => 4

def ofCode? (b : UInt8) : Option Status :=
  match b.toNat with
  | 1 => some pending
  | 2 => some processed
  | 3 => some completed
  | 4 => some failed
  | _ => none

def name : Status → String
  | pending => "Pending"
  | processed => "Processed"
  | completed => "Completed"
  | failed => "Failed"

@[simp] theorem ofCode?_code (s : Status) : ofCode? s.code = some s := by
  cases s <;> rfl

end Status

/-! ## Orders -/

/-- Which side of the market an order is on. -/
inductive Side where
  | buy | sell
  deriving DecidableEq, Repr

namespace Side

def code : Side → UInt8
  | buy => 1
  | sell => 2

def ofCode? (b : UInt8) : Option Side :=
  match b.toNat with
  | 1 => some buy
  | 2 => some sell
  | _ => none

def name : Side → String
  | buy => "Buy"
  | sell => "Sell"

@[simp] theorem ofCode?_code (s : Side) : ofCode? s.code = some s := by
  cases s <;> rfl

end Side

/-- At which price an order may trade. -/
inductive OrderType where
  | market | limit | stop | stopLimit
  deriving DecidableEq, Repr

namespace OrderType

def code : OrderType → UInt8
  | market => 1
  | limit => 2
  | stop => 3
  | stopLimit => 4

def ofCode? (b : UInt8) : Option OrderType :=
  match b.toNat with
  | 1 => some market
  | 2 => some limit
  | 3 => some stop
  | 4 => some stopLimit
  | _ => none

def name : OrderType → String
  | market => "Market"
  | limit => "Limit"
  | stop => "Stop"
  | stopLimit => "StopLimit"

@[simp] theorem ofCode?_code (t : OrderType) : ofCode? t.code = some t := by
  cases t <;> rfl

end OrderType

/-- How long an order stands: for the day, at once or not at all, in full or not at all, or until
it is cancelled. -/
inductive TimeInForce where
  | day | immediateOrCancel | fillOrKill | goodTillCancelled
  deriving DecidableEq, Repr

namespace TimeInForce

def code : TimeInForce → UInt8
  | day => 1
  | immediateOrCancel => 2
  | fillOrKill => 3
  | goodTillCancelled => 4

def ofCode? (b : UInt8) : Option TimeInForce :=
  match b.toNat with
  | 1 => some day
  | 2 => some immediateOrCancel
  | 3 => some fillOrKill
  | 4 => some goodTillCancelled
  | _ => none

def name : TimeInForce → String
  | day => "Day"
  | immediateOrCancel => "Ioc"
  | fillOrKill => "Fok"
  | goodTillCancelled => "Gtc"

@[simp] theorem ofCode?_code (t : TimeInForce) : ofCode? t.code = some t := by
  cases t <;> rfl

end TimeInForce

end MessageServer
