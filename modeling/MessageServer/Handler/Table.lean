import MessageServer.Handler.Basic

/-!
# Handler tables

A `HandlerTable` has room for one handler for each type code, and for the hooks that are called when
a connection is opened or closed.
-/

namespace MessageServer

/-- One handler at most for each type code, and the hooks. -/
structure HandlerTable where
  handlers : Vector (Option Handler) 256
  onConnect : Option Hook
  onClose : Option Hook

namespace HandlerTable

/-- No handlers: every record is dropped. -/
def empty : HandlerTable :=
  ⟨Vector.replicate 256 none, none, none⟩

/-- The place of a message type in the table. -/
def place (type : MessageType) : Fin 256 :=
  ⟨type.code.toNat, type.code.toNat_lt⟩

/-- The handler for a message type. -/
def get (t : HandlerTable) (type : MessageType) : Option Handler :=
  t.handlers[place type]

/-- Installs a handler and answers the one that it replaces. -/
def register (t : HandlerTable) (type : MessageType) (h : Handler) :
    Option Handler × HandlerTable :=
  (t.get type, { t with handlers := t.handlers.set (place type) (some h) (place type).isLt })

/-- Installs handlers in turn. -/
def registerAll (t : HandlerTable) (hs : List (MessageType × Handler)) : HandlerTable :=
  hs.foldl (fun t (type, h) => (t.register type h).2) t

/-- Orders, market data and heartbeats. -/
def default : HandlerTable :=
  empty.registerAll
    [(.newOrder, Handler.order), (.cancel, Handler.order), (.replace, Handler.order),
      (.marketData, Handler.marketData), (.heartbeat, Handler.heartbeat)]

/-- The message types that have a handler, by ascending code. -/
def routed (t : HandlerTable) : List MessageType :=
  MessageType.all.filter fun type => (t.get type).isSome

end HandlerTable

end MessageServer
