import MessageServer.Connection.Basic

/-!
# The registry of live connections

Live connections occupy the slots of an arena.  Each slot carries a generation that is advanced
whenever its connection is released, so that an id kept beyond that finds nothing instead of the
connection that was given the slot next.  Slots that were given up are used again, the last one
first, before the arena grows.

A second index maps the descriptor of each live connection to its id.  A descriptor that is
registered again belongs to a new socket; the connection that had it is evicted first.

* `Registry.register`, `Registry.release` and `Registry.drain` add and remove connections.
* `Registry.get?` finds one by its id, `Registry.lookup?` by its descriptor.
* `Registry.tickets` lists the live connections in slot order.
-/

namespace MessageServer

/-- A place for one connection. -/
structure RegistrySlot where
  generation : UInt32
  occupant : Option Ticket
  deriving DecidableEq, Repr

/-- Why a connection is not registered. -/
inductive RegistryError where
  | full (capacity : Nat)
  deriving DecidableEq, Repr

namespace RegistryError

def message : RegistryError → String
  | full capacity => s!"connection registry is full ({capacity} connections)"

end RegistryError

/-- The live connections, at most `capacity` of them. -/
structure Registry where
  capacity : Nat
  slots : Array RegistrySlot
  /-- The slots without occupant, the one to use next in front. -/
  free : List UInt32
  byDescriptor : List (Descriptor × ConnectionId)
  live : Nat
  /-- How many connections were registered so far. -/
  issued : Nat
  deriving DecidableEq, Repr

/-- A socket that a connection is to be made of. -/
structure Opening where
  descriptor : Descriptor
  peer : SocketAddress
  authenticated : Bool
  now : UInt64
  stream : Stream
  deriving DecidableEq

/-- The accepted connection that a socket becomes. -/
def Opening.connection (o : Opening) (id : ConnectionId) (serial : Nat) : Connection where
  id
  serial
  descriptor := o.descriptor
  peer := o.peer
  standing := ⟨.accepted, o.now, o.authenticated⟩
  stream := o.stream

namespace Registry

/-- No connections and no slots. -/
def new (capacity : Nat) : Registry :=
  ⟨capacity, #[], [], [], 0, 0⟩

def isEmpty (r : Registry) : Bool :=
  r.live == 0

/-- The id that a descriptor is mapped to. -/
def mapped? (r : Registry) (d : Descriptor) : Option ConnectionId :=
  r.byDescriptor.lookup d

/-- The live connections, in slot order. -/
def tickets (r : Registry) : List Ticket :=
  r.slots.toList.filterMap (·.occupant)

/-- The live connection with this id. -/
def get? (r : Registry) (id : ConnectionId) : Option Ticket :=
  match r.slots[id.index.toNat]? with
  | none => none
  | some slot => if slot.generation = id.generation then slot.occupant else none

/-- The live connection with this descriptor. -/
def lookup? (r : Registry) (d : Descriptor) : Option Ticket :=
  match r.mapped? d with
  | none => none
  | some id =>
    match r.slots[id.index.toNat]? with
    | none => none
    | some slot => slot.occupant

/-- The descriptor map without `d`. -/
def unmap (d : Descriptor) (m : List (Descriptor × ConnectionId)) :
    List (Descriptor × ConnectionId) :=
  m.filter fun entry => entry.1 != d

/-- Removes the connection with this id, if it is still current, and answers it. -/
def release (r : Registry) (id : ConnectionId) : Option Ticket × Registry :=
  match r.slots[id.index.toNat]? with
  | none => (none, r)
  | some slot =>
    if slot.generation = id.generation then
      match slot.occupant with
      | none => (none, r)
      | some t =>
        (some t,
          { r with
            slots := r.slots.setIfInBounds id.index.toNat ⟨slot.generation + 1, none⟩
            free := id.index :: r.free
            live := r.live - 1
            byDescriptor :=
              if r.mapped? t.descriptor = some id then unmap t.descriptor r.byDescriptor
              else r.byDescriptor })
    else (none, r)

/-- Removes the connection that a descriptor is mapped to. -/
def evict (r : Registry) (d : Descriptor) : Registry :=
  match r.mapped? d with
  | none => r
  | some stale => (r.release stale).2

/-- A slot without occupant: the one given up last, or a new one. -/
def takeSlot (r : Registry) : UInt32 × Registry :=
  match r.free with
  | index :: rest => (index, { r with free := rest })
  | [] => (UInt32.ofNat r.slots.size, { r with slots := r.slots.push ⟨0, none⟩ })

/-- The generation of a slot. -/
def generation (r : Registry) (index : UInt32) : UInt32 :=
  match r.slots[index.toNat]? with
  | none => 0
  | some slot => slot.generation

/-- Puts a connection into its slot and maps its descriptor. -/
def occupy (r : Registry) (t : Ticket) : Registry :=
  { r with
    slots := r.slots.modify t.id.index.toNat fun slot => { slot with occupant := some t }
    byDescriptor := (t.descriptor, t.id) :: unmap t.descriptor r.byDescriptor
    live := r.live + 1
    issued := r.issued + 1 }

/-- Makes a connection of a socket, unless the registry is full.  A live connection that has the
descriptor is evicted before that is decided. -/
def register (r : Registry) (o : Opening) : Except RegistryError Connection × Registry :=
  let r := r.evict o.descriptor
  if r.capacity ≤ r.live then (.error (.full r.capacity), r)
  else
    let (index, r) := r.takeSlot
    let c := o.connection ⟨index, r.generation index⟩ r.issued
    (.ok c, r.occupy c.toTicket)

/-- Removes the connections with these ids in turn, and answers those that were current. -/
def releaseAll (r : Registry) : List ConnectionId → List Ticket × Registry
  | [] => ([], r)
  | id :: ids =>
    let (t, r) := r.release id
    let (ts, r) := r.releaseAll ids
    (t.toList ++ ts, r)

/-- Removes and answers all connections, in the order of the descriptor map. -/
def drain (r : Registry) : List Ticket × Registry :=
  r.releaseAll (r.byDescriptor.map (·.2))

end Registry

end MessageServer
