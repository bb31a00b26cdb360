import MessageServer.Record.Basic

/-!
# Buffer pools

A pool lends out slots for one record each.  The search for a free slot starts one place further
at every call, whether or not the call finds one, and takes the first slot that is not lent; only
a pool that is lent out entirely has none to give.  A slot keeps its record when it is given back
and lent again.

Sending and receiving have a pool of their own.

A pool has at least one slot, and no more than a block of memory can be asked for.  Whether that
much memory is there is not considered.
-/

namespace MessageServer

/-- A slot of a pool: whether it is lent, and the record it holds. -/
structure PoolSlot where
  lent : Bool
  record : Record
  deriving DecidableEq

/-- Why there is no such pool. -/
inductive PoolError where
  | noSlots
  /-- The slots would take more bytes than a block of memory can have. -/
  | tooManySlots
  deriving DecidableEq, Repr

namespace PoolError

def message : PoolError → String
  | noSlots => "buffer pool needs at least one slot"
  | tooManySlots => "capacity overflow"

end PoolError

/-- Slots to lend; `calls` counts the calls of `lease`, modulo the word size. -/
structure Pool where
  slots : Array PoolSlot
  calls : UInt64
  deriving DecidableEq

namespace Pool

/-- The bytes of a slot: the record and the flag, filled up to the alignment of records. -/
def slotBytes : Nat := 192

/-- The most slots of a pool.  A block of memory has fewer than 2^63 bytes. -/
def mostSlots : Nat := 9223372036854775807 / slotBytes

/-- A pool of free slots with zero records. -/
def new (size : Nat) : Except PoolError Pool :=
  if size = 0 then .error .noSlots
  else if mostSlots < size then .error .tooManySlots
  else .ok ⟨Array.replicate size ⟨false, Record.zero⟩, 0⟩

/-- The number of slots. -/
def size (p : Pool) : Nat :=
  p.slots.size

def isEmpty (p : Pool) : Bool :=
  p.slots.isEmpty

/-- Whether slot `i` exists and is lent. -/
def isLent (p : Pool) (i : Nat) : Bool :=
  match p.slots[i]? with
  | some s => s.lent
  | none => false

/-- How many slots are lent. -/
def inUse (p : Pool) : Nat :=
  p.slots.countP (·.lent)

/-- The slots in the order in which the next lease looks at them. -/
def probes (p : Pool) : List Nat :=
  let start := p.calls.toNat % p.size
  (List.range p.size).map fun k => (start + k) % p.size

/-- Lends the first free slot, if there is one. -/
def lease (p : Pool) : Option Nat × Pool :=
  let p' := { p with calls := p.calls + 1 }
  match p.probes.find? fun i => !p.isLent i with
  | none => (none, p')
  | some i => (some i, { p' with slots := p'.slots.modify i fun s => { s with lent := true } })

/-- Takes slot `i` back. -/
def release (p : Pool) (i : Nat) : Pool :=
  { p with slots := p.slots.modify i fun s => { s with lent := false } }

/-- Puts a record into slot `i`. -/
def write (p : Pool) (i : Nat) (r : Record) : Pool :=
  { p with slots := p.slots.modify i fun s => { s with record := r } }

/-- The record in slot `i`. -/
def read? (p : Pool) (i : Nat) : Option Record :=
  p.slots[i]?.map (·.record)

end Pool

/-- The two directions, each with a pool of its own. -/
inductive Direction where
  | send | receive
  deriving DecidableEq, Repr

/-- One pool for sending and one for receiving. -/
structure Pools where
  send : Pool
  receive : Pool
  deriving DecidableEq

namespace Pools

/-- Two pools of the same size. -/
def new (size : Nat) : Except PoolError Pools :=
  match Pool.new size with
  | .error e => .error e
  | .ok pool => .ok ⟨pool, pool⟩

/-- The pool of a direction. -/
def get (p : Pools) : Direction → Pool
  | .send => p.send
  | .receive => p.receive

/-- Replaces the pool of a direction. -/
def set (p : Pools) (d : Direction) (pool : Pool) : Pools :=
  match d with
  | .send => { p with send := pool }
  | .receive => { p with receive := pool }

def lease (p : Pools) (d : Direction) : Option Nat × Pools :=
  let (i, pool) := (p.get d).lease
  (i, p.set d pool)

def release (p : Pools) (d : Direction) (i : Nat) : Pools :=
  p.set d ((p.get d).release i)

def write (p : Pools) (d : Direction) (i : Nat) (r : Record) : Pools :=
  p.set d ((p.get d).write i r)

def read? (p : Pools) (d : Direction) (i : Nat) : Option Record :=
  (p.get d).read? i

end Pools

end MessageServer
