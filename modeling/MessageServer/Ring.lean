/-!
# Ring buffers

A queue of bounded length in `n` slots, where `n` is a power of two.  Two cursors, both below `n`,
say where the next value is read and where the next one is written; since a cursor is cut to the
bits below `n`, it returns to the first slot behind the last.

Equal cursors mean an empty ring, so one slot always stays free and a ring of `n` slots holds
`n - 1` values.  A slot holds a value from the push that wrote it to the pop that read it.

`Ring.toList` is the queue that a ring stands for: its values, the oldest first.
-/

namespace MessageServer

/-- A queue in `n` slots; `head` is read next and `tail` is written next. -/
structure Ring (α : Type) (n : Nat) where
  slots : Vector (Option α) n
  head : Nat
  tail : Nat

namespace Ring

variable {α : Type} {n : Nat}

/-- A cursor cut to the bits below `n`, a power of two. -/
def mask (n cursor : Nat) : Nat :=
  cursor &&& (n - 1)

/-- The ring that nothing was written to. -/
def empty (α : Type) (n : Nat) : Ring α n :=
  ⟨Vector.replicate n none, 0, 0⟩

/-- What slot `i` holds. -/
def slot (r : Ring α n) (i : Nat) : Option α :=
  (r.slots[i]?).join

/-- How many values fit. -/
def capacity (_ : Ring α n) : Nat :=
  n - 1

/-- How many values are queued. -/
def size (r : Ring α n) : Nat :=
  mask n (r.tail + n - r.head)

def isEmpty (r : Ring α n) : Bool :=
  r.head == r.tail

def isFull (r : Ring α n) : Bool :=
  mask n (r.tail + 1) == r.head

/-- How many more values fit. -/
def remaining (r : Ring α n) : Nat :=
  r.capacity - r.size

/-- The queued values, the oldest first. -/
def toList (r : Ring α n) : List α :=
  (List.range r.size).filterMap fun i => r.slot (mask n (r.head + i))

/-- Appends a value and says that it did, unless the ring is full. -/
def tryPush (r : Ring α n) (a : α) : Bool × Ring α n :=
  let next := mask n (r.tail + 1)
  if next = r.head then (false, r)
  else (true, { r with slots := r.slots.setIfInBounds r.tail (some a), tail := next })

/-- Takes the oldest value, unless the ring is empty. -/
def tryPop (r : Ring α n) : Option α × Ring α n :=
  if r.head = r.tail then (none, r)
  else
    (r.slot r.head,
      { r with slots := r.slots.setIfInBounds r.head none, head := mask n (r.head + 1) })

/-- Pushes the values in turn and counts those that were accepted. -/
def pushAll (r : Ring α n) : List α → Nat × Ring α n
  | [] => (0, r)
  | a :: as =>
    let (accepted, r) := r.tryPush a
    let (count, r) := r.pushAll as
    ((if accepted then 1 else 0) + count, r)

/-- Pops into a buffer until the buffer is full or the ring is empty.  Answers how many places
were filled, the buffer, and the ring. -/
def popBatch (r : Ring α n) : List α → Nat × List α × Ring α n
  | [] => (0, [], r)
  | old :: rest =>
    match r.tryPop with
    | (none, r) => (0, old :: rest, r)
    | (some a, r) =>
      let (count, filled, r) := r.popBatch rest
      (count + 1, a :: filled, r)

end Ring

end MessageServer
