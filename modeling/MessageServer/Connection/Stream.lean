import MessageServer.SystemError

/-!
# Streams

One end of a byte stream, as its owner sees it.  What the peer sent waits in `incoming`, cut where
reads are cut: a read takes bytes from one arrival only.  An arrival can also be an interruption or
an error, which a read reports.  Behind the last arrival a read blocks, or answers nothing once the
peer has ended its side.

What was written and the peer has not taken yet waits in `outgoing`.  A write takes all bytes unless
`acceptance` foresees less; nothing can be written once the stream is shut down or the peer gone.

`weight` bounds the number of reads that find something, and every such read lowers it.
-/

namespace MessageServer

/-- What a read finds. -/
inductive Arrival where
  | data (bytes : List UInt8)
  | interrupted
  | failed (error : SystemError)
  deriving DecidableEq, Repr

namespace Arrival

/-- One read of at most `size` bytes, and the arrivals it leaves. -/
def read (size : Nat) (ended : Bool) : List Arrival → Except IoError (List UInt8) × List Arrival
  | [] => (if ended then .ok [] else .error (.system .wouldBlock), [])
  | data bytes :: rest =>
    let left := bytes.drop size
    (.ok (bytes.take size), if left = [] then rest else data left :: rest)
  | interrupted :: rest => (.error (.system .interrupted), rest)
  | failed e :: rest => (.error (.system e), rest)

/-- More bytes behind the arrivals; they join bytes that wait already. -/
def append : List Arrival → List UInt8 → List Arrival
  | [], bytes => if bytes = [] then [] else [data bytes]
  | [data waiting], bytes => [data (waiting ++ bytes)]
  | a :: rest, bytes => a :: append rest bytes

/-- An upper bound of the number of reads that find something. -/
def weight : List Arrival → Nat
  | [] => 0
  | data bytes :: rest => bytes.length + 1 + weight rest
  | _ :: rest => 1 + weight rest

/-- A read that gives bytes leaves less to read. -/
theorem weight_read_of_ok {size : Nat} {ended : Bool} {incoming rest : List Arrival}
    {got : List UInt8} (h : read size ended incoming = (.ok got, rest)) (hg : got ≠ []) :
    weight rest < weight incoming := by
  match incoming with
  | [] =>
    cases ended <;> simp [read] at h
    exact absurd h.1 hg
  | data bytes :: more =>
    simp only [read, Prod.mk.injEq, Except.ok.injEq] at h
    obtain ⟨rfl, rfl⟩ := h
    have hs : size ≠ 0 := by rintro rfl; simp at hg
    have hb : bytes ≠ [] := by rintro rfl; simp at hg
    have hl : 0 < bytes.length := List.length_pos_iff.mpr hb
    split
    · simp only [weight]; omega
    · simp only [weight, List.length_drop]; omega
  | interrupted :: more => simp [read] at h
  | failed e :: more => simp [read] at h

/-- A read that fails, other than for want of arrivals, leaves less to read. -/
theorem weight_read_of_interrupted {size : Nat} {ended : Bool} {incoming rest : List Arrival}
    {e : IoError} (h : read size ended incoming = (.error e, rest))
    (hk : e.kind = .interrupted) : weight rest < weight incoming := by
  match incoming with
  | [] =>
    cases ended <;> simp [read] at h
    rw [← h.1] at hk
    simp [IoError.kind] at hk
  | data bytes :: more => simp [read] at h
  | interrupted :: more =>
    simp only [read, Prod.mk.injEq] at h
    simp only [← h.2, weight]; omega
  | failed e :: more =>
    simp only [read, Prod.mk.injEq] at h
    simp only [← h.2, weight]; omega

end Arrival

/-- How the next write fares. -/
inductive Acceptance where
  /-- At most so many bytes are taken. -/
  | takes (count : Nat)
  | refuses (error : SystemError)
  deriving DecidableEq, Repr

/-- One end of a byte stream. -/
structure Stream where
  incoming : List Arrival
  /-- The peer sends nothing more. -/
  ended : Bool
  outgoing : List UInt8
  /-- How the next writes fare; all writes behind them are taken whole. -/
  acceptance : List Acceptance
  peerGone : Bool
  shutDown : Bool
  /-- The descriptor was given back. -/
  dropped : Bool
  deriving DecidableEq, Repr

namespace Stream

/-- A stream on which nothing has happened. -/
def fresh : Stream :=
  ⟨[], false, [], [], false, false, false⟩

/-- Whether reads behind the last arrival answer that the stream has ended. -/
def atEnd (s : Stream) : Bool :=
  s.ended || s.shutDown

/-- One read of at most `size` bytes. -/
def read (s : Stream) (size : Nat) : Except IoError (List UInt8) × Stream :=
  let (got, rest) := Arrival.read size s.atEnd s.incoming
  (got, { s with incoming := rest })

/-- One write; answers how many bytes were taken. -/
def write (s : Stream) (bytes : List UInt8) : Except IoError Nat × Stream :=
  if s.shutDown || s.peerGone then (.error (.system .brokenPipe), s)
  else
    match s.acceptance with
    | [] => (.ok bytes.length, { s with outgoing := s.outgoing ++ bytes })
    | .takes count :: rest =>
      let taken := bytes.take count
      (.ok taken.length, { s with outgoing := s.outgoing ++ taken, acceptance := rest })
    | .refuses e :: rest => (.error (.system e), { s with acceptance := rest })

/-- Nothing can be written any more, and reads end behind what has arrived. -/
def shutdown (s : Stream) : Stream :=
  { s with shutDown := true }

/-- Gives the descriptor back. -/
def drop (s : Stream) : Stream :=
  { s with dropped := true }

/-! ## The peer -/

/-- The peer sends bytes. -/
def deliver (s : Stream) (bytes : List UInt8) : Stream :=
  { s with incoming := Arrival.append s.incoming bytes }

/-- The peer sends nothing more. -/
def endOfPeer (s : Stream) : Stream :=
  { s with ended := true }

/-- The peer closes its end. -/
def leave (s : Stream) : Stream :=
  { s with ended := true, peerGone := true }

/-- The peer stops reading: the next `records` writes of a record are taken whole, and the one
behind them is refused. -/
def stall (s : Stream) (records : Nat) : Stream :=
  { s with acceptance := List.replicate records (.takes 128) ++ [.refuses .wouldBlock] }

/-- The peer takes what was written. -/
def collect (s : Stream) : List UInt8 × Stream :=
  (s.outgoing, { s with outgoing := [] })

end Stream

end MessageServer
