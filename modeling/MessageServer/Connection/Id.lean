/-!
# Connection ids and tokens

A connection is named by the arena slot it is in and by the generation of that slot, which changes
whenever the slot is given up.  The readiness queue carries 64-bit tokens; the token of a connection
has the generation in its upper half and the slot in its lower half.  The largest token is set
aside for the listening socket.
-/

namespace MessageServer

/-- The slot of a connection and the generation it was given the slot in. -/
structure ConnectionId where
  index : UInt32
  generation : UInt32
  deriving DecidableEq, Repr

/-- What the readiness queue hands back with an event. -/
abbrev Token := UInt64

namespace ConnectionId

/-- The generation above the slot. -/
def toToken (id : ConnectionId) : Token :=
  UInt64.ofNat (id.generation.toNat * UInt32.size + id.index.toNat)

/-- The upper half is the generation and the lower half the slot. -/
def ofToken (t : Token) : ConnectionId :=
  ⟨UInt32.ofNat (t.toNat % UInt32.size), UInt32.ofNat (t.toNat / UInt32.size)⟩

@[simp] theorem toToken_ofToken (t : Token) : (ofToken t).toToken = t := by
  have ht : t.toNat < UInt64.size := t.toNat_lt
  have hi : (UInt32.ofNat (t.toNat % UInt32.size)).toNat = t.toNat % UInt32.size :=
    UInt32.toNat_ofNat_of_lt' (Nat.mod_lt _ (by decide))
  have hg : (UInt32.ofNat (t.toNat / UInt32.size)).toNat = t.toNat / UInt32.size :=
    UInt32.toNat_ofNat_of_lt' (Nat.div_lt_of_lt_mul ht)
  simp only [ofToken, toToken, hi, hg, Nat.div_add_mod', UInt64.ofNat_toNat]

@[simp] theorem ofToken_toToken (id : ConnectionId) : ofToken id.toToken = id := by
  have hi : id.index.toNat < UInt32.size := id.index.toNat_lt
  have hg : id.generation.toNat < UInt32.size := id.generation.toNat_lt
  have ht : id.toToken.toNat = id.generation.toNat * UInt32.size + id.index.toNat :=
    UInt64.toNat_ofNat_of_lt' (by simp only [UInt32.size, UInt64.size] at *; omega)
  have hm : id.toToken.toNat % UInt32.size = id.index.toNat := by
    rw [ht, Nat.mul_add_mod_self_right, Nat.mod_eq_of_lt hi]
  have hd : id.toToken.toNat / UInt32.size = id.generation.toNat := by
    simp only [UInt32.size] at *
    omega
  simp only [ofToken, hm, hd, UInt32.ofNat_toNat]

theorem eq_of_toToken_eq {id id' : ConnectionId} (h : id.toToken = id'.toToken) : id = id' := by
  rw [← ofToken_toToken id, h, ofToken_toToken]

end ConnectionId

/-- The token of the listening socket. -/
def listenerToken : Token := 18446744073709551615

end MessageServer
