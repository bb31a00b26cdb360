import MessageServer.Address.Ip
import MessageServer.SystemError

/-!
# The machine

What the machine that a server runs on does with addresses: which of them a listening socket may be
bound to, whether a client reaches it, and which port it gives to a socket that asks for any.
-/

namespace MessageServer

/-- What a machine does with addresses. -/
structure Host where
  bindError? : IpAddress → Option SystemError
  connectError? : Option SystemError
  freePort : UInt16
  /-- How many records the machine keeps for a peer that does not read. -/
  sendBacklog : Nat

namespace Host

/-- Every bit is zero. -/
def isUnspecified (ip : Ipv6) : Bool :=
  ip.groups.toList.all (· == 0)

/-- The leading bits are those of multicast or link-local addresses. -/
def needsInterface (ip : Ipv6) : Bool :=
  let g := ip.groups[0]
  g &&& 0xff00 == 0xff00 || g &&& 0xffc0 == 0xfe80

/-- A machine without any interface.  It has no table of its own addresses, so that it refuses no
address of version 4, and of version 6 it knows only the unspecified one.  Nothing is reached from
it, not even itself. -/
def isolated : Host where
  bindError?
    | .v4 _ => none
    | .v6 ip =>
      if isUnspecified ip || ip.mapped?.isSome then none
      else if needsInterface ip then some .invalidArgument
      else some .addressNotAvailable
  connectError? := some .networkUnreachable
  freePort := 32768
  sendBacklog := 278

/-- A machine that reaches itself and nothing else. -/
def loopback : Host where
  bindError?
    | .v4 ip => if ip.a = 127 ∨ ip = ⟨0, 0, 0, 0⟩ then none else some .addressNotAvailable
    | .v6 ip =>
      if isUnspecified ip || ip == ⟨#v[0, 0, 0, 0, 0, 0, 0, 1]⟩ then none
      else if needsInterface ip then some .invalidArgument
      else some .addressNotAvailable
  connectError? := none
  freePort := 32768
  sendBacklog := 278

end Host

end MessageServer
