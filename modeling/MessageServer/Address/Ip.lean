import MessageServer.Text.Hex

/-!
# Internet addresses

Addresses of both versions and their text.  A version-4 address is four decimal numbers between
points.  A version-6 address is eight hexadecimal groups between colons, of which the first longest
run of at least two zero groups is left out; an address that carries a version-4 address is written
with that address at its end.
-/

namespace MessageServer

/-- A version-4 address: its four bytes. -/
structure Ipv4 where
  a : UInt8
  b : UInt8
  c : UInt8
  d : UInt8
  deriving DecidableEq, Repr

namespace Ipv4

def text (ip : Ipv4) : String :=
  s!"{ip.a.toNat}.{ip.b.toNat}.{ip.c.toNat}.{ip.d.toNat}"

/-- The address of the machine itself. -/
def localhost : Ipv4 := ⟨127, 0, 0, 1⟩

end Ipv4

/-- A version-6 address: its eight groups. -/
structure Ipv6 where
  groups : Vector UInt16 8
  deriving DecidableEq, Repr

/-- Consecutive positions in a list. -/
structure Run where
  start : Nat
  length : Nat
  deriving DecidableEq, Repr

namespace Ipv6

/-- The longest run of zeros, the first of several; `best` is the longest so far and `current`
the one that ends at position `i`. -/
def longestZeros (i : Nat) (best current : Run) : List UInt16 → Run
  | [] => best
  | g :: gs =>
    if g = 0 then
      let grown : Run := ⟨if current.length = 0 then i else current.start, current.length + 1⟩
      longestZeros (i + 1) (if best.length < grown.length then grown else best) grown gs
    else longestZeros (i + 1) best ⟨0, 0⟩ gs

/-- Groups between colons. -/
def groupsText (gs : List UInt16) : String :=
  ":".intercalate (gs.map fun g => Text.hexNumber g.toNat)

/-- The version-4 address in the last two groups of an address whose first five groups are zero and
whose sixth is all ones. -/
def mapped? (ip : Ipv6) : Option Ipv4 :=
  match ip.groups.toList with
  | [0, 0, 0, 0, 0, 0xffff, g, h] =>
    some ⟨(g >>> 8).toUInt8, g.toUInt8, (h >>> 8).toUInt8, h.toUInt8⟩
  | _ => none

def text (ip : Ipv6) : String :=
  match ip.mapped? with
  | some v4 => "::ffff:" ++ v4.text
  | none =>
    let gs := ip.groups.toList
    let zeros := longestZeros 0 ⟨0, 0⟩ ⟨0, 0⟩ gs
    if 1 < zeros.length then
      groupsText (gs.take zeros.start) ++ "::" ++ groupsText (gs.drop (zeros.start + zeros.length))
    else groupsText gs

end Ipv6

/-- An address of either version. -/
inductive IpAddress where
  | v4 (ip : Ipv4)
  | v6 (ip : Ipv6)
  deriving DecidableEq, Repr

namespace IpAddress

def text : IpAddress → String
  | v4 ip => ip.text
  | v6 ip => ip.text

end IpAddress

/-- An address and a port; a version-6 address may be confined to a scope. -/
inductive SocketAddress where
  | v4 (ip : Ipv4) (port : UInt16)
  | v6 (ip : Ipv6) (port : UInt16) (scope : UInt32)
  deriving DecidableEq, Repr

namespace SocketAddress

def ofIp (ip : IpAddress) (port : UInt16) : SocketAddress :=
  match ip with
  | .v4 ip => .v4 ip port
  | .v6 ip => .v6 ip port 0

def port : SocketAddress → UInt16
  | v4 _ port => port
  | v6 _ port _ => port

def ip : SocketAddress → IpAddress
  | v4 ip _ => .v4 ip
  | v6 ip _ _ => .v6 ip

/-- The same address with another port. -/
def withPort (a : SocketAddress) (port : UInt16) : SocketAddress :=
  match a with
  | v4 ip _ => v4 ip port
  | v6 ip _ scope => v6 ip port scope

/-- The address without its port, as it stands before the colon. -/
def hostText : SocketAddress → String
  | v4 ip _ => ip.text
  | v6 ip _ scope => if scope = 0 then s!"[{ip.text}]" else s!"[{ip.text}%{scope.toNat}]"

def text (a : SocketAddress) : String :=
  s!"{a.hostText}:{a.port.toNat}"

end SocketAddress

end MessageServer
