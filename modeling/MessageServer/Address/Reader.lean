import MessageServer.Address.Ip

/-!
# Reading addresses

Readers of address text.  Each takes characters from the front of a list and answers what it read
and what is left; a text is an address if one reader takes all of it.

Numbers of a version-4 address have at most three digits and no leading zero.  The groups of a
version-6 address have at most four digits, of either case; two colons in a row stand for at least
one group of zeros; the last two groups may be written as a version-4 address.
-/

namespace MessageServer.Address

/-- Reads from the front of the characters. -/
abbrev Reader (α : Type) := List Char → Option (α × List Char)

/-- One given character. -/
def character (c : Char) : Reader Unit
  | [] => none
  | d :: cs => if d = c then some ((), cs) else none

/-- A digit's value in a base of at most 16. -/
def digit? (base : Nat) (c : Char) : Option Nat :=
  (Text.hexValue? c).filter (· < base)

/-- The leading digits, by value, and what is behind them. -/
def digits (base : Nat) : List Char → List Nat × List Char
  | [] => ([], [])
  | c :: cs =>
    match digit? base c with
    | none => ([], c :: cs)
    | some d =>
      let (ds, rest) := digits base cs
      (d :: ds, rest)

/-- The number with the given digits, the first the most significant. -/
def ofDigits (base : Nat) (ds : List Nat) : Nat :=
  ds.foldl (fun n d => n * base + d) 0

/-- A number of at least one and at most `maxDigits` digits, and at most `maxValue`. -/
def number (base maxDigits maxValue : Nat) (leadingZero : Bool) : Reader Nat := fun cs =>
  let (ds, rest) := digits base cs
  let n := ofDigits base ds
  if ds.isEmpty || maxDigits < ds.length || maxValue < n then none
  else if !leadingZero && ds.head? == some 0 && 1 < ds.length then none
  else some (n, rest)

/-- A number of any number of digits, and at most `maxValue`. -/
def longNumber (maxValue : Nat) : Reader Nat := fun cs =>
  number 10 cs.length maxValue true cs

/-- What `read` reads, behind `separator` unless it is the first. -/
def separated {α : Type} (separator : Char) (first : Bool) (read : Reader α) : Reader α := fun cs =>
  if first then read cs
  else do
    let (_, cs) ← character separator cs
    read cs

def octet : Reader UInt8 := fun cs => do
  let (n, cs) ← number 10 3 255 false cs
  return (UInt8.ofNat n, cs)

def ipv4 : Reader Ipv4 := fun cs => do
  let (a, cs) ← octet cs
  let (b, cs) ← separated '.' false octet cs
  let (c, cs) ← separated '.' false octet cs
  let (d, cs) ← separated '.' false octet cs
  return (⟨a, b, c, d⟩, cs)

def group : Reader UInt16 := fun cs => do
  let (n, cs) ← number 16 4 0xffff true cs
  return (UInt16.ofNat n, cs)

/-- The two groups that a version-4 address fills. -/
def groupsOfIpv4 (ip : Ipv4) : List UInt16 :=
  [ip.a.toUInt16 * 256 + ip.b.toUInt16, ip.c.toUInt16 * 256 + ip.d.toUInt16]

/-- As many groups as there are, at most `limit`, where a version-4 address may stand for the last
two.  Answers the groups, whether they end in such an address, and what is left. -/
def groups : (limit : Nat) → (first : Bool) → List Char → List UInt16 × Bool × List Char
  | 0, _, cs => ([], false, cs)
  | limit + 1, first, cs =>
    match if limit = 0 then none else separated ':' first ipv4 cs with
    | some (ip, cs) => (groupsOfIpv4 ip, true, cs)
    | none =>
      match separated ':' first group cs with
      | none => ([], false, cs)
      | some (g, cs) =>
        let (gs, v4, cs) := groups limit false cs
        (g :: gs, v4, cs)

/-- The address that has the groups `front` at its start, `back` at its end, and zeros between. -/
def ipv6OfParts (front back : List UInt16) : Ipv6 :=
  ⟨Vector.ofFn fun i =>
    if i.val < 8 - back.length then front.getD i 0 else back.getD (i - (8 - back.length)) 0⟩

def ipv6 : Reader Ipv6 := fun cs =>
  let (front, v4, cs) := groups 8 true cs
  if front.length = 8 then some (ipv6OfParts front [], cs)
  else if v4 then none
  else do
    let (_, cs) ← character ':' cs
    let (_, cs) ← character ':' cs
    let (back, _, cs) := groups (7 - front.length) true cs
    return (ipv6OfParts front back, cs)

def ip : Reader IpAddress := fun cs =>
  match ipv4 cs with
  | some (a, cs) => some (.v4 a, cs)
  | none => (ipv6 cs).map fun (a, cs) => (.v6 a, cs)

def port : Reader UInt16 := fun cs => do
  let (_, cs) ← character ':' cs
  let (n, cs) ← longNumber 0xffff cs
  return (UInt16.ofNat n, cs)

/-- A scope behind a percent sign; none is scope 0. -/
def scope (cs : List Char) : UInt32 × List Char :=
  let read : Option (UInt32 × List Char) := do
    let (_, cs) ← character '%' cs
    let (n, cs) ← longNumber 0xffffffff cs
    return (UInt32.ofNat n, cs)
  read.getD (0, cs)

def socketAddressV4 : Reader SocketAddress := fun cs => do
  let (a, cs) ← ipv4 cs
  let (p, cs) ← port cs
  return (.v4 a p, cs)

def socketAddressV6 : Reader SocketAddress := fun cs => do
  let (_, cs) ← character '[' cs
  let (a, cs) ← ipv6 cs
  let (s, cs) := scope cs
  let (_, cs) ← character ']' cs
  let (p, cs) ← port cs
  return (.v6 a p s, cs)

def socketAddress : Reader SocketAddress := fun cs =>
  match socketAddressV4 cs with
  | some r => some r
  | none => socketAddressV6 cs

/-- What `read` makes of a whole text. -/
def whole {α : Type} (read : Reader α) (s : String) : Option α :=
  match read s.toList with
  | some (a, []) => some a
  | _ => none

end MessageServer.Address

namespace MessageServer

/-- Why a text is no address. -/
inductive AddressError where
  | notAnIpAddress
  | notASocketAddress
  deriving DecidableEq, Repr

namespace AddressError

def message : AddressError → String
  | notAnIpAddress => "invalid IP address syntax"
  | notASocketAddress => "invalid socket address syntax"

end AddressError

namespace IpAddress

/-- The address that a text writes. -/
def read (s : String) : Except AddressError IpAddress :=
  match Address.whole Address.ip s with
  | some a => .ok a
  | none => .error .notAnIpAddress

end IpAddress

namespace SocketAddress

/-- The address and port that a text writes. -/
def read (s : String) : Except AddressError SocketAddress :=
  match Address.whole Address.socketAddress s with
  | some a => .ok a
  | none => .error .notASocketAddress

end SocketAddress

end MessageServer
