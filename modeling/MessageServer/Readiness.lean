import MessageServer.Connection.Basic

/-!
# Readiness

The readiness queue watches descriptors and hands back the token a descriptor was added with.  A
descriptor is watched at most once.
-/

namespace MessageServer

/-- A watched descriptor and the token of its events. -/
structure Watch where
  descriptor : Descriptor
  token : Token
  /-- An event is given once for every change, not as long as the condition holds. -/
  edgeTriggered : Bool
  deriving DecidableEq, Repr

/-- The watched descriptors. -/
structure Watchlist where
  watches : List Watch
  deriving DecidableEq, Repr

namespace Watchlist

/-- Nothing is watched. -/
def empty : Watchlist := ⟨[]⟩

def watching (l : Watchlist) (d : Descriptor) : Bool :=
  l.watches.any (·.descriptor == d)

/-- Starts watching a descriptor that is not watched yet. -/
def add (l : Watchlist) (w : Watch) : Except SystemError Watchlist :=
  if l.watching w.descriptor then .error .fileExists else .ok ⟨w :: l.watches⟩

/-- Stops watching a descriptor. -/
def delete (l : Watchlist) (d : Descriptor) : Watchlist :=
  ⟨l.watches.filter (·.descriptor != d)⟩

end Watchlist

/-- What the readiness queue says about a token. -/
structure Event where
  token : Token
  flags : UInt32
  deriving DecidableEq, Repr

namespace Event

/-- There is something to read. -/
def readable (e : Event) : Bool :=
  e.flags &&& 0x1 != 0

/-- The peer has closed its side, or the whole connection. -/
def hangup (e : Event) : Bool :=
  e.flags &&& 0x2010 != 0

def error (e : Event) : Bool :=
  e.flags &&& 0x8 != 0

end Event

end MessageServer
