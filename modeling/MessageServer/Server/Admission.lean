import MessageServer.Server.Basic

/-!
# Admitting and closing connections

An accepted socket is configured, registered, made active, announced and counted, and only then
watched, so that no event can arrive for a connection that is not active.  A socket that cannot be
configured or registered is let go; one that cannot be watched is undone.

A closing leaves the readiness queue before the registry lets go of the connection.  It happens
once: closing a connection that is on its way out does nothing.
-/

namespace MessageServer

/-- An accepted socket, and which calls on it fail. -/
structure Incoming where
  descriptor : Descriptor
  peer : SocketAddress
  now : UInt64
  stream : Stream
  configureError? : Option SystemError
  watchError? : Option SystemError
  deriving DecidableEq

/-- What became of an accepted socket. -/
inductive Admission where
  | admitted (k : Nat)
  | unwatched (k : Nat)
  | refused (error : RegistryError)
  | unconfigured (error : SystemError)
  deriving DecidableEq, Repr

namespace Server

/-- What is registered for an accepted socket. -/
def openingOf (s : Server) (i : Incoming) : Opening :=
  ⟨i.descriptor, i.peer, s.config.authenticateOnAccept, i.now, i.stream⟩

/-- Whether the readiness queue will take the socket. -/
def watchFails (s : Server) (i : Incoming) : Bool :=
  i.watchError?.isSome || s.watchlist.watching i.descriptor

/-- What will become of an accepted socket. -/
def admissionOf (s : Server) (i : Incoming) : Admission :=
  match i.configureError? with
  | some e => .unconfigured e
  | none =>
    match (s.registry.register (s.openingOf i)).1 with
    | .error e => .refused e
    | .ok c => if s.watchFails i then .unwatched c.serial else .admitted c.serial

/-- The steps of an admission. -/
def admissionSteps (s : Server) (i : Incoming) : List Step :=
  match s.admissionOf i with
  | .unconfigured _ => []
  | .refused _ => [.register (s.openingOf i)]
  | .admitted k =>
    [.register (s.openingOf i), .activate k, .notifyOpened k, .countOpened, .watch k]
  | .unwatched k =>
    [.register (s.openingOf i), .activate k, .notifyOpened k, .countOpened,
      .unregister k, .beginClose k, .markClosed k, .notifyClosed k, .countClosed, .drop k]

/-- Takes an accepted socket in. -/
def accept (s : Server) (i : Incoming) : Admission × Server :=
  (s.admissionOf i, s.run (s.admissionSteps i))

/-- The steps that close a connection, none if it is on its way out already. -/
def closingSteps (s : Server) (k : Nat) : List Step :=
  match s.connection? k with
  | none => []
  | some c =>
    if c.state.isOpen then
      [.beginClose k, .unwatch k, .unregister k, .shutdown k, .markClosed k, .notifyClosed k,
        .countClosed, .drop k]
    else []

/-- Closes a connection and answers whether this call did. -/
def closeConnection (s : Server) (k : Nat) : Bool × Server :=
  let steps := s.closingSteps k
  (!steps.isEmpty, s.run steps)

end Server

end MessageServer
