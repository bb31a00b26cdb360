import MessageServer.Server.Lifecycle

/-!
# Sessions

A server together with the clients that talk to it, for trying it out.  Clients go by name.  A
client connects, sends, receives and leaves; the server takes in what it has to before the next
command.

A client that connects to a server that does not run yet waits, with all that it sends, until the
server starts; waiting clients are then admitted in the order in which they connected.
-/

namespace MessageServer

/-- A client of a server. -/
inductive Client where
  /-- Not accepted yet; the stream holds what it has sent. -/
  | waiting (stream : Stream)
  | admitted (k : Nat)
  | refused
  deriving DecidableEq

/-- How a client ends its connection. -/
inductive Departure where
  /-- It closes its end; what it has not read by then turns this into a reset. -/
  | close
  | reset
  /-- It stops sending and goes on receiving. -/
  | endSending
  deriving DecidableEq, Repr

/-- What is done to the server or by a client. -/
inductive Command where
  | start
  | stop
  | connect (name : String)
  | send (name : String) (bytes : List UInt8)
  | receive (name : String)
  | leave (name : String) (departure : Departure)
  | flood (name : String) (record : Record)
  | bindAgain

/-- What a command answers. -/
inductive Answer where
  | started | stopped | admitted | refused | queued | sent | nothing | endOfStream | bound
  | noSuchClient
  | received (bytes : List UInt8)
  | closed (clientId : UInt64) (reason : CloseReason)
  | flooded (clientId : UInt64) (reason : CloseReason) (records : Nat)
  | failed (error : ServerError)
  | ioFailed (error : IoError)

/-- A server and its clients, the one that connected last in front. -/
structure Session where
  host : Host
  readings : Readings
  server : Server
  clients : List (String × Client)
  nextDescriptor : Descriptor

namespace Session

/-- A bound server without clients. -/
def new (host : Host) (readings : Readings) (server : Server) : Session :=
  ⟨host, readings, server, [], listenerDescriptor + 1⟩

def client? (s : Session) (name : String) : Option Client :=
  s.clients.lookup name

def setClient (s : Session) (name : String) (c : Client) : Session :=
  { s with clients := (name, c) :: s.clients.filter (·.1 != name) }

def removeClient (s : Session) (name : String) : Session :=
  { s with clients := s.clients.filter (·.1 != name) }

/-- The event of a connection on which something has happened. -/
def eventOf (c : Connection) : Event :=
  let failed := c.stream.incoming.any fun a => match a with
    | .failed _ => true
    | _ => false
  ⟨c.id.toToken, if failed then 0x2019 else if c.stream.ended then 0x2001 else 0x1⟩

/-- The server serves the connection with serial number `k`. -/
def serve (s : Session) (k : Nat) : Option CloseReason × Session :=
  match s.server.connection? k with
  | none => (none, s)
  | some c =>
    let worker := k % max 1 s.server.workers
    let (reason, server, _) := s.server.service worker (fun _ => s.readings) (eventOf c)
    (reason, { s with server := server.housekeep 0 })

/-- The server accepts a client. -/
def accept (s : Session) (name : String) (stream : Stream) : Admission × Session :=
  let port := UInt16.ofNat (s.nextDescriptor.toNat + 40000)
  let incoming : Incoming :=
    ⟨s.nextDescriptor, .v4 Ipv4.localhost port, s.readings.received, stream, none, none⟩
  let (admission, server) := s.server.accept incoming
  let s := { s with server, nextDescriptor := s.nextDescriptor + 1 }
  match admission with
  | .admitted k => (admission, s.setClient name (.admitted k))
  | _ => (admission, s)

/-- The server accepts the clients that wait, and serves what they have sent. -/
def acceptWaiting (s : Session) : Session :=
  s.clients.reverse.foldl (fun s (name, c) =>
    match c with
    | .waiting stream =>
      match s.accept name stream with
      | (.admitted k, s) => if stream = Stream.fresh then s else (s.serve k).2
      | (_, s) => s.setClient name .refused
    | _ => s) s

/-- Changes the stream of the connection with serial number `k`. -/
def onStream (s : Session) (k : Nat) (f : Stream → Stream) : Session :=
  { s with server := s.server.updateConnection k fun c => { c with stream := f c.stream } }

def connect (s : Session) (name : String) : Answer × Session :=
  match s.host.connectError? with
  | some e => (.ioFailed (.system e), s)
  | none =>
    if !s.server.listening then (.ioFailed (.system .connectionRefused), s)
    else if !s.server.running then (.queued, s.setClient name (.waiting Stream.fresh))
    else
      match s.accept name Stream.fresh with
      | (.admitted _, s) => (.admitted, s)
      | (_, s) => (.refused, s)

def send (s : Session) (name : String) (bytes : List UInt8) : Answer × Session :=
  match s.client? name with
  | none => (.noSuchClient, s)
  | some (.waiting stream) => (.queued, s.setClient name (.waiting (stream.deliver bytes)))
  | some .refused => (.ioFailed (.system .brokenPipe), s)
  | some (.admitted k) => (.sent, ((s.onStream k (·.deliver bytes)).serve k).2)

/-- Takes the next record off what the server wrote. -/
def receive (s : Session) (name : String) : Answer × Session :=
  match s.client? name with
  | none => (.noSuchClient, s)
  | some (.waiting _) => (if s.server.listening then .nothing else .endOfStream, s)
  | some .refused => (.endOfStream, s)
  | some (.admitted k) =>
    match s.server.connection? k with
    | none => (.endOfStream, s)
    | some c =>
      let got := c.stream.outgoing.take Record.size
      if got = [] then (if c.stream.shutDown then .endOfStream else .nothing, s)
      else
        (.received got,
          s.onStream k fun stream => { stream with outgoing := stream.outgoing.drop Record.size })

/-- What a departure does to the server's end of the stream. -/
def departed (d : Departure) (stream : Stream) : Stream :=
  let reset := { stream.leave with incoming := [.failed .connectionReset] }
  match d with
  | .reset => reset
  | .close => if stream.outgoing = [] then stream.leave else reset
  | .endSending => stream.endOfPeer

def leave (s : Session) (name : String) (d : Departure) : Answer × Session :=
  let gone (s : Session) : Session := if d = .endSending then s else s.removeClient name
  match s.client? name with
  | none => (.noSuchClient, s)
  | some (.waiting stream) => (.queued, s.setClient name (.waiting (departed d stream)))
  | some .refused => (.nothing, gone s)
  | some (.admitted k) =>
    let (reason, s) := (s.onStream k (departed d)).serve k
    match reason, s.server.connection? k with
    | some reason, some c => (.closed c.clientId reason, gone s)
    | _, _ => (.nothing, gone s)

/-- Sends a record at most `limit` times, until the server closes the connection. -/
def floodLoop (k : Nat) (record : Record) (sent : Nat) :
    (limit : Nat) → Session → Option CloseReason × Nat × Session
  | 0, s => (none, sent, s)
  | limit + 1, s =>
    match (s.onStream k (·.deliver record.toBytes)).serve k with
    | (none, s) => floodLoop k record (sent + 1) limit s
    | (some reason, s) => (some reason, sent + 1, s)

def flood (s : Session) (name : String) (record : Record) : Answer × Session :=
  match s.client? name with
  | some (.admitted k) =>
    let s := s.onStream k (·.stall s.host.sendBacklog)
    match floodLoop k record 0 (s.host.sendBacklog + 1) s, s.server.connection? k with
    | (some reason, sent, s), some c => (.flooded c.clientId reason sent, s)
    | (_, _, s), _ => (.nothing, s)
  | some _ => (.nothing, s)
  | none => (.noSuchClient, s)

/-- Carries out a command. -/
def step (s : Session) : Command → Answer × Session
  | .start =>
    match s.server.start fun _ => none with
    | (.ok (), server) => (.started, { s with server }.acceptWaiting)
    | (.error e, server) => (.failed e, { s with server })
  | .stop => (.stopped, { s with server := s.server.stop })
  | .connect name => s.connect name
  | .send name bytes => s.send name bytes
  | .receive name => s.receive name
  | .leave name d => s.leave name d
  | .flood name record => s.flood name record
  | .bindAgain =>
    match s.server.bindAgain s.host with
    | .ok _ => (.bound, s)
    | .error e => (.failed e, s)

end Session

end MessageServer
