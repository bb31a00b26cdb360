import MessageServer.CommandLine.Arguments
import MessageServer.Log
import MessageServer.Server.Lifecycle
import MessageServer.Text.Decimal
import MessageServer.Text.Lines

/-!
# Runs of the program

A run answers help or version, complains about its arguments, fails to bind its server, or serves
until a signal ends it.  `Transcript` is what a whole run leaves behind.
-/

namespace MessageServer.CommandLine

/-- A signal that ends the program. -/
inductive Signal where
  | interrupt | terminate
  deriving DecidableEq, Repr

namespace Signal

def number : Signal → Nat
  | interrupt => 2
  | terminate => 15

end Signal

/-- What a run leaves behind. -/
structure Transcript where
  exitCode : UInt32
  log : List LogEntry
  output : List String
  complaint : Option String
  deriving DecidableEq, Repr

/-- What a run complains of, in one line. -/
def Transcript.summary (t : Transcript) : Option String :=
  t.complaint.map Text.firstLine

/-! ## Log entries -/

/-- A server listens. -/
def boundEntry (address : SocketAddress) (config : Config) : LogEntry :=
  ⟨.info, "server bound",
    [("local_addr", address.text), ("workers", toString config.workers),
      ("pool", toString config.poolSize)]⟩

/-- The workers run. -/
def startedEntry (s : Server) : LogEntry :=
  ⟨.info, "server started", [("addr", s.address.text), ("workers", toString s.workers)]⟩

def listeningEntry (s : Server) : LogEntry :=
  ⟨.info, "listening, press Ctrl+C to stop", [("addr", s.address.text)]⟩

def signalEntry (signal : Signal) : LogEntry :=
  ⟨.info, "shutdown signal received", [("signal", toString signal.number)]⟩

/-- A server has stopped. -/
def stoppedEntry (c : Counters) : LogEntry :=
  ⟨.info, "server stopped",
    [("messages", toString c.messages), ("peak", toString c.peak),
      ("avg_latency_ns", Text.float c.meanLatency)]⟩

/-- The counts at the end, mean latencies in microseconds. -/
def statisticsEntry (c : Counters) : LogEntry :=
  ⟨.info, "final statistics",
    [("messages", toString c.messages), ("dropped", toString c.dropped),
      ("short_reads", toString c.shortReads), ("send_failures", toString c.sendFailures),
      ("peak_connections", toString c.peak), ("total_connections", toString c.connections),
      ("avg_latency_us", Text.float (c.meanLatency / 1000.0)),
      ("avg_wire_latency_us", Text.float (c.meanWireLatency / 1000.0))]⟩

/-- A server is not bound or not started. -/
def failureEntry (message : String) (e : ServerError) : LogEntry :=
  ⟨.error, message, [("error", e.message)]⟩

/-! ## Runs -/

/-- How a run begins: it is over at once, or a server runs. -/
inductive Launch where
  | over (transcript : Transcript)
  | serving (server : Server) (log : List LogEntry)

/-- A run that only logs, and fails. -/
def failed (log : List LogEntry) : Launch :=
  .over ⟨1, log, [], none⟩

/-- Binds and starts a server.  The program breaks off where the pools cannot be made; the socket
listens by then. -/
def serve (host : Host) (config : Config) : Launch :=
  match Server.bind host config HandlerTable.default with
  | .error (.pools e) =>
    let address := Server.boundAddress host config.socketAddress
    .over ⟨101, [boundEntry address config], [], some e.message⟩
  | .error e => failed [failureEntry "failed to bind server" e]
  | .ok bound =>
    let listening := boundEntry bound.address config
    match bound.start fun _ => none with
    | (.error e, _) => failed [listening, failureEntry "failed to start server" e]
    | (.ok (), server) => .serving server [listening, startedEntry server, listeningEntry server]

/-- Does what the arguments ask for. -/
def launch (host : Host) (arguments : List String) : Launch :=
  match invocation arguments with
  | .error e => .over ⟨2, [], [], some s!"error: {e.message}"⟩
  | .ok .help => .over ⟨0, [], help, none⟩
  | .ok .version => .over ⟨0, [], [version], none⟩
  | .ok (.serve config) => serve host config

/-- What is logged when a signal ends a run. -/
def shutDown (server : Server) (signal : Signal) : List LogEntry :=
  let counters := server.stop.counters
  [signalEntry signal, stoppedEntry counters, statisticsEntry counters]

/-- A whole run, ended by a signal if it serves. -/
def run (host : Host) (arguments : List String) (signal : Signal) : Transcript :=
  match launch host arguments with
  | .over transcript => transcript
  | .serving server log => ⟨0, log ++ shutDown server signal, [], none⟩

end MessageServer.CommandLine
