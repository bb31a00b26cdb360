import MessageServer.Config

/-!
# Options

The options of the program: settings, which take a value, and switches, which take none.  Each has a
long name behind two dashes, and some have a letter behind one.  The help lists them all.
-/

namespace MessageServer.CommandLine

/-- An option that takes a value. -/
inductive Setting where
  | ip | port | threads | poolSize | maxConnections | statsInterval
  deriving DecidableEq, Repr

namespace Setting

/-- All settings, in the order of the help. -/
def all : List Setting :=
  [ip, port, threads, poolSize, maxConnections, statsInterval]

def long : Setting → String
  | ip => "ip"
  | port => "port"
  | threads => "threads"
  | poolSize => "pool-size"
  | maxConnections => "max-connections"
  | statsInterval => "stats-interval-ms"

def letter? : Setting → Option Char
  | port => some 'p'
  | threads => some 't'
  | _ => none

/-- What stands for the value in the help. -/
def placeholder : Setting → String
  | ip => "IP"
  | port => "PORT"
  | threads => "THREADS"
  | poolSize => "POOL_SIZE"
  | maxConnections => "MAX_CONNECTIONS"
  | statsInterval => "STATS_INTERVAL_MS"

/-- How the setting is written with its value. -/
def usage (s : Setting) : String :=
  s!"--{s.long} <{s.placeholder}>"

def about? : Setting → Option String
  | ip => some "Address to listen on"
  | threads => some "Worker threads"
  | poolSize => some "Slots in each of the send and receive pools"
  | statsInterval => some "Stats log period in milliseconds; 0 disables"
  | port | maxConnections => none

/-- The value of a setting that is not given. -/
def defaultText : Setting → String
  | ip => Config.default.bindAddress.text
  | port => toString Config.default.port
  | threads => toString Config.default.workers
  | poolSize => toString Config.default.poolSize
  | maxConnections => toString Config.default.maxConnections
  | statsInterval => toString ((Config.default.statsInterval.getD 0) / Config.millisecond)

end Setting

/-- An option that takes no value. -/
inductive Switch where
  | pinWorkers | help | version
  deriving DecidableEq, Repr

namespace Switch

/-- All switches, in the order of the help. -/
def all : List Switch :=
  [pinWorkers, help, version]

def long : Switch → String
  | pinWorkers => "pin-workers"
  | help => "help"
  | version => "version"

def letter? : Switch → Option Char
  | pinWorkers => none
  | help => some 'h'
  | version => some 'V'

def usage (s : Switch) : String :=
  s!"--{s.long}"

def about : Switch → String
  | pinWorkers => "Pin each worker to its own core"
  | help => "Print help"
  | version => "Print version"

end Switch

/-! ## Help -/

def programName : String := "quiver-server"

def programVersion : String := "0.1.0"

/-- An option in the help: the way it is written, and below what it does. -/
def helpEntry (letter : Option Char) (usage about : String) : List String :=
  let lead := match letter with
    | some c => s!"  -{c}, "
    | none => "      "
  [lead ++ usage, "          " ++ about]

/-- The help, line by line. -/
def help : List String :=
  let head := ["Low-latency fixed-format message server", "", s!"Usage: {programName} [OPTIONS]"]
  let settings := Setting.all.flatMap fun s =>
    let about := s.about?.toList ++ [s!"[default: {s.defaultText}]"]
    helpEntry s.letter? s.usage (" ".intercalate about)
  let switches := Switch.all.flatMap fun s => helpEntry s.letter? s.usage s.about
  head ++ ["", "Options:"] ++ settings ++ switches

/-- The line that tells the version. -/
def version : String :=
  s!"{programName} {programVersion}"

end MessageServer.CommandLine
