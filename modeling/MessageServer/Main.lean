import MessageServer.CommandLine.Launch

/-!
# The program

It runs on a machine that reaches itself and nothing else; the end of standard input takes the place
of the signal that ends it.
-/

namespace MessageServer.CommandLine

/-- Waits for the end of standard input. -/
partial def waitForEnd (input : IO.FS.Stream) : IO Unit := do
  let line ← input.getLine
  if !line.isEmpty then waitForEnd input

/-- Prints what a run leaves behind, while it is under way. -/
def execute (arguments : List String) : IO UInt32 := do
  match launch Host.loopback arguments with
  | .over transcript =>
    for line in transcript.log.map LogEntry.line ++ transcript.output do
      IO.println line
    for complaint in transcript.complaint do
      IO.eprintln complaint
    return transcript.exitCode
  | .serving server log =>
    for entry in log do
      IO.println entry.line
    waitForEnd (← IO.getStdin)
    for entry in shutDown server .terminate do
      IO.println entry.line
    return 0

end MessageServer.CommandLine

def main (arguments : List String) : IO UInt32 :=
  MessageServer.CommandLine.execute arguments
