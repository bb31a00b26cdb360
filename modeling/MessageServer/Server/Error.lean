import MessageServer.Config
import MessageServer.Pool
import MessageServer.SystemError

/-!
# Why a server does not run

The causes for which a server is not bound or not started, and their wording.
-/

namespace MessageServer

/-- Why a server is not bound or not started. -/
inductive ServerError where
  | invalidConfig (reason : String)
  /-- The listening socket cannot be made. -/
  | bind (address : SocketAddress) (source : SystemError)
  /-- The readiness queue cannot be made. -/
  | unwatchable (source : SystemError)
  /-- The readiness queue does not take the listening socket. -/
  | registerListener (source : SystemError)
  | spawn (source : SystemError)
  | alreadyRunning
  | shutdown
  /-- The buffer pools cannot be made. -/
  | pools (cause : PoolError)
  deriving DecidableEq

namespace ServerError

/-- The error of the operating system behind it, if there is one. -/
def source? : ServerError → Option SystemError
  | bind _ e | unwatchable e | registerListener e | spawn e => some e
  | _ => none

/-- The cause in words. -/
def message : ServerError → String
  | invalidConfig reason => s!"invalid configuration: {reason}"
  | bind a e => s!"failed to create listening socket on {a.text}: {e.text}"
  | unwatchable e => s!"failed to create readiness descriptor: {e.text}"
  | registerListener e => s!"failed to register listener with readiness descriptor: {e.text}"
  | spawn e => s!"failed to spawn worker thread: {e.text}"
  | alreadyRunning => "server is already running"
  | shutdown => "server has been shut down"
  | pools cause => cause.message

end ServerError

end MessageServer
