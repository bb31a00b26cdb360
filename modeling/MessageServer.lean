import MessageServer.Main
import MessageServer.Proofs.Counters.History
import MessageServer.Proofs.Dispatch.Accounting
import MessageServer.Proofs.Dispatch.Routing
import MessageServer.Proofs.Drain.Replies
import MessageServer.Proofs.Latency.Conservation
import MessageServer.Proofs.Latency.Percentiles
import MessageServer.Proofs.Pool.Contents
import MessageServer.Proofs.Record.Bodies
import MessageServer.Proofs.Record.Stamping
import MessageServer.Proofs.Record.Symbols
import MessageServer.Proofs.Registry.Consistency
import MessageServer.Proofs.Registry.Directory
import MessageServer.Proofs.Registry.Draining
import MessageServer.Proofs.Registry.Generations
import MessageServer.Proofs.Registry.Growth
import MessageServer.Proofs.Registry.Registration
import MessageServer.Proofs.Registry.Renaming
import MessageServer.Proofs.Ring.Queue
import MessageServer.Proofs.Server.Accounts
import MessageServer.Proofs.Server.Phases
import MessageServer.Proofs.Server.Readiness
import MessageServer.Proofs.Server.Serving
import MessageServer.Record.Stamper
import MessageServer.Session
