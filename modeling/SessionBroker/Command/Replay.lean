import SessionBroker.Broker.Report
import SessionBroker.Broker.Run
import SessionBroker.Command.Basic
import SessionBroker.Command.Script

/-!
# SessionBroker.Command.Replay — carrying out a script

`Command.replay` gives the requests of a script to a broker and prints the report on its sessions.  The local services
refuse sessions without RAM, and the parent grants every session and declines every request for resources.
-/

namespace SessionBroker

namespace ScriptRequest

/-- The operation on a broker that a request asks for. -/
def toOp : ScriptRequest → Broker.Op
  | .create id service args => .create id service args default
  | .upgrade id q => .upgrade id q
  | .close id => .close id
  | .reap => .reap

end ScriptRequest

namespace Script

/-- The surroundings in which a script is carried out. -/
def env (s : Script) : Env where
  bank := ⟨[⟨"env", s.account⟩, ⟨"parent", 0⟩]⟩
  own := 0
  parent := { account := some 1 }

/-- A local service that refuses sessions without RAM. -/
def service (name : String) : Service := .made { name, factory := .scripted [] ⟨1, 0⟩ }

/-- The operations of a script: services are registered before the first request. -/
def ops (s : Script) : List Broker.Op :=
  s.services.map (fun n => .registerLocal (service n)) ++ s.requests.map ScriptRequest.toOp

/-- The broker after a script. -/
def outcome (s : Script) (config : RuntimeConfig) : Broker := (Broker.start s.env config).run s.ops

end Script

/-- Carry out a script and print the report, unless reports are disabled. -/
def Command.replay (generatedAt : String) (config script : File) : Except Failure String := do
  let c ← loadConfig config
  match readFile Script script.path script.state with
  | .error e => .error (loadFailure "script" script.path e)
  | .ok s => return if c.report.enabled then lines [(s.outcome c).report generatedAt] else ""

end SessionBroker
