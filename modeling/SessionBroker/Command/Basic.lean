import SessionBroker.Config.File

/-!
# SessionBroker.Command.Basic — inspecting a configuration

* `Command.resolve`: where a request would be forwarded.
* `Command.validate`: a summary of a configuration.

A command takes what stands at its paths, and gives the text it prints or the reasons of its failure.
-/

namespace SessionBroker

structure Failure where
  /-- The fault of a configuration or of a script, if it was one. -/
  cause : Option ConfigError
  /-- What was attempted, from the outermost attempt inwards. -/
  chain : List String
  deriving DecidableEq

namespace Command

structure File where
  path : String
  state : FileState

/-- A fault in a file, as the innermost reason. -/
def reason (path : String) : ConfigError → String
  | .loadFailed => s!"Failed to read configuration file: {path}"
  | .parseFailed => s!"Failed to parse configuration file: {path}"
  | .invalid text => s!"Invalid configuration: {text}"

/-- A file of some kind that could not be loaded. -/
def loadFailure (kind path : String) (e : ConfigError) : Failure where
  cause := some e
  chain := [s!"failed to load {kind} from {path}", reason path e]

def loadConfig (file : File) : Except Failure RuntimeConfig :=
  if file.state = .missing then
    .error { cause := none, chain := [s!"configuration file not found: {file.path}"] }
  else
    match RuntimeConfig.load file.path file.state with
    | .ok c => .ok c
    | .error e => .error (loadFailure "configuration" file.path e)

def lines (ls : List String) : String := String.join (ls.map (· ++ "\n"))

def routeLines (r : Route) : List String :=
  [r.target.text, s!"  rule:    {r.rule}", s!"  service: {r.service}", s!"  label:   \"{r.label.text}\""]

/-- Print where a request would be forwarded. -/
def resolve (config : File) (service : String) (label : Label) : Except Failure String := do
  let c ← loadConfig config
  return lines <|
    match SessionBroker.resolve c.rules service label with
    | .ok r => routeLines r
    | .error _ => ["denied"]

/-- Print a summary of a configuration. -/
def validate (config : File) : Except Failure String := do
  let c ← loadConfig config
  return lines <|
    [s!"configuration valid: {config.path}", s!"  parent retry limit: {c.retryLimit}", s!"  routes: {c.rules.length}"] ++
      c.rules.zipIdx.map fun e => s!"    {e.2}: {e.1.text}"

end Command

end SessionBroker
