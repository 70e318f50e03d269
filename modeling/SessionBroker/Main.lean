import SessionBroker.Command.Replay
import SessionBroker.Instant

/-!
# SessionBroker.Main — the command line

* `resolve --config FILE --service NAME [--label LABEL]`: where a request would be forwarded.
* `validate --config FILE`: a summary of a configuration.
* `replay --config FILE --script FILE`: the sessions after a script of requests.
-/

namespace SessionBroker

inductive CommandLine where
  | resolve (config service label : String)
  | validate (config : String)
  | replay (config script : String)
  deriving DecidableEq

namespace CommandLine

/-- The values of options, each written as its name and its value. -/
def options? : List String → Option (List (String × String))
  | [] => some []
  | name :: value :: rest => (options? rest).map ((name, value) :: ·)
  | [_] => none

/-- Read a command line. -/
def parse? : List String → Option CommandLine
  | [] => none
  | command :: rest => do
    let options ← options? rest
    let config ← options.lookup "--config"
    match command with
    | "resolve" =>
      let service ← options.lookup "--service"
      return .resolve config service ((options.lookup "--label").getD "")
    | "validate" => return .validate config
    | "replay" =>
      let script ← options.lookup "--script"
      return .replay config script
    | _ => none

/-- How the program is called. -/
def usage : String :=
  Command.lines
    ["usage: resolve --config FILE --service NAME [--label LABEL]", "       validate --config FILE",
      "       replay --config FILE --script FILE"]

end CommandLine

def readState (path : String) : IO FileState := do
  try
    let bytes ← IO.FS.readBinFile path
    return ((String.fromUTF8? bytes).map FileState.text).getD .unreadable
  catch
    | .noFileOrDirectory .. => return .missing
    | _ => return .unreadable

def readFileAt (path : String) : IO Command.File := return ⟨path, ← readState path⟩

/-- The first number on the first line of a file that begins with a word, zero if there is none. -/
def readNumber (path word : String) : IO Nat := do
  let content ← try IO.FS.readFile path catch _ => pure ""
  let line := ((content.splitOn "\n").find? fun l => l.startsWith word).getD ""
  let digits := (line.toList.dropWhile fun c => !c.isDigit).takeWhile Char.isDigit
  return (Text.number? digits).getD 0

/-- The time of the system clock: the time of its start and the seconds since. -/
def now : IO Instant := return ⟨(← readNumber "/proc/stat" "btime") + (← readNumber "/proc/uptime" "")⟩

def CommandLine.run : CommandLine → IO (Except Failure String)
  | .resolve config service label => return Command.resolve (← readFileAt config) service ⟨label⟩
  | .validate config => return Command.validate (← readFileAt config)
  | .replay config script =>
    return Command.replay (← now).text (← readFileAt config) (← readFileAt script)

/-- The text of a failure: the outermost reason, and the ones behind it. -/
def Failure.text (f : Failure) : String :=
  match f.chain with
  | [] => "Error"
  | [reason] => s!"Error: {reason}"
  | reason :: causes => s!"Error: {reason}\n\nCaused by:\n" ++ "\n".intercalate (causes.map fun c => s!"    {c}")

/-- Carry out the command that some arguments write, and print what comes of it. -/
def CommandLine.execute (args : List String) : IO UInt32 := do
  match parse? args with
  | none =>
    IO.eprint usage
    return 2
  | some command =>
    match ← command.run with
    | .ok out =>
      IO.print out
      return 0
    | .error f =>
      IO.eprintln f.text
      return 1

end SessionBroker

def main (args : List String) : IO UInt32 := SessionBroker.CommandLine.execute args
