import SessionBroker.Config.Basic
import SessionBroker.Form.Domain
import SessionBroker.Form.Rule
import SessionBroker.Json.Printer
import SessionBroker.Json.Reader
import SessionBroker.Toml.Reader

/-!
# SessionBroker.Config.File — configuration texts and files

* `Format.ofPath`: a file is JSON if its extension is `json` in any case, else TOML.
* `parse`: reads a text in either format.  It does not check what the configuration says.
* `RoutingConfig.load`, `RuntimeConfig.load`: read a file and check the configuration; a missing file stands for the
  default configuration.
-/

namespace SessionBroker

inductive Format where
  | toml
  | json
  deriving DecidableEq, Repr

namespace Format

/-- The last part of a path that names something, if there is one. -/
def fileName? (path : List Char) : Option (List Char) :=
  ((path.splitOn '/').filter fun part => part ≠ [] ∧ part ≠ ['.']).getLast?

/-- The part of a file name behind its last point.  A point at the beginning counts as part of the name. -/
def extension? (name : List Char) : Option (List Char) :=
  match name with
  | [] => none
  | c :: rest =>
    if c :: rest = ['.', '.'] then none
    else if rest.contains '.' then some (rest.reverse.takeWhile (· != '.')).reverse
    else none

/-- The format of the file at a path. -/
def ofPath (path : String) : Format :=
  match fileName? path.toList >>= extension? with
  | some ext => if ext.map Char.toLower = "json".toList then .json else .toml
  | none => .toml

end Format

/-- Something that is read from a text of either format. -/
class Readable (α : Type) where
  read? {δ : Type} [BufferedDocument δ] : δ → Option α

def parse (α : Type) [Readable α] (format : Format) (text : String) : Except ConfigError α :=
  let value? : Option α :=
    match format with
    | .json => Json.parse? text >>= Readable.read?
    | .toml => Toml.parse? text >>= Readable.read?
  match value? with
  | some v => .ok v
  | none => .error .parseFailed

open Document

namespace RoutingConfig

instance : Readable RoutingConfig where
  read? d :=
    match fields? ["routes"] d with
    | some [rules] => (orElse [] (list? Rule.read?) rules).map RoutingConfig.mk
    | _ => none

def toJson (c : RoutingConfig) : Json := .ofMembers [("routes", .list (c.rules.map Rule.toJson))]

end RoutingConfig

namespace ReportConfig

def read? {δ : Type} [Document δ] (d : δ) : Option ReportConfig :=
  match fields? ["enabled", "include_resources"] d with
  | some [enabled, includeResources] => do
    return ⟨← orElse true bool? enabled, ← orElse none (option? bool?) includeResources⟩
  | _ => none

/-- The JSON form of report options.  An option that is not set is left out. -/
def toJson (c : ReportConfig) : Json :=
  .ofMembers (("enabled", .bool c.enabled) ::
    match c.includeResources with
    | some b => [("include_resources", .bool b)]
    | none => [])

end ReportConfig

namespace RuntimeConfig

instance : Readable RuntimeConfig where
  read? d :=
    match fields? ["parent_retry_limit", "default_ram_quota", "default_cap_quota", "report", "routes"] d with
    | some [limit, ram, caps, report, rules] => do
      let retryLimit ← orElse defaultRetryLimit word? limit
      let ram ← orElse 0 word? ram
      let caps ← orElse 0 word? caps
      let report ← orElse {} ReportConfig.read? report
      let rules ← orElse [] (list? Rule.read?) rules
      return { retryLimit, defaultQuota := ⟨ram, caps⟩, report, rules }
    | _ => none

def toJson (c : RuntimeConfig) : Json :=
  .ofMembers [("parent_retry_limit", c.retryLimit.toJson), ("default_ram_quota", c.defaultQuota.ram.toJson),
    ("default_cap_quota", c.defaultQuota.caps.toJson), ("report", c.report.toJson),
    ("routes", .list (c.rules.map Rule.toJson))]

end RuntimeConfig

inductive FileState where
  | missing
  | text (s : String)
  /-- Something that cannot be read as a text, such as a directory. -/
  | unreadable
  deriving DecidableEq

/-- Read the file at a path. -/
def readFile (α : Type) [Readable α] (path : String) : FileState → Except ConfigError α
  | .text s => parse α (Format.ofPath path) s
  | .missing | .unreadable => .error .loadFailed

/-- Load a routing configuration.  Without a file every request will be denied. -/
def RoutingConfig.load (path : String) (file : FileState) : Except ConfigError RoutingConfig := do
  let c ← if file = .missing then .ok {} else readFile RoutingConfig path file
  c.check
  return c

/-- Load a runtime configuration. -/
def RuntimeConfig.load (path : String) (file : FileState) : Except ConfigError RuntimeConfig :=
  if file = .missing then .ok {}
  else do
    let c ← readFile RuntimeConfig path file
    c.check
    return c

end SessionBroker
