import SessionBroker.Routing.Router

/-!
# SessionBroker.Config.Basic — configurations

* `RoutingConfig`: a list of routing rules.
* `RuntimeConfig`: rules, defaults for missing quotas, the retry limit of parent services and report options.
* `merge`: the second configuration goes first; its rules stand in front of those of the first.
* `check`: the first fault of a configuration.
-/

namespace SessionBroker

/-- Why there is no usable configuration. -/
inductive ConfigError where
  | loadFailed
  /-- The text is no configuration. -/
  | parseFailed
  /-- The configuration has a fault. -/
  | invalid (reason : String)
  deriving DecidableEq

@[ext]
structure RoutingConfig where
  rules : List Rule := []
  deriving DecidableEq

namespace RoutingConfig

instance : Inhabited RoutingConfig := ⟨{}⟩

/-- Refuse a configuration with a rule that can never route anything. -/
def check (c : RoutingConfig) : Except ConfigError Unit :=
  match checkRules c.rules with
  | .ok () => .ok ()
  | .error (i, e) => .error (.invalid s!"route {i}: {e.message}")

/-- The rules of `other`, and then the own ones. -/
def merge (c other : RoutingConfig) : RoutingConfig := ⟨other.rules ++ c.rules⟩

end RoutingConfig

@[ext]
structure ReportConfig where
  enabled : Bool := true
  /-- Whether a report lists the quota of each session, if set. -/
  includeResources : Option Bool := none
  deriving DecidableEq

namespace ReportConfig

/-- Whether a report lists the quota of each session: yes unless set otherwise. -/
def listsResources (c : ReportConfig) : Bool := c.includeResources.getD true

/-- Whether an option is set that has no effect. -/
def hasIgnoredOptions (c : ReportConfig) : Bool := !c.enabled && c.includeResources.isSome

end ReportConfig

/-- The number of attempts of a parent service, unless configured otherwise. -/
def defaultRetryLimit : Word := ⟨10, by decide⟩

@[ext]
structure RuntimeConfig where
  /-- How often a parent service tries a request. -/
  retryLimit : Word := defaultRetryLimit
  /-- The quota of a request that names none. -/
  defaultQuota : Quota := 0
  report : ReportConfig := {}
  rules : List Rule := []
  deriving DecidableEq

namespace RuntimeConfig

instance : Inhabited RuntimeConfig := ⟨{}⟩

def routing (c : RuntimeConfig) : RoutingConfig := ⟨c.rules⟩

/-- Refuse a configuration that allows no attempt, or with a rule that can never route anything. -/
def check (c : RuntimeConfig) : Except ConfigError Unit :=
  if c.retryLimit = 0 then .error (.invalid "Parent retry limit cannot be zero") else c.routing.check

/-- `other` where it sets something: limits and quotas that are not zero, and the report options as a whole.  The
rules of `other` go in front. -/
def merge (c other : RuntimeConfig) : RuntimeConfig where
  retryLimit := if other.retryLimit = 0 then c.retryLimit else other.retryLimit
  defaultQuota :=
    { ram := if other.defaultQuota.ram = 0 then c.defaultQuota.ram else other.defaultQuota.ram
      caps := if other.defaultQuota.caps = 0 then c.defaultQuota.caps else other.defaultQuota.caps }
  report := other.report
  rules := (c.routing.merge other.routing).rules

end RuntimeConfig

end SessionBroker
