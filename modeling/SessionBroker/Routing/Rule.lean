import SessionBroker.Error
import SessionBroker.Routing.Matcher

/-!
# SessionBroker.Routing.Rule — routing rules

A rule selects session requests and names the provider they are forwarded to.

* `Rule.check`: refuses rules with empty names and patterns, which can never route anything.
-/

namespace SessionBroker

/-- The provider a rule forwards requests to. -/
inductive Target where
  /-- A service of this component. -/
  | here (name : String)
  /-- The parent, which may know the service under another name. -/
  | parent (rename : Option String)
  /-- A child component. -/
  | child (name : String)
  deriving DecidableEq

namespace Target

def text : Target → String
  | .here n => s!"local:{n}"
  | .parent none => "parent"
  | .parent (some n) => s!"parent:{n}"
  | .child n => s!"child:{n}"

/-- The name in a target, if it has one. -/
def name? : Target → Option String
  | .here n | .child n => some n
  | .parent rename => rename

/-- The name under which the provider knows a service. -/
def forwarded : Target → String → String
  | .parent (some n), _ => n
  | _, service => service

end Target

structure Rule where
  service : ServiceMatcher := .any
  label : LabelMatcher := .any
  target : Target
  /-- The label shown to the provider instead of the requester's. -/
  labelOverride : Option String := none
  deriving DecidableEq

namespace Rule

def selects (r : Rule) (service : String) (l : Label) : Bool := r.service.selects service && r.label.selects l

/-- Whether the label pattern is one that must not be empty, and is. -/
def hasEmptyPattern (r : Rule) : Bool :=
  match r.label with
  | .begins p | .ends p | .last p => p == ""
  | .any | .exact _ => false

/-- Check a rule for empty names and patterns. -/
def check (r : Rule) : Except RoutingError Unit :=
  if r.service = .name "" then .error (.invalidRule "service name cannot be empty")
  else if r.hasEmptyPattern then
    .error (.invalidRule s!"empty label pattern in rule for '{r.service.text}'")
  else if r.target.name? = some "" then
    .error (.invalidRule s!"empty target name in rule for '{r.service.text}'")
  else .ok ()

def text (r : Rule) : String := s!"{r.service.text} ({r.label.text}) -> {r.target.text}"

end Rule

end SessionBroker
