import SessionBroker.Label

/-!
# SessionBroker.Routing.Matcher — which requests a rule applies to

A request is selected by its service name and by the label of its requester.
-/

namespace SessionBroker

/-- Selects requests by service name.  The name `*` stands for any service. -/
inductive ServiceMatcher where
  | any
  | name (s : String)
  deriving DecidableEq

namespace ServiceMatcher

instance : Inhabited ServiceMatcher := ⟨.any⟩

/-- The matcher that a text writes. -/
def ofText (s : String) : ServiceMatcher := if s == "*" then .any else .name s

def text : ServiceMatcher → String
  | .any => "*"
  | .name s => s

def selects : ServiceMatcher → String → Bool
  | .any, _ => true
  | .name s, service => s == service

end ServiceMatcher

/-- Selects requests by the label of the requester. -/
inductive LabelMatcher where
  | any
  | exact (pattern : String)
  | begins (pattern : String)
  | ends (pattern : String)
  /-- The innermost element of the label equals the pattern. -/
  | last (pattern : String)
  deriving DecidableEq

namespace LabelMatcher

instance : Inhabited LabelMatcher := ⟨.any⟩

def selects : LabelMatcher → Label → Bool
  | .any, _ => true
  | .exact p, l => l.text == p
  | .begins p, l => l.beginsWith p
  | .ends p, l => l.endsWith p
  | .last p, l => l.last == p

def pattern? : LabelMatcher → Option String
  | .any => none
  | .exact p | .begins p | .ends p | .last p => some p

def text : LabelMatcher → String
  | .any => "any"
  | .exact p => s!"label=\"{p}\""
  | .begins p => s!"label_prefix=\"{p}\""
  | .ends p => s!"label_suffix=\"{p}\""
  | .last p => s!"label_last=\"{p}\""

end LabelMatcher

end SessionBroker
