import SessionBroker.Routing.Rule

/-!
# SessionBroker.Routing.Router — the first rule that applies

* `resolve`: the route of a request under a list of rules.  It depends on nothing but service, label and rules.
* `checkRules`: the first rule that can never route anything.
-/

namespace SessionBroker

/-- Where a request goes. -/
structure Route where
  /-- The place of the rule in the list. -/
  rule : Nat
  target : Target
  /-- The service name shown to the provider. -/
  service : String
  /-- The label shown to the provider. -/
  label : Label
  deriving DecidableEq

namespace Route

/-- Whether the provider sees another label than the requester sent. -/
def relabels (r : Route) (l : Label) : Bool := r.label != l

end Route

namespace Rule

/-- The route of a request that the rule at place `i` applies to. -/
def route (r : Rule) (i : Nat) (service : String) (l : Label) : Route where
  rule := i
  target := r.target
  service := r.target.forwarded service
  label := (r.labelOverride.map Label.mk).getD l

end Rule

/-- The route by the first rule that applies, counting places from `i`. -/
def resolveFrom (service : String) (l : Label) : Nat → List Rule → Option Route
  | _, [] => none
  | i, r :: rs => if r.selects service l then some (r.route i service l) else resolveFrom service l (i + 1) rs

def resolve (rules : List Rule) (service : String) (l : Label) : Except RoutingError Route :=
  match resolveFrom service l 0 rules with
  | some r => .ok r
  | none => .error (.noMatchingRoute service l.text)

/-- Check rules in order, counting places from `i`; the first fault is reported with its place. -/
def checkRulesFrom : Nat → List Rule → Except (Nat × RoutingError) Unit
  | _, [] => .ok ()
  | i, r :: rs =>
    match r.check with
    | .error e => .error (i, e)
    | .ok () => checkRulesFrom (i + 1) rs

/-- Check rules in order. -/
def checkRules (rules : List Rule) : Except (Nat × RoutingError) Unit := checkRulesFrom 0 rules

end SessionBroker
