import SessionBroker.Broker.Response

/-!
# SessionBroker.Broker.Provision — providers that come and go

* `Broker.announce`, `Broker.withdraw`, `Broker.removeChild`: the services of children.
* `Broker.registerLocal`, `Broker.registerDesk`: the services of this component.
* `Broker.applyRouting`: new rules; parent services that no rule names are withdrawn.

Sessions that wait for a provider are routed again whenever one may have appeared.
-/

namespace SessionBroker

/-- Whether the rule may forward a request to the parent's service of a name. -/
def Rule.names (r : Rule) (service : String) : Bool :=
  match r.target, r.service with
  | .parent (some n), _ => n == service
  | .parent none, .name n => n == service
  | .parent none, .any => true
  | .here _, _ | .child _, _ => false

namespace Broker

/-! ### Services of this component -/

/-- Register a service that answers at once. -/
def registerLocal (b : Broker) (service : Service) : Broker :=
  { b with providers.locals := b.providers.locals.insert service.name service }.retryWaiting

/-- Register a service that answers later. -/
def registerDesk (b : Broker) (d : Desk) : Broker :=
  { b with providers.desks := b.providers.desks.insert d.name d }.retryWaiting

/-! ### Services of children -/

/-- Whether the service of a child is taken: announced and not withdrawn, or withdrawn and still in use. -/
def isTaken (b : Broker) (k : ChildKey) : Bool :=
  (b.providers.children.find? k).any fun c => !c.abandoned || !c.desk.isIdle

/-- Register a service announced by a child.  One that is taken is kept. -/
def announce (b : Broker) (k : ChildKey) (account : AccountId) : Broker :=
  if b.isTaken k then b
  else
    { b with providers.children := b.providers.children.insert k (.announced k.child k.service account) }.retryWaiting

/-- Withdraw a service of a child.  It stays until its last session is closed. -/
def withdraw (b : Broker) (k : ChildKey) : Broker :=
  { b with providers.children := b.providers.children.modify k fun c => { c with abandoned := true } }.sweep

/-- End the session of an id whose provider goes away: a create that is pending is denied, and any other live session
is closed.  Failed creates were answered already. -/
def dismiss (k : ChildKey) (b : Broker) (id : ServerId) : Broker :=
  match b.sessions.find? id with
  | none => b
  | some t =>
    if t.provider = some k.provider ∧ t.session.isAlive ∧ t.session.phase.isCreateFailure = false then
      let s := { t.session with handle := none }
      if s.phase = .createRequested ∧ s.abandoned = false then
        b.finish k.provider id s .serviceDenied .serviceDenied
      else
        b.finish k.provider id (if s.phase.canReach .closed then s else s.advance .closeRequested) .closed
          .sessionClosed
    else b

/-- Forget a service of a child, and end its sessions. -/
def removeService (b : Broker) (k : ChildKey) : Broker :=
  let b := b.sessions.keys.foldl (dismiss k) b
  { b with providers.children := b.providers.children.erase k }

/-- Forget a child and all its services. -/
def removeChild (b : Broker) (child : String) : Broker := (b.providers.servicesOf child).foldl removeService b

/-! ### Rules -/

def applyRouting (b : Broker) (rules : List Rule) : Broker :=
  { b with rules, providers := b.providers.abandonParents fun n => rules.any fun r => r.names n }.sweep.retryWaiting

end Broker

end SessionBroker
