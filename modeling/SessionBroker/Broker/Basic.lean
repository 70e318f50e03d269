import SessionBroker.Broker.Registry
import SessionBroker.Config.Basic

/-!
# SessionBroker.Broker.Basic — the broker and its sessions

The broker stands between the parent, which requests sessions under ids of its choice, and the providers of this
component.

* `Broker.start`: a broker without sessions and providers.
* `Broker.requestsFor`: what a provider that answers later finds posted.
* `Broker.refund`: moves the quota donated for a session back to the own account.
* `Broker.sweep`, `Broker.reap`: remove what no live session needs.
-/

namespace SessionBroker

/-- A session and the provider it was routed to. -/
structure Slot where
  session : Session
  provider : Option Provider := none
  deriving DecidableEq

namespace Slot

/-- Whether the session waits for a provider. -/
def isWaiting (t : Slot) : Bool :=
  t.provider.isNone && t.session.phase == .createRequested && !t.session.abandoned

end Slot

/-- A provider that was told that requests are waiting, and the requests that it found posted then. -/
structure Wakeup where
  provider : Provider
  requests : List (ServerId × Request)
  deriving DecidableEq

structure Broker where
  env : Env
  config : RuntimeConfig
  /-- The routing rules in force. -/
  rules : List Rule
  sessions : Table ServerId Slot := ∅
  providers : Registry := {}
  /-- The providers that were woken, in order. -/
  woken : List Wakeup := []

namespace Broker

/-- A broker without sessions and providers, under the rules of its configuration. -/
def start (env : Env) (config : RuntimeConfig) : Broker := { env, config, rules := config.rules }

instance : Inhabited Broker := ⟨start default default⟩

def session? (b : Broker) (id : ServerId) : Option Session := (b.sessions.find? id).map (·.session)

def provider? (b : Broker) (id : ServerId) : Option Provider := b.sessions.find? id >>= Slot.provider

def count (b : Broker) (p : Phase) : Nat := (b.sessions.values.filter fun t => t.session.phase == p).length

/-- The requests posted at a service that need work, each with the id of its session. -/
def requestsAt (b : Broker) (service : String) (d : Desk) : List (ServerId × Request) :=
  d.posted.filterMap fun e => do
    let s ← b.session? e.2
    let kind ← s.requestKind?
    return (e.2, { service, id := e.1, kind })

/-- The requests posted at a service of this component that need work, each with the id of its session. -/
def localRequests (b : Broker) (service : String) : List (ServerId × Request) :=
  ((b.providers.desks.find? service).map fun d => b.requestsAt service d).getD []

/-- What a provider that answers later finds posted. -/
def requestsFor (b : Broker) : Provider → List (ServerId × Request)
  | .later n => b.localRequests n
  | .child c n => ((b.providers.children.find? ⟨c, n⟩).map fun v => b.requestsAt n v.desk).getD []
  | .here _ | .parent _ => []

def ownAccount (b : Broker) : AccountRef := some b.env.own

def setSession (b : Broker) (id : ServerId) (s : Session) : Broker :=
  { b with sessions := b.sessions.modify id fun t => { t with session := s } }

def answer (b : Broker) (id : ServerId) (a : Answer) : Broker := { b with env := b.env.answer id a }

def mint (b : Broker) (service : String) : Capability × Broker :=
  ((b.env.mint service).1, { b with env := (b.env.mint service).2 })

/-- Move quota to a provider, both resources or neither. -/
def donate (b : Broker) (payee : AccountRef) (q : Quota) : Except QuotaError Broker :=
  match b.env.bank.pay b.ownAccount payee q with
  | .ok bank => .ok { b with env.bank := bank }
  | .error e => .error e

/-- Move quota of a provider back, each resource if it can be moved. -/
def takeBack (b : Broker) (payer : AccountRef) (q : Quota) : Broker :=
  { b with env.bank := b.env.bank.tryPay payer b.ownAccount q }

/-- Move back what was donated for a session, and store the session without the donation. -/
def refund (b : Broker) (payer : AccountRef) (id : ServerId) (s : Session) : Broker :=
  (b.takeBack payer s.donated).setSession id (s.perform .takeDonated)

/-- Forget the request posted for a session at its provider. -/
def release (b : Broker) (p : Provider) (s : Session) : Broker :=
  match s.downstream with
  | some id => { b with providers := b.providers.release id p }
  | none => b

/-- Whether a session that is not closed was routed to a provider. -/
def inUse (b : Broker) (p : Provider) : Bool :=
  b.sessions.values.any fun t => t.session.isAlive && t.provider == some p

/-- Remove withdrawn providers that no live session needs. -/
def sweep (b : Broker) : Broker := { b with providers := b.providers.sweep b.inUse }

/-- The number of closed sessions, and the broker without them. -/
def reap (b : Broker) : Nat × Broker :=
  ((b.sessions.values.filter fun t => !t.session.isAlive).length,
    { b with sessions := b.sessions.filter fun _ t => t.session.isAlive })

end Broker

end SessionBroker
