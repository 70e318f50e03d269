import SessionBroker.Bank.Basic
import SessionBroker.Session
import SessionBroker.Signal

/-!
# SessionBroker.Environment.Basic — the surroundings of a component

* `Event`: what the parent, the factories and the providers get to see.
* `Parent`: how the parent answers, call by call, and what it granted.  A list of answers that has run out stands for
  a grant.
* `Env`: the accounts, the parent, the signal contexts and the ids of the sessions requested from the parent.
-/

namespace SessionBroker

/-- Something that happens outside the component. -/
inductive Event where
  | sessionAsked (id : ClientId) (service args : String) (affinity : Affinity)
  | upgradeAsked (id : ClientId) (args : String)
  | closeAsked (id : ClientId)
  /-- The parent is asked for quota. -/
  | resourcesAsked (text : String)
  /-- The parent is given a handler for resource signals, or told to forget it. -/
  | handlerSet (installed : Bool)
  | delivered (id : ServerId) (cap : Capability)
  /-- The parent is told about a session that it requested. -/
  | answered (id : ServerId) (answer : Answer)
  /-- A factory is asked for a session object. -/
  | objectAsked (service args : String) (affinity : Affinity)
  /-- A factory upgraded an object, which holds `ram` now. -/
  | objectUpgraded (service : String) (number : Nat) (args : String) (ram : Word)
  | objectDestroyed (service : String) (number : Nat)
  /-- A service was given a session to work on. -/
  | requestSeen (service : String) (phase : Phase) (upgradeArgs : String)
  | woken (name : String)
  deriving DecidableEq

/-- A movement of quota that the parent makes when it is asked for resources. -/
structure Movement where
  payer : AccountRef
  payee : AccountRef
  quota : Quota
  deriving DecidableEq

/-- The parent: its answers to the calls to come, and the signal handler it holds. -/
structure Parent where
  /-- The account that session quota is paid into. -/
  account : AccountRef := none
  /-- The refusals of the session requests to come; `none` is a grant. -/
  sessions : List (Option SessionError) := []
  /-- The ids of the session requests that it granted, in order. -/
  granted : List ClientId := []
  /-- The outcomes of the upgrades to come. -/
  upgrades : List (Except SessionError UpgradeOutcome) := []
  /-- The movements at the resource requests to come. -/
  grants : List (List Movement) := []
  /-- Whether the parent keeps the last handler it was given, or drops each at once. -/
  keepsHandlers : Bool := true
  /-- The signal context whose handler the parent holds. -/
  handler : Option Nat := none

/-- How the component waits for resources. -/
inductive Fallback where
  /-- No handler was installed yet, or it was retired. -/
  | idle
  /-- The handler of signal context `n` was installed for waiting. -/
  | blocking (n : Nat)
  /-- The component installed a handler of its own. -/
  | custom
  deriving DecidableEq, Repr

/-- The id of the session of the component itself, which the parent tops up on request. -/
def ownSession : ClientId := ⟨1⟩

/-- The surroundings of a component. -/
structure Env where
  bank : Bank
  own : AccountId
  parent : Parent := {}
  fallback : Fallback := .idle
  signals : List Signal := []
  /-- The sessions requested from the parent, with the names of their services. -/
  ids : IdSpace .client String := { table := (∅ : Table ClientId String).insert ownSession "PD" }
  /-- The number of capabilities minted so far. -/
  minted : Nat := 0
  trace : List Event := []
  /-- Whether a wait was entered that no signal and no loss of handlers ended. -/
  stalled : Bool := false

namespace Env

instance : Inhabited Env := ⟨{ bank := {}, own := 0 }⟩

def record (env : Env) (e : Event) : Env := { env with trace := env.trace ++ [e] }

def mint (env : Env) (service : String) : Capability × Env :=
  (.mint service env.minted, { env with minted := env.minted + 1 })

/-- Make a signal context with one handler. -/
def newSignal (env : Env) : Nat × Env := (env.signals.length, { env with signals := env.signals ++ [{}] })

def modifySignal (env : Env) (n : Nat) (f : Signal → Signal) : Env := { env with signals := env.signals.modify n f }

/-- Consume a pending signal of a context. -/
def consumeSignal (env : Env) (n : Nat) : Bool × Env :=
  ((env.signals[n]?.map (·.pending)).getD false, env.modifySignal n fun s => s.consume.2)

/-- Move RAM and capability slots between two accounts, each on its own. -/
def movement (env : Env) (payer payee : AccountRef) (q : Quota) :
    Except QuotaError Unit × Except QuotaError Unit × Env :=
  let ram := env.bank.move .ram payer payee q.ram
  let b := env.bank.tryMove .ram payer payee q.ram
  let caps := b.move .caps payer payee q.caps
  (ram.map fun _ => (), caps.map fun _ => (), { env with bank := b.tryMove .caps payer payee q.caps })

/-- The number of sessions requested from the parent and not released. -/
def openSessions (env : Env) : Nat := env.ids.size - 1

def allocId (env : Env) (service : String) : ClientId × Env :=
  ((env.ids.alloc service).1, { env with ids := (env.ids.alloc service).2 })

/-- Release an id.  The id of the own session stays. -/
def releaseId (env : Env) (id : ClientId) : Env :=
  if id = ownSession then env else { env with ids := env.ids.erase id }

end Env

end SessionBroker
