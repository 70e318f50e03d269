import SessionBroker.Environment.Parent

/-!
# SessionBroker.Environment.Client — paying the parent and asking it for more

Session quota is paid to the parent before a call and moved back if the call fails.

* `Env.session`, `Env.close`: sessions requested from the parent.
* `Env.upgrade`: asks for more RAM once and for more capability slots once when the own account runs out.
* `Env.requestResources`: waits for the parent's signal, unless the component installed a handler of its own.
-/

namespace SessionBroker.Env

/-- Pay a quota to the parent for a call, and take it back if the call fails. -/
def paying {α : Type} (env : Env) (q : Quota) (call : Env → Except SessionError α × Env) :
    Except SessionError α × Env :=
  let payee := env.parent.account
  match env.bank.pay (some env.own) payee q with
  | .error e => (.error (.ofQuotaError e), env)
  | .ok b =>
    match call { env with bank := b } with
    | (.ok v, env) => (.ok v, env)
    | (.error e, env) => (.error e, { env with bank := env.bank.tryPay payee (some env.own) q })

/-- Request a session from the parent, with the quota that its arguments name. -/
def session (env : Env) (id : ClientId) (service : String) (args : Args) (affinity : Affinity) :
    Except SessionError Capability × Env :=
  match args.quota with
  | .error _ => (.error .serviceDenied, env)
  | .ok q => env.paying q fun env => env.askSession id service args affinity

/-- Close a session at the parent and release its id. -/
def close (env : Env) (id : ClientId) : Env := (env.askClose id).releaseId id

/-- Wait for a signal of a context. -/
def waitFor (env : Env) (n : Nat) : Env :=
  match env.signals[n]? with
  | none => env
  | some s =>
    let env := { env with signals := env.signals.set n s.wait.2 }
    if s.wait.1 = .waiting then { env with stalled := true } else env

/-- Install the handler that resource requests wait for, if there is none yet. -/
def prepareFallback (env : Env) : Env :=
  match env.fallback with
  | .idle =>
    let (n, env) := env.newSignal
    { env.giveHandler (some n) with fallback := .blocking n }
  | .blocking _ | .custom => env

/-- Ask the parent for quota, and wait for the answer unless the component installed a handler of its own. -/
def requestResources (env : Env) (text : String) : Env :=
  let env := env.prepareFallback.askResources text
  match env.fallback with
  | .blocking n => env.waitFor n
  | .idle | .custom => env

/-- Install a handler of the component, or retire it. -/
def setHandler (env : Env) (handler : Option Nat) : Env :=
  { env with fallback := if handler.isSome then .custom else .idle }.giveHandler handler

/-- Install a fresh handler of the component; its signal context is returned. -/
def installHandler (env : Env) : Nat × Env :=
  let (n, env) := env.newSignal
  (n, env.setHandler (some n))

/-- Whether resource requests wait for an answer. -/
def isBlocking (env : Env) : Bool := env.fallback != .custom

def resourceText (q : Quota) (r : Resource) : String := s!"{Args.quotaKey r}={q.get r}"

/-- Upgrade a session at the parent once. -/
def tryUpgrade (env : Env) (id : ClientId) (args : Args) (q : Quota) : Except SessionError UpgradeOutcome × Env :=
  env.paying q fun env => env.askUpgrade id args

/-- The resource that a failed call ran out of. -/
def lacking? : SessionError → Option Resource
  | .outOfRam => some .ram
  | .outOfCaps => some .caps
  | _ => none

/-- Upgrade a session, with up to `n` further tries, each after asking for a resource in `may` that was lacking. -/
def upgradeWith (id : ClientId) (args : Args) (q : Quota) :
    Nat → List Resource → Env → Except SessionError UpgradeOutcome × Env
  | 0, _, env => env.tryUpgrade id args q
  | n + 1, may, env =>
    match env.tryUpgrade id args q with
    | (.ok o, env) => (.ok o, env)
    | (.error e, env) =>
      match lacking? e with
      | some r =>
        if may.contains r then
          upgradeWith id args q n (may.filter (· != r)) (env.requestResources (resourceText q r))
        else (.error e, env)
      | none => (.error e, env)

/-- Donate quota to a session at the parent.  An upgrade of the own session is a request for resources. -/
def upgrade (env : Env) (id : ClientId) (args : Args) : Except SessionError UpgradeOutcome × Env :=
  if id = ownSession then (.ok .done, env.requestResources args.text)
  else
    match args.quota with
    | .error _ => (.error .serviceDenied, env)
    | .ok q => upgradeWith id args q 2 [.ram, .caps] env

end SessionBroker.Env
