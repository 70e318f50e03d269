import SessionBroker.Environment.Basic

/-!
# SessionBroker.Environment.Parent — calls to the parent

Each call is recorded and answered as the parent's next answer says.  A resource request makes the movements of the
next grant and then submits the handler that the parent holds.
-/

namespace SessionBroker.Env

/-- Ask the parent for a session, after its quota was paid. -/
def askSession (env : Env) (id : ClientId) (service : String) (args : Args) (affinity : Affinity) :
    Except SessionError Capability × Env :=
  let env := env.record (.sessionAsked id service args.text affinity)
  let answer := env.parent.sessions.head?.join
  let env := { env with parent.sessions := env.parent.sessions.tail }
  match answer with
  | some e => (.error e, env)
  | none =>
    let env := { env with parent.granted := env.parent.granted ++ [id] }
    (.ok (env.mint service).1, (env.mint service).2)

/-- Ask the parent to upgrade a session, after the quota was paid. -/
def askUpgrade (env : Env) (id : ClientId) (args : Args) : Except SessionError UpgradeOutcome × Env :=
  let env := env.record (.upgradeAsked id args.text)
  (env.parent.upgrades.head?.getD (.ok .done), { env with parent.upgrades := env.parent.upgrades.tail })

def askClose (env : Env) (id : ClientId) : Env := env.record (.closeAsked id)

/-- Make a movement, each resource if it can be moved. -/
def grant (env : Env) (m : Movement) : Env := { env with bank := env.bank.tryPay m.payer m.payee m.quota }

def askResources (env : Env) (text : String) : Env :=
  let env := env.record (.resourcesAsked text)
  let movements := env.parent.grants.head?.getD []
  let env := { env with parent.grants := env.parent.grants.tail }
  let env := movements.foldl grant env
  match env.parent.handler with
  | some n => env.modifySignal n Signal.submit
  | none => env

/-- Give the parent a handler, or make it forget the one it holds.  A handler that is no longer held is dropped. -/
def giveHandler (env : Env) (handler : Option Nat) : Env :=
  let env := env.record (.handlerSet handler.isSome)
  let kept := if env.parent.keepsHandlers then handler else none
  let dropped := if env.parent.keepsHandlers then env.parent.handler else handler
  let env := { env with parent.handler := kept }
  match dropped with
  | some n => env.modifySignal n Signal.drop
  | none => env

/-- Give the parent the capability of a session that it requested. -/
def deliver (env : Env) (id : ServerId) (cap : Capability) : Env := env.record (.delivered id cap)

def answer (env : Env) (id : ServerId) (a : Answer) : Env := env.record (.answered id a)

end SessionBroker.Env
