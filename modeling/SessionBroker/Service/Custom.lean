import SessionBroker.Service.Outcome

/-!
# SessionBroker.Service.Custom — services with a behaviour of their own

A custom service reacts to a session in any way that the session allows: with a list of steps, and then possibly a
failure.  What it does may depend on the session and on how often it was given one before.
-/

namespace SessionBroker

/-- A step of a custom service. -/
inductive CustomStep where
  /-- Note that the session was seen. -/
  | note
  /-- Mint a capability and make it the handle of the session. -/
  | mint (slot : Option Word)
  | act (a : Session.Act)

/-- What a custom service does with a session. -/
structure Reaction where
  steps : List CustomStep := []
  error : Option SessionError := none

/-- A service with a behaviour of its own. -/
structure CustomService where
  name : String
  account : AccountRef := none
  isAsync : Bool := false
  abandoned : Bool := false
  /-- The name under which the service notes that it was woken, if it does. -/
  bell : Option String := none
  react : Nat → Session → Reaction := fun _ _ => {}
  /-- How often the service was given a session. -/
  calls : Nat := 0

namespace CustomService

def step (name : String) (s : Session) (env : Env) : CustomStep → Session × Env
  | .note => (s, env.record (.requestSeen name s.phase s.upgradeArgs.text))
  | .mint slot => ({ s with handle := some ⟨(env.mint name).1, slot⟩ }, (env.mint name).2)
  | .act a => (s.perform a, env)

/-- Do what the service does with a session. -/
def initiate (c : CustomService) (s : Session) (env : Env) : Outcome CustomService :=
  let reaction := c.react c.calls s
  let (settled, env) := reaction.steps.foldl (fun r st => step c.name r.1 r.2 st) (s, env)
  { error := reaction.error, service := { c with calls := c.calls + 1 }, session := settled, env }

def wake (c : CustomService) (env : Env) : Env :=
  match c.bell with
  | some name => env.record (.woken name)
  | none => env

end CustomService

end SessionBroker
