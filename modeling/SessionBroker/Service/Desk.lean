import SessionBroker.Service.Outcome

/-!
# SessionBroker.Service.Desk — services that answer later

The provider of such a service learns about requests out of band.  Giving it a session never waits: the request is
posted at the desk of the service, and the provider's answer is applied when it comes.

* `RequestKind`, `Request`: what a provider is asked to do about a session.
* `Desk`: the posted requests and the bell of the provider.
* `ChildService`: a desk of a child component, with the account that session quota is paid into.
-/

namespace SessionBroker

/-- What a provider is asked to do about one of its sessions. -/
inductive RequestKind where
  | create (label : Label) (args : Args) (resources : Quota)
  | upgrade (delta : Quota)
  | close
  deriving DecidableEq

/-- The work that a session needs from its provider. -/
def Session.requestKind? (s : Session) : Option RequestKind :=
  match s.phase with
  | .createRequested => if s.abandoned then none else some (.create s.label s.args s.resources)
  | .upgradeRequested => some (.upgrade s.pendingUpgrade)
  | .closeRequested => some .close
  | _ => none

/-- A request posted at a service. -/
structure Request where
  service : String
  id : ClientId
  kind : RequestKind
  deriving DecidableEq

/-- The posted requests of a service, each with the id of its session at the parent. -/
structure Desk where
  name : String
  /-- The name under which the provider is woken, if it has a bell. -/
  bell : Option String := none
  requests : IdSpace .client ServerId := {}

namespace Desk

/-- The session behind a request. -/
def lookup? (d : Desk) (id : ClientId) : Option ServerId := d.requests.find? id

def release (d : Desk) (id : ClientId) : Desk := { d with requests := d.requests.erase id }

/-- The posted requests with the ids of their sessions, in ascending order. -/
def posted (d : Desk) : List (ClientId × ServerId) := d.requests.entries

/-- Whether no session refers to the service. -/
def isIdle (d : Desk) : Bool := d.requests.isEmpty

def wake (d : Desk) (env : Env) : Env :=
  match d.bell with
  | some name => env.record (.woken name)
  | none => env

/-- Post the request for a session that has none. -/
def post (d : Desk) (s : Session) : Option SessionError × Desk × Session :=
  match s.downstream, s.serverId with
  | some _, _ => (none, d, { s with notify := true })
  | none, none => (some (.unexpected "asynchronous session lacks a server-side id"), d, s)
  | none, some server =>
    let (id, requests) := d.requests.alloc server
    (none, { d with requests }, { s with downstream := some id, notify := true })

/-- Do the work due in the phase of a session: post a create, and close what was never posted. -/
def initiate (d : Desk) (s : Session) (env : Env) : Outcome Desk :=
  match s.phase with
  | .createRequested =>
    let (error, d, s) := d.post s
    { error, service := d, session := s, env }
  | .closeRequested =>
    if s.downstream.isNone then { service := d, session := { s with handle := none }.advance .closed, env }
    else { service := d, session := s, env }
  | _ => { service := d, session := s, env }

end Desk

/-- A service provided by a child component. -/
structure ChildService where
  child : String
  desk : Desk
  /-- The account that session quota is paid into. -/
  account : AccountId
  /-- Whether the child withdrew the service. -/
  abandoned : Bool := false

namespace ChildService

/-- A service that a child announces. -/
def announced (child service : String) (account : AccountId) : ChildService where
  child := child
  desk := { name := service, bell := some (child ++ "/" ++ service) }
  account := account

/-- Do the work due in the phase of a session. -/
def initiate (c : ChildService) (s : Session) (env : Env) : Outcome ChildService :=
  (c.desk.initiate s env).map fun desk => { c with desk }

end ChildService

end SessionBroker
