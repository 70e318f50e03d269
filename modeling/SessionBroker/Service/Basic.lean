import SessionBroker.Service.Custom
import SessionBroker.Service.Desk
import SessionBroker.Service.Local
import SessionBroker.Service.Parent

/-!
# SessionBroker.Service.Basic — the kinds of service

A service provides sessions: from objects of this component, from the parent, or from a provider that answers later.
-/

namespace SessionBroker

/-- A provider of sessions. -/
inductive Service where
  /-- Objects of this component. -/
  | made (s : LocalService)
  /-- A behaviour of its own. -/
  | custom (s : CustomService)
  /-- The parent. -/
  | parent (s : ParentService)
  /-- Local code that answers later. -/
  | desk (s : Desk)
  /-- A child component. -/
  | child (s : ChildService)

namespace Service

def name : Service → String
  | .made s => s.name
  | .custom s => s.name
  | .parent s => s.name
  | .desk s => s.name
  | .child s => s.desk.name

/-- The account that session quota is paid into. -/
def account : Service → AccountRef
  | .custom s => s.account
  | .child s => some s.account
  | .made _ | .parent _ | .desk _ => none

def isAsync : Service → Bool
  | .custom s => s.isAsync
  | .desk _ | .child _ => true
  | .made _ | .parent _ => false

def abandoned : Service → Bool
  | .custom s => s.abandoned
  | .parent s => s.abandoned
  | .child s => s.abandoned
  | .made _ | .desk _ => false

/-- The posted requests, where there are any. -/
def desk? : Service → Option Desk
  | .desk d => some d
  | .child c => some c.desk
  | _ => none

/-- Do the work due in the phase of a session. -/
def initiate (service : Service) (s : Session) (env : Env) : Outcome Service :=
  match service with
  | .made l => (l.initiate s env).map .made
  | .custom c => (c.initiate s env).map .custom
  | .parent p => (p.initiate s env).map .parent
  | .desk d => (d.initiate s env).map .desk
  | .child c => (c.initiate s env).map .child

def wake (service : Service) (env : Env) : Env :=
  match service with
  | .custom c => c.wake env
  | .desk d => d.wake env
  | .child c => c.desk.wake env
  | .made _ | .parent _ => env

/-- Withdraw the service, if it can be withdrawn. -/
def abandon : Service → Service
  | .parent p => .parent { p with abandoned := true }
  | .child c => .child { c with abandoned := true }
  | s => s

/-- Forget a posted request. -/
def release (id : ClientId) : Service → Service
  | .desk d => .desk (d.release id)
  | .child c => .child { c with desk := c.desk.release id }
  | s => s

end Service

end SessionBroker
