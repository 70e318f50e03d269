import SessionBroker.Args.Parser
import SessionBroker.Capability
import SessionBroker.IdSpace

/-!
# SessionBroker.Session — the state of one session

A session lives from the moment its request arrives until it is reaped.  Its phase is advanced by the service that
provides it, and the other fields have to fit the phase (`Session.isConsistent`):

* `createRequested`: no handle.
* `available`, `capHandedOut`, `upgradeRequested`: a handle.
* `closed` and the create failures: neither a handle nor a downstream id.

`Session.Act` lists the ways a provider may change a session, and `Session.perform` carries one out.
-/

namespace SessionBroker

/-- The provider's object behind an established session, with its place in a local registry if it has one. -/
@[ext]
structure Handle where
  cap : Capability
  slot : Option Word := none
  deriving DecidableEq

/-- The state of one session. -/
@[ext]
structure Session where
  service : String
  /-- The label of the requester, as the provider sees it. -/
  label : Label
  args : Args
  affinity : Affinity
  /-- The quota reserved at creation. -/
  resources : Quota
  /-- Whether the provider is asked for diagnostics. -/
  diag : Bool
  phase : Phase := .createRequested
  /-- The provider's object, once established. -/
  handle : Option Handle := none
  /-- The id under which the parent knows the session. -/
  serverId : Option ServerId := none
  /-- The id of the request issued for the session. -/
  downstream : Option ClientId := none
  /-- The upgrade that is not applied yet. -/
  pendingUpgrade : Quota := 0
  /-- The quota moved to the provider for the session so far. -/
  donated : Quota := 0
  /-- Whether the requester is told about completion later. -/
  notify : Bool := false
  /-- Whether the requester gave the session up. -/
  abandoned : Bool := false
  deriving DecidableEq

namespace Session

/-- A session whose create was requested.  Quota, label and diagnostics are read from the arguments once. -/
def create (service : String) (args : Args) (affinity : Affinity) : Except ArgsError Session :=
  match args.quota with
  | .error e => .error e
  | .ok q => .ok { service, label := args.label, args, affinity, resources := q, diag := args.diag }

/-- Whether the session is in phase `next` or may move there. -/
def permits (s : Session) (next : Phase) : Bool := s.phase == next || s.phase.canReach next

/-- Move to `next` if the state machine permits it. -/
def advance (s : Session) (next : Phase) : Session := if s.permits next then { s with phase := next } else s

/-- Replace the label, in the arguments too. -/
def relabel (s : Session) (l : Label) : Session := { s with args := s.args.setLabel l, label := l }

/-- Record an upgrade, on top of one that is pending, if the session can be upgraded. -/
def requestUpgrade (s : Session) (q : Quota) : Session :=
  if s.permits .upgradeRequested then
    { s.advance .upgradeRequested with pendingUpgrade := s.pendingUpgrade + q }
  else s

/-- Take back an upgrade that was not paid, unless the session has moved on. -/
def revertUpgrade (s : Session) (q : Quota) (previous : Phase) : Session :=
  if s.phase = .upgradeRequested then
    { s with pendingUpgrade := s.pendingUpgrade - q, phase := previous }
  else s

/-- The pending upgrade as arguments. -/
def upgradeArgs (s : Session) : Args := Args.upgrade s.pendingUpgrade

/-- Mark the pending upgrade as applied. -/
def confirmUpgrade (s : Session) : Session := { s with pendingUpgrade := 0 }

/-- Record quota moved to the provider. -/
def donate (s : Session) (q : Quota) : Session := { s with donated := s.donated + q }

def isAlive (s : Session) : Bool := s.phase != .closed

/-- The session capability, once established. -/
def cap? (s : Session) : Option Capability := s.handle.map (·.cap)

/-- Whether handle and downstream id fit the phase. -/
def isConsistent (s : Session) : Bool :=
  match s.phase with
  | .createRequested => s.handle.isNone
  | .available | .capHandedOut | .upgradeRequested => s.handle.isSome
  | .closeRequested => true
  | .closed | .serviceDenied | .insufficientRam | .insufficientCaps => s.handle.isNone && s.downstream.isNone

def text (s : Session) : String :=
  s!"{s.service} (label=\"{s.label.text}\", {s.resources.text}, phase={s.phase.name})"

/-- The ways a session may be changed from outside. -/
inductive Act where
  | advance (next : Phase)
  | relabel (l : Label)
  | setHandle (h : Handle)
  | takeHandle
  | setServerId (i : ServerId)
  | setDownstream (i : ClientId)
  | takeDownstream
  | requestUpgrade (q : Quota)
  | revertUpgrade (q : Quota) (previous : Phase)
  | confirmUpgrade
  | donate (q : Quota)
  | takeDonated
  | setNotify (on : Bool)
  | abandon

def perform (s : Session) : Act → Session
  | .advance next => s.advance next
  | .relabel l => s.relabel l
  | .setHandle h => { s with handle := some h }
  | .takeHandle => { s with handle := none }
  | .setServerId i => { s with serverId := some i }
  | .setDownstream i => { s with downstream := some i }
  | .takeDownstream => { s with downstream := none }
  | .requestUpgrade q => s.requestUpgrade q
  | .revertUpgrade q previous => s.revertUpgrade q previous
  | .confirmUpgrade => s.confirmUpgrade
  | .donate q => s.donate q
  | .takeDonated => { s with donated := 0 }
  | .setNotify on => { s with notify := on }
  | .abandon => { s with abandoned := true }

@[simp] theorem advance_self (s : Session) : s.advance s.phase = s := by
  simp [advance]

theorem phase_advance_of_permits {s : Session} {p : Phase} (h : s.permits p = true) : (s.advance p).phase = p := by
  simp [advance, h]

theorem advance_of_not_permits {s : Session} {p : Phase} (h : s.permits p = false) : s.advance p = s := by
  simp [advance, h]

end Session

end SessionBroker
