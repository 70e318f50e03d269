import SessionBroker.Broker.Request

/-!
# SessionBroker.Broker.Response — the answers of providers

* `Broker.settle`: applies the answer of a provider to one of its sessions, or finds that it does not fit.
* `Broker.childAnswer`: an answer of a child, which names a request posted at one of its services.
* `Broker.childRequests`: what a child is asked to do.
* `Broker.answerRequested`, `Broker.answerUpgraded`, `Broker.answerClosing`: let local code answer the requests posted
  at a service of this component.
-/

namespace SessionBroker

/-- The answer of a provider to a posted request. -/
inductive Response where
  | deliver (cap : Capability)
  | denied
  | insufficientRam
  | insufficientCaps
  | upgradeDone
  | closed
  deriving DecidableEq

namespace Response

/-- The phase in which a refused create ends. -/
def refusalPhase? : Response → Option Phase
  | .denied => some .serviceDenied
  | .insufficientRam => some .insufficientRam
  | .insufficientCaps => some .insufficientCaps
  | .deliver _ | .upgradeDone | .closed => none

def endsCreate : Response → Bool
  | .deliver _ | .denied | .insufficientRam | .insufficientCaps => true
  | .upgradeDone | .closed => false

end Response

namespace Broker

/-- End a session that its provider no longer holds, move its donation back and tell the parent. -/
def finish (b : Broker) (p : Provider) (id : ServerId) (s : Session) (next : Phase) (a : Answer) : Broker :=
  ((b.release p s).refund (b.providers.account p) id ({ s with downstream := none }.advance next)).answer id a

/-- Apply the answer of a provider to one of its sessions, if it fits the phase of the session. -/
def settle (b : Broker) (p : Provider) (id : ServerId) (s : Session) (r : Response) : Option Broker :=
  let quiet := { s with notify := false }
  if r.endsCreate && s.abandoned && s.isAlive then
    some (b.finish p id { s with handle := none } .closed .sessionClosed)
  else
    match r with
    | .deliver cap =>
      if s.phase = .createRequested then
        some (b.handOut id ({ quiet with handle := some ⟨cap, none⟩ }.advance .available))
      else none
    | .denied => if s.phase = .createRequested then some (b.finish p id quiet .serviceDenied .serviceDenied) else none
    | .insufficientRam =>
      if s.phase = .createRequested then some (b.finish p id quiet .insufficientRam .insufficientRam) else none
    | .insufficientCaps =>
      if s.phase = .createRequested then some (b.finish p id quiet .insufficientCaps .insufficientCaps) else none
    | .upgradeDone =>
      if s.phase = .upgradeRequested then
        some ((b.setSession id (s.confirmUpgrade.advance .capHandedOut)).answer id .sessionOk)
      else none
    | .closed =>
      if s.isAlive then
        let s := { s with handle := none }
        some (b.finish p id (if s.phase.canReach .closed then s else s.advance .closeRequested) .closed .sessionClosed)
      else none

def applyResponse (b : Broker) (p : Provider) (id : ServerId) (r : Response) : Except Error Unit × Broker :=
  match b.session? id with
  | none => (.error (.protocol (.unknownSession id.num)), b)
  | some s =>
    match b.settle p id s r with
    | some b => (.ok (), b)
    | none => (.error (.protocol (.invalidState id.num s.phase)), b)

/-! ### Children -/

/-- Apply the answer of a child to a request posted at one of its services. -/
def childAnswer (b : Broker) (k : ChildKey) (request : ClientId) (r : Response) : Except Error Unit × Broker :=
  match b.providers.children.find? k with
  | none => (.error (.routing (.serviceNotPresent k.child k.service)), b)
  | some c =>
    match c.desk.lookup? request with
    | none => (.error (.protocol (.unknownSession request.num)), b)
    | some id =>
      match b.applyResponse k.provider id r with
      | (.ok (), b) => (.ok (), b.sweep)
      | (.error e, b) => (.error e, b)

/-- What a child is asked to do, across all its services. -/
def childRequests (b : Broker) (child : String) : List Request :=
  b.providers.children.entries.flatMap fun e =>
    if e.1.child = child then (b.requestsAt e.1.service e.2.desk).map (·.2) else []

/-! ### Local code that answers later -/

/-- The create requests that wait at a service of this component. -/
def requested (b : Broker) (service : String) : List (ServerId × Request) :=
  (b.localRequests service).filter fun e => e.2.kind matches .create _ _ _

/-- The upgrades that wait at a service of this component. -/
def upgraded (b : Broker) (service : String) : List (ServerId × Request) :=
  (b.localRequests service).filter fun e => e.2.kind matches .upgrade _

/-- The sessions that a service of this component is to close. -/
def closing (b : Broker) (service : String) : List (ServerId × Request) :=
  (b.localRequests service).filter fun e => e.2.kind matches .close

/-- Apply the answers of local code in order; one that does not fit is skipped. -/
def applyLocal (b : Broker) (service : String) (answers : List (ServerId × Response)) : Broker :=
  answers.foldl (fun b e => (b.applyResponse (.later service) e.1 e.2).2) b

/-- The answers that a callback gives to some requests; it is told the number of requests it saw before. -/
def collect (callback : Nat → Request → Option Response) (requests : List (ServerId × Request)) :
    List (ServerId × Response) :=
  requests.zipIdx.filterMap fun e => (callback e.2 e.1.2).map fun r => (e.1.1, r)

/-- Let local code answer the create requests of a service. -/
def answerRequested (b : Broker) (service : String) (callback : Nat → Request → Option Response) : Broker :=
  b.applyLocal service (collect callback (b.requested service))

/-- Let local code say which upgrades of a service it applied. -/
def answerUpgraded (b : Broker) (service : String) (applied : Nat → Request → Bool) : Broker :=
  b.applyLocal service (collect (fun n r => if applied n r then some .upgradeDone else none) (b.upgraded service))

/-- Let local code say which sessions of a service it closed. -/
def answerClosing (b : Broker) (service : String) (closed : Nat → Request → Bool) : Broker :=
  b.applyLocal service (collect (fun n r => if closed n r then some .closed else none) (b.closing service))

end Broker

end SessionBroker
