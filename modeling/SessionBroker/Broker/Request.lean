import SessionBroker.Broker.Basic
import SessionBroker.Routing.Router

/-!
# SessionBroker.Broker.Request — the requests of the parent

Session quota travels with the request: it is moved from the own account to the provider's account while the session
lives, and moved back when the session is closed.

* `Broker.create`: takes a new session and routes it.
* `Broker.upgrade`: passes further quota to an established session.
* `Broker.close`: closes a session; one whose create is pending is marked abandoned.
* `Broker.retryWaiting`: routes the sessions that wait for a provider.
-/

namespace SessionBroker

/-- The arguments with the default quota for each resource that they do not mention. -/
def RuntimeConfig.withDefaults (c : RuntimeConfig) (a : Args) : Args :=
  [Resource.ram, Resource.caps].foldl
    (fun a r =>
      if a.contains (Args.quotaKey r) || c.defaultQuota.get r == 0 then a
      else a.setAmount (Args.quotaKey r) (c.defaultQuota.get r))
    a

/-- The session that a request of the parent asks for. -/
def RuntimeConfig.newSession (c : RuntimeConfig) (service args : String) (affinity : Affinity) :
    Except ArgsError Session :=
  match Args.parse args with
  | .error e => .error e
  | .ok a => Session.create service (c.withDefaults a) affinity

namespace Broker

/-! ### Creating sessions -/

/-- End a create in a phase, and tell the parent. -/
def refuse (b : Broker) (id : ServerId) (s : Session) (p : Phase) : Broker :=
  let b := b.setSession id (s.advance p)
  match Answer.ofCreateFailure? p with
  | some a => b.answer id a
  | none => b

/-- The phase in which a create ends that the own account cannot pay. -/
def unpaidPhase : QuotaError → Phase
  | .insufficient .ram _ _ => .insufficientRam
  | .insufficient .caps _ _ => .insufficientCaps

/-- What the parent is told when a create failed and the provider closed the session. -/
def closedAnswer : SessionError → Answer
  | .outOfRam => .insufficientRam
  | .outOfCaps => .insufficientCaps
  | _ => .serviceDenied

/-- Give the capability of a session to the parent. -/
def handOut (b : Broker) (id : ServerId) (s : Session) : Broker :=
  match s.cap? with
  | some cap => { b with env := b.env.deliver id cap }.setSession id (s.advance .capHandedOut)
  | none => b.setSession id s

/-- Tell a provider that requests are waiting, if it answers later.  It finds those that are posted by now. -/
def wakeIfAsync (b : Broker) (p : Provider) : Broker :=
  if b.providers.isAsync p then
    { b with env := b.providers.wake b.env p, woken := b.woken ++ [{ provider := p, requests := b.requestsFor p }] }
  else b

/-- Answer the parent after the provider worked on a create. -/
def concludeCreate (b : Broker) (id : ServerId) (p : Provider) (s : Session) (error : Option SessionError) : Broker :=
  match s.phase, error with
  | .available, _ => b.handOut id s
  | .createRequested, none => (b.setSession id s).wakeIfAsync p
  | .createRequested, some _ => b.refuse id s .serviceDenied
  | .closed, some e => (b.setSession id s).answer id (closedAnswer e)
  | phase, _ => b.refuse id s phase

/-- Whether the provider keeps what was donated with a create. -/
def keepsDonation (s : Session) (error : Option SessionError) : Bool :=
  error.isNone && (s.phase == .available || s.phase == .createRequested)

/-- Pay the provider of a session, and ask it to create the session. -/
def initiateCreate (b : Broker) (id : ServerId) (p : Provider) (s : Session) : Broker :=
  let payee := b.providers.account p
  match b.donate payee s.resources with
  | .error e => b.refuse id s (unpaidPhase e)
  | .ok paid =>
    match b.providers.initiate? s paid.env p with
    | none => b.refuse id s .serviceDenied
    | some o =>
      let b := { b with env := o.env, providers := o.service }
      if keepsDonation o.session o.error then
        b.concludeCreate id p (if payee.isSome then o.session.donate s.resources else o.session) o.error
      else (b.takeBack payee s.resources).concludeCreate id p o.session o.error

/-- Route a session that waits for a provider. -/
def routeSession (b : Broker) (id : ServerId) (s : Session) : Broker :=
  match resolve b.rules s.service s.label with
  | .error _ => b.refuse id s .serviceDenied
  | .ok route =>
    match b.providers.find b.config.retryLimit route.service route.target with
    | (.absent, _) => b
    | (.missing, _) => b.refuse id s .serviceDenied
    | (.found p, providers) =>
      let s := if route.relabels s.label then s.relabel route.label else s
      { b with providers, sessions := b.sessions.modify id fun _ => { session := s, provider := some p } }.initiateCreate
        id p s

/-- Route the session of an id, if it waits for a provider. -/
def route (b : Broker) (id : ServerId) : Broker :=
  match b.sessions.find? id with
  | some t => if t.isWaiting then b.routeSession id t.session else b
  | none => b

/-- Route the sessions that wait for a provider, in ascending order of their ids. -/
def retryWaiting (b : Broker) : Broker :=
  (b.sessions.filter fun _ t => t.isWaiting).keys.foldl route b

/-- Whether the session of an id is there and not closed. -/
def isLive (b : Broker) (id : ServerId) : Bool := (b.session? id).any Session.isAlive

/-- Take a session request of the parent.  The id of a closed session may be used again.  Malformed arguments are
answered with a denial. -/
def create (b : Broker) (id : ServerId) (service args : String) (affinity : Affinity) : Except Error Unit × Broker :=
  if b.isLive id then (.error (.protocol (.conflictingId id.num)), b)
  else
    let b := { b with sessions := b.sessions.erase id }
    match b.config.newSession service args affinity with
    | .error e => (.error (.args e), b.answer id .serviceDenied)
    | .ok s =>
      (.ok (), { b with sessions := b.sessions.insert id { session := s.perform (.setServerId id) } }.route id)

/-! ### Upgrading sessions -/

/-- Answer the parent after the provider worked on an upgrade. -/
def concludeUpgrade (b : Broker) (id : ServerId) (p : Provider) (s : Session) : Broker :=
  let b := b.setSession id s
  match s.phase with
  | .capHandedOut => b.answer id .sessionOk
  | .upgradeRequested => b.wakeIfAsync p
  | _ => b

/-- Pay the provider of an established session, and ask it to apply an upgrade. -/
def initiateUpgrade (b : Broker) (id : ServerId) (p : Provider) (s : Session) (q : Quota) :
    Except Error Unit × Broker :=
  let payee := b.providers.account p
  match b.donate payee q with
  | .error e => (.error (.quota e), b)
  | .ok paid =>
    match b.providers.initiate? (s.requestUpgrade q) paid.env p with
    | none => (.error (.protocol (.invalidState id.num s.phase)), b)
    | some o =>
      let b := { b with env := o.env, providers := o.service }
      match o.error with
      | some e => (.error (.session e), (b.setSession id (o.session.revertUpgrade q s.phase)).takeBack payee q)
      | none => (.ok (), b.concludeUpgrade id p (if payee.isSome then o.session.donate q else o.session))

def upgrade (b : Broker) (id : ServerId) (q : Quota) : Except Error Unit × Broker :=
  match b.sessions.find? id with
  | none => (.error (.protocol (.unknownSession id.num)), b)
  | some t =>
    let s := t.session
    if s.phase = .closed then (.error (.protocol (.sessionClosed id.num)), b)
    else
      match t.provider with
      | some p =>
        if s.phase.isEstablished && b.providers.contains p then b.initiateUpgrade id p s q
        else (.error (.protocol (.invalidState id.num s.phase)), b)
      | none => (.error (.protocol (.invalidState id.num s.phase)), b)

/-! ### Closing sessions -/

/-- A session without what its provider held for it. -/
def detach (s : Session) : Session := { s with handle := none, downstream := none }

/-- Move quota back and answer the parent, if the provider closed the session. -/
def concludeClose (b : Broker) (id : ServerId) (payer : AccountRef) (s : Session) : Broker :=
  if s.phase = .closed then (b.refund payer id s).answer id .sessionClosed else b.setSession id s

/-- Ask the provider of a session to close it.  A session whose provider is gone is closed at once. -/
def initiateClose (b : Broker) (id : ServerId) (p : Provider) (s : Session) : Broker :=
  let payer := b.providers.account p
  match b.providers.initiate? s b.env p with
  | none => b.concludeClose id payer ((detach s).advance .closed)
  | some o =>
    let b := { b with env := o.env, providers := o.service }
    if o.session.phase = .closeRequested then (b.setSession id o.session).wakeIfAsync p
    else b.concludeClose id payer o.session

/-- Close a session.  Closing it again does nothing. -/
def close (b : Broker) (id : ServerId) : Except Error Unit × Broker :=
  match b.sessions.find? id with
  | none => (.error (.protocol (.unknownSession id.num)), b)
  | some t =>
    if t.session.phase = .closed ∨ t.session.phase = .closeRequested then (.ok (), b)
    else
      let s := if t.session.phase = .createRequested then t.session.perform .abandon else t.session
      match t.provider with
      | none => (.ok (), (b.setSession id (s.advance .closed)).answer id .sessionClosed)
      | some p => (.ok (), b.initiateClose id p (s.advance .closeRequested))

end Broker

end SessionBroker
