import SessionBroker.Service.Outcome

/-!
# SessionBroker.Service.Parent — services of the parent

A parent service forwards each phase to the parent.  A create that runs out of local quota releases its id and stays
requested, so it can be tried again.

* `Tries.once`: one try; a create that runs out of quota is closed.
* `Tries.upTo n`: at most `n` tries, with a resource request behind each one that ran out of quota; after the last the
  create is denied.
-/

namespace SessionBroker

/-- How often a parent service tries a request. -/
inductive Tries where
  | once
  | upTo (n : Nat)
  deriving DecidableEq, Repr

/-- A service of the parent. -/
structure ParentService where
  name : String
  tries : Tries
  abandoned : Bool := false
  deriving DecidableEq

namespace ParentService

/-- The id of the request for a session, allocated if there is none. -/
def requestId (p : ParentService) (s : Session) (env : Env) : ClientId × Env :=
  match s.downstream with
  | some id => (id, env)
  | none => env.allocId p.name

/-- Request the session from the parent. -/
def create (p : ParentService) (s : Session) (env : Env) : Option SessionError × Session × Env :=
  let (id, env) := p.requestId s env
  match env.session id p.name s.args s.affinity with
  | (.ok cap, env) =>
    (none, { s with downstream := some id, handle := some ⟨cap, none⟩ }.advance .available, env)
  | (.error e, env) =>
    let env := env.releaseId id
    let s := { s with downstream := none }
    match e.terminalPhase? with
    | some phase => (none, s.advance phase, env)
    | none => (some e, s, env)

/-- Pass the pending upgrade to the parent.  It counts as applied whatever the parent says. -/
def upgrade (s : Session) (env : Env) : Session × Env :=
  let settled := s.confirmUpgrade.advance .capHandedOut
  match s.downstream with
  | none => (settled, env)
  | some id => (settled, (env.upgrade id s.upgradeArgs).2)

/-- Close the session at the parent. -/
def close (s : Session) (env : Env) : Session × Env :=
  let env :=
    match s.downstream with
    | some id => env.close id
    | none => env
  ({ s with downstream := none, handle := none }.advance .closed, env)

/-- Forward the phase of a session once. -/
def forward (p : ParentService) (s : Session) (env : Env) : Option SessionError × Session × Env :=
  match s.phase with
  | .createRequested => p.create s env
  | .upgradeRequested => (none, upgrade s env)
  | .closeRequested => (none, close s env)
  | _ => (none, s, env)

/-- Forward the phase of a session up to `n` times.  `last` is the failure of the try before. -/
def attempt (p : ParentService) (last : SessionError) : Nat → Session → Env → Option SessionError × Session × Env
  | 0, s, env => (some last, if s.phase = .createRequested then s.advance .serviceDenied else s, env)
  | n + 1, s, env =>
    match p.forward s env with
    | (none, s, env) => (none, s, env)
    | (some e, s, env) =>
      if e.isRecoverable then
        let lacking := if e = .outOfCaps then Resource.caps else .ram
        p.attempt e n s (env.requestResources (Env.resourceText s.resources lacking))
      else (some e, s, env)

/-- Do the work due in the phase of a session. -/
def initiate (p : ParentService) (s : Session) (env : Env) : Outcome ParentService :=
  match p.tries with
  | .once =>
    let (error, s, env) := p.forward s env
    let settled :=
      match error with
      | some e => if e.isRecoverable && s.phase == .createRequested then s.advance .closed else s
      | none => s
    { error, service := p, session := settled, env }
  | .upTo n =>
    let (error, s, env) := p.attempt .outOfRam n s env
    { error, service := p, session := s, env }

end ParentService

end SessionBroker
