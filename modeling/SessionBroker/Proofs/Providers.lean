import SessionBroker.Broker.Registry
import SessionBroker.Proofs.FreshIds
import SessionBroker.Proofs.Lifecycle
import SessionBroker.Proofs.Surroundings

/-!
# SessionBroker.Proofs.Providers — what the built-in services do with a session

* `Registry.BuiltIn`: the local services make objects, and the parent services try again when quota runs out.
* `Created p s`: how a provider that answers at once leaves a session that it was asked to create.
* `Registry.desk?`, `Registry.request?`: the requests posted at a provider that answers later.
* `Registry.Alike`: the same requests and the same accounts.  Giving a session to a provider that answers at once
  leads to a registry alike (`initiate?_sync`).
-/

namespace SessionBroker

/-! ### Creating, upgrading and closing at once -/

/-- How a provider that answers at once leaves a session that it was asked to create. -/
inductive Created (p : Provider) (s : Session) : Option SessionError → Session → Prop
  | granted (h : Handle) (d : Option ClientId) :
      (∀ n, p = .here n → d = none) → Created p s none { s with downstream := d, handle := some h, phase := .available }
  | refused (next : Phase) (error : Option SessionError) :
      next.isCreateFailure = true → Created p s error { s with phase := next }
  | failed (e : SessionError) : Created p s (some e) s

/-- A session after its pending upgrade was applied. -/
def Session.upgraded (s : Session) : Session := { s with pendingUpgrade := 0, phase := .capHandedOut }

/-- A session after it was closed by its provider. -/
def Session.closed (s : Session) : Session := { s with handle := none, downstream := none, phase := .closed }

theorem SessionError.isCreateFailure_of_terminalPhase {e : SessionError} {p : Phase} (h : e.terminalPhase? = some p) :
    p.isCreateFailure = true := by
  cases e <;> cases h <;> rfl

theorem SessionError.isRecoverable_of_terminalPhase {e : SessionError} (h : e.terminalPhase? = none) :
    e.isRecoverable = true := by
  cases e <;> first | rfl | cases h

namespace Session

variable {s : Session}

@[simp] theorem donated_advance (s : Session) (p : Phase) : (s.advance p).donated = s.donated := by
  unfold advance
  split <;> rfl

@[simp] theorem downstream_advance (s : Session) (p : Phase) : (s.advance p).downstream = s.downstream := by
  unfold advance
  split <;> rfl

theorem handle_advance (s : Session) (p : Phase) : (s.advance p).handle = s.handle := by
  unfold advance
  split <;> rfl

theorem advance_createFailure {p : Phase} (hs : s.phase = .createRequested) (hp : p.isCreateFailure = true) :
    s.advance p = { s with phase := p } := by
  unfold advance permits
  rw [hs]
  cases p <;> first | rfl | cases hp

theorem requestUpgrade_eq (hs : s.phase.isEstablished = true) (q : Quota) :
    s.requestUpgrade q = { s with pendingUpgrade := s.pendingUpgrade + q, phase := .upgradeRequested } := by
  cases hp : s.phase <;>
    first
      | exact absurd hs (by rw [hp]; decide)
      | simp [requestUpgrade, advance, permits, hp, Phase.canReach, Phase.next]

theorem advance_closeRequested (hs : s.phase ≠ .closed) :
    s.advance .closeRequested = { s with phase := .closeRequested } := by
  cases hp : s.phase <;>
    first
      | exact absurd hp hs
      | simp [advance, permits, hp, Phase.canReach, Phase.next]

theorem advance_closed (hs : s.phase.isEstablished = false) : s.advance .closed = { s with phase := .closed } := by
  cases hp : s.phase <;>
    first
      | exact absurd hs (by rw [hp]; decide)
      | simp [advance, permits, hp, Phase.canReach, Phase.next]

theorem settled_eq (hs : s.phase = .upgradeRequested) : s.confirmUpgrade.advance .capHandedOut = s.upgraded := by
  simp [confirmUpgrade, advance, permits, upgraded, hs, Phase.canReach, Phase.next]

theorem closed_eq (hs : s.phase = .closeRequested) :
    { s with downstream := none, handle := none }.advance .closed = s.closed := by
  simp [advance, permits, closed, hs, Phase.canReach, Phase.next]

theorem closed_of_unposted (hs : s.phase = .closeRequested) (hd : s.downstream = none) :
    { s with handle := none }.advance .closed = s.closed := by
  rw [← closed_eq hs]
  congr 1
  exact Session.ext rfl rfl rfl rfl rfl rfl rfl rfl rfl hd rfl rfl rfl rfl

end Session

namespace Factory

variable (f : Factory) (service : String) (args : Args) (env : Env)

theorem aside_create (affinity : Affinity) : env.Aside (f.create service args affinity env).2.2 := by
  unfold create
  split
  · exact .refl env
  · rename_i refusal asked made
    have hrecord : env.Aside (env.record (.objectAsked service args.text affinity)) := .record env fun _ => rfl
    simp only
    split
    · exact hrecord
    · exact hrecord.trans (Env.aside_mint _ service)

theorem aside_upgrade (o : SessionObject) : env.Aside (f.upgrade service o args env).2 := by
  unfold upgrade
  split
  · exact .refl env
  · exact .record env fun _ => rfl

theorem aside_destroy (o : SessionObject) : env.Aside (f.destroy service o env) := by
  unfold destroy
  split
  · exact .refl env
  · exact .record env fun _ => rfl

end Factory

namespace LocalService

variable (l : LocalService) {s : Session} (env : Env)

theorem create_spec (n : String) (hs : s.phase = .createRequested) (hd : s.downstream = none) :
    Created (.here n) s (l.create s env).error (l.create s env).session ∧ env.Aside (l.create s env).env := by
  have haside := l.factory.aside_create l.name s.args env s.affinity
  unfold create
  split
  · rename_i o factory env' heq
    rw [heq] at haside
    refine ⟨?_, haside⟩
    have hadv : { s with handle := some ⟨o.cap, some l.nextSlot⟩ }.advance .available =
        { s with downstream := none, handle := some ⟨o.cap, some l.nextSlot⟩, phase := .available } := by
      simp [Session.advance, Session.permits, hs, hd, Phase.canReach, Phase.next]
    show Created _ s none ({ s with handle := some ⟨o.cap, some l.nextSlot⟩ }.advance .available)
    rw [hadv]
    exact .granted _ none fun _ _ => rfl
  · rename_i e factory env' heq
    rw [heq] at haside
    split
    · rename_i p hp
      have hfail := SessionError.isCreateFailure_of_terminalPhase hp
      refine ⟨?_, haside⟩
      show Created _ s none (s.advance p)
      rw [Session.advance_createFailure hs hfail]
      exact .refused p none hfail
    · exact ⟨.failed e, haside⟩

theorem upgrade_spec (hs : s.phase = .upgradeRequested) :
    (l.upgrade s env).error = none ∧ (l.upgrade s env).session = s.upgraded ∧ env.Aside (l.upgrade s env).env := by
  unfold upgrade
  simp only [Session.settled_eq hs]
  split
  · exact ⟨rfl, rfl, .refl env⟩
  · split
    · exact ⟨rfl, rfl, .refl env⟩
    · exact ⟨rfl, rfl, l.factory.aside_upgrade l.name s.upgradeArgs env _⟩

theorem close_spec (hs : s.phase = .closeRequested) (hd : s.downstream = none) :
    (l.close s env).session = s.closed ∧ env.Aside (l.close s env).env := by
  unfold close
  simp only [Session.closed_of_unposted hs hd]
  split
  · exact ⟨rfl, .refl env⟩
  · split
    · exact ⟨rfl, .refl env⟩
    · exact ⟨rfl, l.factory.aside_destroy l.name env _⟩

end LocalService

namespace ParentService

variable (p : ParentService) {s : Session} (env : Env)

theorem aside_requestId (s : Session) : env.Aside (p.requestId s env).2 := by
  unfold requestId
  split
  · exact .refl env
  · exact Env.aside_allocId env p.name

/-- A create that the parent is asked for: a failure that a resource request can resolve leaves the session as it is. -/
theorem create_spec (n : String) (hs : s.phase = .createRequested) (hd : s.downstream = none) :
    ((∃ e, e.isRecoverable = true ∧ (p.create s env).1 = some e ∧ (p.create s env).2.1 = s) ∨
      (p.create s env).1 = none ∧ Created (.parent n) s none (p.create s env).2.1) ∧
      env.Aside (p.create s env).2.2 := by
  have hid := p.aside_requestId env s
  unfold create
  simp only
  have hcall := hid.trans (Env.aside_session (p.requestId s env).2 (p.requestId s env).1 p.name s.args s.affinity)
  split
  · rename_i cap env' heq
    rw [heq] at hcall
    refine ⟨.inr ⟨rfl, ?_⟩, hcall⟩
    have hadv : { s with downstream := some (p.requestId s env).1, handle := some ⟨cap, none⟩ }.advance .available =
        { s with
          downstream := some (p.requestId s env).1, handle := some ⟨cap, none⟩, phase := .available } := by
      simp [Session.advance, Session.permits, hs, Phase.canReach, Phase.next]
    rw [hadv]
    exact .granted _ _ fun _ h => by cases h
  · rename_i e env' heq
    rw [heq] at hcall
    have hsame : { s with downstream := none } = s := by rw [← hd]
    have hrelease := hcall.trans (Env.aside_releaseId env' (p.requestId s env).1)
    simp only [hsame]
    split
    · rename_i next hnext
      have hfail := SessionError.isCreateFailure_of_terminalPhase hnext
      refine ⟨.inr ⟨rfl, ?_⟩, hrelease⟩
      rw [Session.advance_createFailure hs hfail]
      exact .refused next none hfail
    · rename_i hnext
      exact ⟨.inl ⟨e, SessionError.isRecoverable_of_terminalPhase hnext, rfl, rfl⟩, hrelease⟩

/-- A create that is tried several times ends the session one way or the other. -/
theorem attempt_create (n : String) (hs : s.phase = .createRequested) (hd : s.downstream = none) :
    ∀ (tries : Nat) (last : SessionError) (env : Env),
      Created (.parent n) s (p.attempt last tries s env).1 (p.attempt last tries s env).2.1 ∧
        env.Aside (p.attempt last tries s env).2.2
  | 0, last, env => by
    refine ⟨?_, .refl env⟩
    show Created _ s (some last) (if s.phase = .createRequested then s.advance .serviceDenied else s)
    rw [if_pos hs, Session.advance_createFailure hs rfl]
    exact .refused _ _ rfl
  | tries + 1, last, env => by
    obtain ⟨hcreate, haside⟩ := p.create_spec env n hs hd
    have hforward : p.forward s env = p.create s env := by
      unfold forward
      rw [hs]
    unfold attempt
    rw [hforward]
    rcases hcreate with ⟨e, hrec, herr, hsame⟩ | ⟨hnone, hcreated⟩
    · obtain ⟨r, hr⟩ : ∃ r, r = p.create s env := ⟨_, rfl⟩
      obtain ⟨error, s', env'⟩ := r
      rw [← hr] at herr hsame haside ⊢
      obtain rfl : error = some e := herr
      obtain rfl : s = s' := hsame.symm
      simp only [hrec, if_true]
      obtain ⟨hlater, hrest⟩ := attempt_create n hs hd tries e
        (env'.requestResources (Env.resourceText s.resources (if e = .outOfCaps then Resource.caps else .ram)))
      exact ⟨hlater, (haside.trans (Env.aside_requestResources env' _)).trans hrest⟩
    · obtain ⟨r, hr⟩ : ∃ r, r = p.create s env := ⟨_, rfl⟩
      obtain ⟨error, s', env'⟩ := r
      rw [← hr] at hnone hcreated haside ⊢
      obtain rfl : error = none := hnone
      exact ⟨hcreated, haside⟩

/-- A create that is granted was tried. -/
theorem tries_ne_zero_of_attempt {tries : Nat} {last : SessionError} (hs : s.phase = .createRequested)
    (h : (p.attempt last tries s env).2.1.phase.isEnded = false)
    (h' : (p.attempt last tries s env).2.1.phase ≠ .createRequested) : tries ≠ 0 := by
  rintro rfl
  simp [attempt, hs, Session.advance_createFailure hs (rfl : Phase.serviceDenied.isCreateFailure = true),
    Phase.isEnded, Phase.isCreateFailure] at h

theorem attempt_upgrade {tries : Nat} (last : SessionError) (htries : tries ≠ 0) (hs : s.phase = .upgradeRequested) :
    (p.attempt last tries s env).1 = none ∧ (p.attempt last tries s env).2.1 = s.upgraded ∧
      env.Aside (p.attempt last tries s env).2.2 := by
  obtain ⟨n, rfl⟩ := Nat.exists_eq_succ_of_ne_zero htries
  have hforward : p.forward s env = (none, upgrade s env) := by
    unfold forward
    rw [hs]
  unfold attempt
  rw [hforward]
  show none = none ∧ (upgrade s env).1 = s.upgraded ∧ env.Aside (upgrade s env).2
  unfold upgrade
  simp only [Session.settled_eq hs, true_and]
  split
  · exact ⟨rfl, .refl env⟩
  · exact ⟨rfl, Env.aside_upgrade env _ _⟩

theorem attempt_close {tries : Nat} (last : SessionError) (htries : tries ≠ 0) (hs : s.phase = .closeRequested) :
    (p.attempt last tries s env).2.1 = s.closed ∧ env.Aside (p.attempt last tries s env).2.2 := by
  obtain ⟨n, rfl⟩ := Nat.exists_eq_succ_of_ne_zero htries
  have hforward : p.forward s env = (none, close s env) := by
    unfold forward
    rw [hs]
  unfold attempt
  rw [hforward]
  refine ⟨Session.closed_eq hs, ?_⟩
  unfold close
  cases s.downstream with
  | some id => exact Env.aside_close env id
  | none => exact .refl env

end ParentService

/-! ### Registries -/

namespace Registry

/-- Whether the services are the built-in ones: local services make objects, and parent services try again when quota
runs out, as often as the configuration says. -/
structure BuiltIn (limit : Word) (r : Registry) : Prop where
  locals : ∀ n v, r.locals.find? n = some v → ∃ l, v = .made l
  parents : ∀ n v, r.parents.find? n = some v → v.tries = .upTo limit.val

/-- The posted requests of a provider, where there are any. -/
def desk? (r : Registry) : Provider → Option Desk
  | .later n => r.desks.find? n
  | .child c s => (r.children.find? ⟨c, s⟩).map (·.desk)
  | .here _ | .parent _ => none

/-- The session behind a request posted at a provider. -/
def request? (r : Registry) (p : Provider) (request : ClientId) : Option ServerId :=
  (r.desk? p).bind fun d => d.lookup? request

theorem request?_child (r : Registry) (k : ChildKey) (i : ClientId) :
    r.request? k.provider i = (r.children.find? k).bind fun v => v.desk.lookup? i := by
  show ((r.children.find? k).map _).bind _ = _
  rw [Option.bind_map]
  rfl

theorem account_child (r : Registry) (k : ChildKey) : r.account k.provider = (r.children.find? k).map (·.account) := rfl

/-- The same services, as far as requests and accounts go. -/
structure Alike (limit : Word) (r r' : Registry) : Prop where
  builtIn : r'.BuiltIn limit
  desk : ∀ p, r'.desk? p = r.desk? p
  account : ∀ p, r'.account p = r.account p

variable {limit : Word} {r r' : Registry} {s : Session} {env : Env} {o : Outcome Registry} {p : Provider}

theorem BuiltIn.account_of_not_child (hr : r.BuiltIn limit) (hp : ∀ c n, p ≠ .child c n) : r.account p = none := by
  cases p with
  | here n =>
    cases hv : r.locals.find? n with
    | none => simp [account, hv]
    | some v =>
      obtain ⟨l, rfl⟩ := hr.locals n v hv
      simp [account, hv, Service.account]
  | later n => rfl
  | parent n => rfl
  | child c n => exact absurd rfl (hp c n)

theorem BuiltIn.account_of_sync (hr : r.BuiltIn limit) (hp : p.isAsync = false) : r.account p = none :=
  hr.account_of_not_child fun _ _ h => by rw [h] at hp; cases hp

/-- Whether a provider completes sessions later shows in its name. -/
theorem BuiltIn.isAsync_eq (hr : r.BuiltIn limit) (p : Provider) : r.isAsync p = p.isAsync := by
  cases p with
  | here n =>
    cases hv : r.locals.find? n with
    | none => simp [isAsync, Provider.isAsync, hv]
    | some v =>
      obtain ⟨l, rfl⟩ := hr.locals n v hv
      simp [isAsync, Provider.isAsync, hv, Service.isAsync]
  | later n | parent n | child c n => rfl

theorem Alike.refl (hr : r.BuiltIn limit) : r.Alike limit r := ⟨hr, fun _ => rfl, fun _ => rfl⟩

theorem Alike.trans {r'' : Registry} (h : r.Alike limit r') (h' : r'.Alike limit r'') : r.Alike limit r'' :=
  ⟨h'.builtIn, fun p => (h'.desk p).trans (h.desk p), fun p => (h'.account p).trans (h.account p)⟩

theorem Alike.request? (h : r.Alike limit r') (p : Provider) (request : ClientId) :
    r'.request? p request = r.request? p request := by
  unfold Registry.request?
  rw [h.desk]

/-- Another service that makes objects in the place of one. -/
theorem Alike.insert_local (hr : r.BuiltIn limit) (n : String) (l : LocalService) :
    r.Alike limit { r with locals := r.locals.insert n (.made l) } := by
  have hbuilt : Registry.BuiltIn limit { r with locals := r.locals.insert n (.made l) } := by
    refine ⟨fun m v hv => ?_, hr.parents⟩
    by_cases hm : m = n
    · subst hm
      rw [Table.find?_insert_self] at hv
      exact ⟨l, (Option.some.inj hv).symm⟩
    · rw [Table.find?_insert_of_ne _ _ hm] at hv
      exact hr.locals m v hv
  refine ⟨hbuilt, fun p => by cases p <;> rfl, fun p => ?_⟩
  by_cases hp : ∃ c n, p = .child c n
  · obtain ⟨c, n, rfl⟩ := hp
    rfl
  · have hnot : ∀ c n, p ≠ .child c n := fun c n h => hp ⟨c, n, h⟩
    rw [hbuilt.account_of_not_child hnot, hr.account_of_not_child hnot]

theorem Alike.insert_parent (hr : r.BuiltIn limit) (n : String) {v : ParentService} (hv : v.tries = .upTo limit.val) :
    r.Alike limit { r with parents := r.parents.insert n v } := by
  refine ⟨⟨hr.locals, fun m w hw => ?_⟩, fun p => by cases p <;> rfl, fun p => by cases p <;> rfl⟩
  by_cases hm : m = n
  · subst hm
    rw [Table.find?_insert_self] at hw
    rwa [← Option.some.inj hw]
  · rw [Table.find?_insert_of_ne _ _ hm] at hw
    exact hr.parents m w hw

/-- Looking a provider up may make a parent service, and nothing else. -/
theorem alike_find (hr : r.BuiltIn limit) (service : String) (target : Target) :
    r.Alike limit (r.find limit service target).2 := by
  unfold find
  split
  · exact .refl hr
  · unfold findParent
    split
    · exact .refl hr
    · exact .insert_parent hr service rfl
  · exact .refl hr

/-! ### Providers that answer at once -/

/-- A provider that answers at once is a service that makes objects or one of the parent. -/
theorem initiate?_sync (hr : r.BuiltIn limit) (hp : p.isAsync = false) (h : r.initiate? s env p = some o) :
    r.Alike limit o.service ∧
      ((∃ n l, p = .here n ∧ o.error = (LocalService.initiate l s env).error ∧
          o.session = (l.initiate s env).session ∧ o.env = (l.initiate s env).env) ∨
        ∃ n v, p = .parent n ∧ (o.error, o.session, o.env) = ParentService.attempt v .outOfRam limit.val s env) := by
  cases p with
  | here n =>
    obtain ⟨v, hv, rfl⟩ := Option.map_eq_some_iff.1 h
    obtain ⟨l, rfl⟩ := hr.locals n v hv
    exact ⟨.insert_local hr n _, .inl ⟨n, l, rfl, rfl, rfl, rfl⟩⟩
  | parent n =>
    obtain ⟨v, hv, rfl⟩ := Option.map_eq_some_iff.1 h
    have htries := hr.parents n v hv
    have hinit : v.initiate s env =
        { error := (v.attempt .outOfRam limit.val s env).1
          service := v
          session := (v.attempt .outOfRam limit.val s env).2.1
          env := (v.attempt .outOfRam limit.val s env).2.2 } := by
      unfold ParentService.initiate
      rw [htries]
    rw [hinit]
    exact ⟨.insert_parent hr n htries, .inr ⟨n, v, rfl, rfl⟩⟩
  | later n | child c n => cases hp

theorem initiate?_sync_create (hr : r.BuiltIn limit) (hp : p.isAsync = false) (h : r.initiate? s env p = some o)
    (hs : s.phase = .createRequested) (hd : s.downstream = none) :
    r.Alike limit o.service ∧ env.Aside o.env ∧ Created p s o.error o.session ∧
      (o.session.phase = .available → ∀ n, p = .parent n → limit ≠ 0) := by
  obtain ⟨halike, ⟨n, l, rfl, herr, hses, henv⟩ | ⟨n, v, rfl, heq⟩⟩ := initiate?_sync hr hp h
  · have hinit : l.initiate s env = l.create s env := by
      unfold LocalService.initiate
      rw [hs]
    obtain ⟨hcreated, haside⟩ := l.create_spec env n hs hd
    rw [herr, hses, henv, hinit]
    exact ⟨halike, haside, hcreated, fun _ m hm => by cases hm⟩
  · obtain ⟨hcreated, haside⟩ := v.attempt_create n hs hd limit.val .outOfRam env
    have hses : o.session = (v.attempt .outOfRam limit.val s env).2.1 := congrArg (·.2.1) heq
    rw [← heq] at hcreated haside
    refine ⟨halike, haside, hcreated, fun havail _ _ hzero => ?_⟩
    rw [hses] at havail
    refine v.tries_ne_zero_of_attempt env hs (by rw [havail]; rfl) (by rw [havail]; decide) ?_
    rw [hzero]
    rfl

theorem initiate?_sync_upgrade (hr : r.BuiltIn limit) (hp : p.isAsync = false) (h : r.initiate? s env p = some o)
    (hs : s.phase = .upgradeRequested) (hlimit : ∀ n, p = .parent n → limit ≠ 0) :
    r.Alike limit o.service ∧ env.Aside o.env ∧ o.error = none ∧ o.session = s.upgraded := by
  obtain ⟨halike, ⟨n, l, rfl, herr, hses, henv⟩ | ⟨n, v, rfl, heq⟩⟩ := initiate?_sync hr hp h
  · have hinit : l.initiate s env = l.upgrade s env := by
      unfold LocalService.initiate
      rw [hs]
    obtain ⟨hnone, hup, haside⟩ := l.upgrade_spec env hs
    rw [herr, hses, henv, hinit]
    exact ⟨halike, haside, hnone, hup⟩
  · have hne : limit.val ≠ 0 := fun h0 => hlimit n rfl (Word.ext h0)
    obtain ⟨hnone, hup, haside⟩ := v.attempt_upgrade env .outOfRam hne hs
    rw [← heq] at hnone hup haside
    exact ⟨halike, haside, hnone, hup⟩

/-- A provider that answers at once closes a session, unless it is a service of the parent that may not try. -/
theorem initiate?_sync_close (hr : r.BuiltIn limit) (hp : p.isAsync = false) (h : r.initiate? s env p = some o)
    (hs : s.phase = .closeRequested) (hhere : ∀ n, p = .here n → s.downstream = none) :
    r.Alike limit o.service ∧ env.Aside o.env ∧
      (o.session = s.closed ∨ o.session = s ∧ limit = 0 ∧ ∃ n, p = .parent n) := by
  obtain ⟨halike, ⟨n, l, rfl, -, hses, henv⟩ | ⟨n, v, rfl, heq⟩⟩ := initiate?_sync hr hp h
  · have hinit : l.initiate s env = l.close s env := by
      unfold LocalService.initiate
      rw [hs]
    obtain ⟨hclosed, haside⟩ := l.close_spec env hs (hhere n rfl)
    rw [hses, henv, hinit]
    exact ⟨halike, haside, .inl hclosed⟩
  · by_cases hzero : limit = 0
    · subst hzero
      have hses : o.session = s := by
        have hidle : v.attempt .outOfRam 0 s env = (some .outOfRam, s, env) := by
          simp [ParentService.attempt, hs]
        exact congrArg (·.2.1) (heq.trans hidle)
      have henv : o.env = env := congrArg (·.2.2) heq
      rw [henv]
      exact ⟨halike, .refl env, .inr ⟨hses, rfl, n, rfl⟩⟩
    · obtain ⟨hclosed, haside⟩ := v.attempt_close env .outOfRam (fun h0 => hzero (Word.ext h0)) hs
      rw [← heq] at hclosed haside
      exact ⟨halike, haside, .inl hclosed⟩

end Registry

end SessionBroker
