import SessionBroker.Proofs.Asking
import SessionBroker.Proofs.Requests

/-!
# SessionBroker.Proofs.Calls — what is recorded while a provider works on a session

* `Event.isCall`: the calls of this component to the parent and to its factories.
* `Env.Requests env env'`: calls to the parent are recorded from `env` to `env'`, and nothing else, as while a service of
  the parent works on a session (`ParentService.requests_initiate`).
* `Env.Calls env env'`: calls are recorded, and nothing else, as while any built-in provider works on a session
  (`Registry.calls_initiate?`).
* `Env.bells`: the bells of providers that were rung so far.  Calls ring none.
-/

namespace SessionBroker

/-- Whether an event is a call to the parent or to a factory.  The others are answers to the parent and wakeups. -/
def Event.isCall : Event → Bool
  | .sessionAsked _ _ _ _ | .upgradeAsked _ _ | .closeAsked _ | .resourcesAsked _ | .handlerSet _ => true
  | .objectAsked _ _ _ | .objectUpgraded _ _ _ _ | .objectDestroyed _ _ => true
  | .delivered _ _ | .answered _ _ | .requestSeen _ _ _ | .woken _ => false

/-- Whether an event is a call to the parent. -/
def Event.isRequest : Event → Bool
  | .sessionAsked _ _ _ _ | .upgradeAsked _ _ | .closeAsked _ | .resourcesAsked _ | .handlerSet _ => true
  | _ => false

/-- The bell that an event rings, if it is a wakeup. -/
def Event.bell? : Event → Option String
  | .woken name => some name
  | _ => none

theorem Event.bell?_of_isCall {e : Event} (h : e.isCall = true) : e.bell? = none := by
  cases e <;> first | rfl | cases h

namespace Env

/-- The bells of providers that were rung so far, in order. -/
def bells (env : Env) : List String := env.trace.filterMap Event.bell?

theorem bells_record (env : Env) (e : Event) : (env.record e).bells = env.bells ++ e.bell?.toList := by
  simp only [bells, record, List.filterMap_append, List.filterMap_cons, List.filterMap_nil]
  cases e.bell? <;> rfl

theorem bells_answer (env : Env) (id : ServerId) (a : Answer) : (env.answer id a).bells = env.bells := by
  rw [answer, bells_record]
  exact List.append_nil _

theorem bells_deliver (env : Env) (id : ServerId) (cap : Capability) : (env.deliver id cap).bells = env.bells := by
  rw [deliver, bells_record]
  exact List.append_nil _

/-- Calls are recorded, and nothing else. -/
def Calls (env env' : Env) : Prop := ∃ es, env'.trace = env.trace ++ es ∧ ∀ e ∈ es, e.isCall = true

namespace Calls

variable {env env' env'' : Env}

theorem refl (env : Env) : Calls env env := Logs.refl env

theorem trans (h : Calls env env') (h' : Calls env' env'') : Calls env env'' := Logs.trans h h'

/-- A step that records nothing. -/
theorem of_eq (h : env'.trace = env.trace) : Calls env env' := Logs.of_eq h

theorem record (env : Env) {e : Event} (h : e.isCall = true) : Calls env (env.record e) := Logs.record env h

/-- Calls ring no bell. -/
theorem bells_eq (h : Calls env env') : env'.bells = env.bells :=
  Logs.filterMap_eq h fun _ => Event.bell?_of_isCall

end Calls

/-! ### Calls to the parent -/

/-- Calls to the parent are recorded, and nothing else. -/
def Requests (env env' : Env) : Prop := Logs Event.isRequest env env'

/-- Asking the parent for quota is calling it. -/
theorem Requests.of_asks {env env' : Env} (h : env.Asks env') : Requests env env' :=
  h.logs.mono fun e he => by cases e <;> first | rfl | cases he

theorem Requests.calls {env env' : Env} (h : env.Requests env') : Calls env env' :=
  h.mono fun e he => by cases e <;> first | rfl | cases he

theorem requests_requestId (p : ParentService) (s : Session) (env : Env) : Requests env (p.requestId s env).2 := by
  unfold ParentService.requestId
  split
  · exact .refl env
  · exact .of_eq rfl

theorem requests_releaseId (env : Env) (id : ClientId) : Requests env (env.releaseId id) := by
  unfold releaseId
  split
  · exact .refl env
  · exact .of_eq rfl

theorem requests_askSession (env : Env) (id : ClientId) (service : String) (args : Args) (affinity : Affinity) :
    Requests env (env.askSession id service args affinity).2 := by
  have hrecord : Requests env (env.record (.sessionAsked id service args.text affinity)) := .record env rfl
  unfold askSession
  simp only
  split
  · exact hrecord.trans (.of_eq rfl)
  · exact hrecord.trans (.of_eq rfl)

/-- A call is paid for, and the quota comes back if it fails. -/
theorem requests_paying {α : Type} (env : Env) (q : Quota) {call : Env → Except SessionError α × Env}
    (hcall : ∀ e, Requests e (call e).2) : Requests env (env.paying q call).2 := by
  unfold paying
  simp only
  split
  · exact .refl env
  · rename_i bank _
    have hpaid : Requests env { env with bank := bank } := .of_eq rfl
    have hcalled := hpaid.trans (hcall { env with bank := bank })
    split
    · rename_i heq
      rw [heq] at hcalled
      exact hcalled
    · rename_i heq
      rw [heq] at hcalled
      exact hcalled.trans (.of_eq rfl)

theorem requests_session (env : Env) (id : ClientId) (service : String) (args : Args) (affinity : Affinity) :
    Requests env (env.session id service args affinity).2 := by
  unfold session
  split
  · exact .refl env
  · exact requests_paying env _ fun e => requests_askSession e id service args affinity

theorem requests_close (env : Env) (id : ClientId) : Requests env (env.close id) := by
  have hrecord : Requests env (env.askClose id) := .record env rfl
  exact hrecord.trans (requests_releaseId _ id)

end Env

/-! ### The work of providers -/

theorem Factory.calls_create (f : Factory) (service : String) (args : Args) (affinity : Affinity) (env : Env) :
    env.Calls (f.create service args affinity env).2.2 := by
  unfold create
  split
  · exact .refl env
  · have hrecord := Env.Calls.record env (e := .objectAsked service args.text affinity) rfl
    simp only
    split
    · exact hrecord
    · exact hrecord.trans (.of_eq rfl)

theorem Factory.calls_upgrade (f : Factory) (service : String) (o : SessionObject) (args : Args) (env : Env) :
    env.Calls (f.upgrade service o args env).2 := by
  unfold upgrade
  split
  · exact .refl env
  · exact .record env rfl

theorem Factory.calls_destroy (f : Factory) (service : String) (o : SessionObject) (env : Env) :
    env.Calls (f.destroy service o env) := by
  unfold destroy
  split
  · exact .refl env
  · exact .record env rfl

namespace LocalService

variable (l : LocalService) (s : Session) (env : Env)

theorem calls_create : env.Calls (l.create s env).env := by
  have hcall := l.factory.calls_create l.name s.args s.affinity env
  unfold create
  split
  · rename_i heq
    rw [heq] at hcall
    exact hcall
  · rename_i heq
    rw [heq] at hcall
    split <;> exact hcall

theorem calls_upgrade : env.Calls (l.upgrade s env).env := by
  unfold upgrade
  simp only
  split
  · exact .refl env
  · split
    · exact .refl env
    · exact l.factory.calls_upgrade l.name _ s.upgradeArgs env

theorem calls_close : env.Calls (l.close s env).env := by
  unfold close
  simp only
  split
  · exact .refl env
  · split
    · exact .refl env
    · exact l.factory.calls_destroy l.name _ env

theorem calls_initiate : env.Calls (l.initiate s env).env := by
  unfold initiate
  split
  · exact l.calls_create s env
  · exact l.calls_upgrade s env
  · exact l.calls_close s env
  · exact .refl env

end LocalService

namespace ParentService

variable (p : ParentService) (s : Session) (env : Env)

theorem requests_create : env.Requests (p.create s env).2.2 := by
  have hcall := (Env.requests_requestId p s env).trans
    (Env.requests_session (p.requestId s env).2 (p.requestId s env).1 p.name s.args s.affinity)
  unfold create
  simp only
  split
  · rename_i heq
    rw [heq] at hcall
    exact hcall
  · rename_i e env' heq
    rw [heq] at hcall
    have hrelease := hcall.trans (Env.requests_releaseId env' (p.requestId s env).1)
    split <;> exact hrelease

theorem requests_upgrade : env.Requests (upgrade s env).2 := by
  unfold upgrade
  simp only
  split
  · exact .refl env
  · exact .of_asks (Env.asks_upgrade env _ _)

theorem requests_close : env.Requests (close s env).2 := by
  unfold close
  cases s.downstream with
  | none => exact .refl env
  | some id => exact Env.requests_close env id

theorem requests_forward : env.Requests (p.forward s env).2.2 := by
  unfold forward
  split
  · exact p.requests_create s env
  · exact requests_upgrade s env
  · exact requests_close s env
  · exact .refl env

theorem requests_attempt : ∀ (n : Nat) (last : SessionError) (s : Session) (env : Env),
    env.Requests (p.attempt last n s env).2.2
  | 0, _, _, env => .refl env
  | n + 1, last, s, env => by
    have htry := p.requests_forward s env
    unfold attempt
    split
    · rename_i heq
      rw [heq] at htry
      exact htry
    · rename_i e s' env' heq
      rw [heq] at htry
      split
      · exact (htry.trans (Env.Requests.of_asks (Env.asks_requestResources env' _))).trans (requests_attempt n e s' _)
      · exact htry

theorem requests_initiate : env.Requests (p.initiate s env).env := by
  unfold initiate
  split
  · exact p.requests_forward s env
  · exact p.requests_attempt _ _ s env

end ParentService

theorem Desk.env_initiate (d : Desk) (s : Session) (env : Env) : (d.initiate s env).env = env := by
  unfold initiate
  split
  · rfl
  · split <;> rfl
  · rfl

namespace Registry

variable {limit : Word} {r : Registry} {s : Session} {env : Env} {o : Outcome Registry} {p : Provider}

/-- A built-in provider that works on a session makes calls, and wakes nobody. -/
theorem calls_initiate? (hr : r.BuiltIn limit) (h : r.initiate? s env p = some o) : env.Calls o.env := by
  cases p with
  | here n =>
    obtain ⟨v, hv, rfl⟩ := Option.map_eq_some_iff.1 h
    obtain ⟨l, rfl⟩ := hr.locals n v hv
    exact l.calls_initiate s env
  | later n =>
    obtain ⟨d, -, rfl⟩ := Option.map_eq_some_iff.1 h
    exact .of_eq (congrArg Env.trace (d.env_initiate s env))
  | parent n =>
    obtain ⟨v, -, rfl⟩ := Option.map_eq_some_iff.1 h
    exact (v.requests_initiate s env).calls
  | child c n =>
    obtain ⟨v, -, rfl⟩ := Option.map_eq_some_iff.1 h
    exact .of_eq (congrArg Env.trace (v.desk.env_initiate s env))

end Registry

end SessionBroker
