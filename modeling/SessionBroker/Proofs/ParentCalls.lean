import SessionBroker.Proofs.Assignments
import SessionBroker.Proofs.Calls

/-!
# SessionBroker.Proofs.ParentCalls — when the parent is asked for a session

* `Env.Records env env' e`: event `e` is recorded on the way from `env` to `env'`.
* `ParentService.asked_initiate`: a service of the parent that works on a create asks for a session, unless the own
  account cannot pay.
* `Args.quota_setLabel`: the quota that is paid is the one of the request, under whatever label it is passed on.
-/

namespace SessionBroker

namespace Args

/-- The label is no part of the quota. -/
theorem quota_setLabel (a : Args) (l : Label) : (a.setLabel l).quota = a.quota := by
  unfold quota donation amount setLabel
  rw [get?_set_of_ne _ _ (by decide), get?_set_of_ne _ _ (by decide)]

end Args

/-! ### Asking the parent -/

namespace Env

variable {env env' env'' : Env} {e : Event}

/-- Event `e` is recorded on the way from `env` to `env'`. -/
def Records (env env' : Env) (e : Event) : Prop := ∃ es, env'.trace = env.trace ++ es ∧ e ∈ es

theorem Records.of_extends (h : env.Records env' e) (h' : env'.trace <+: env''.trace) : env.Records env'' e := by
  obtain ⟨es, htrace, he⟩ := h
  obtain ⟨es', htrace'⟩ := h'
  exact ⟨es ++ es', by rw [← htrace', htrace, List.append_assoc], List.mem_append_left _ he⟩

theorem Logs.trace_extends {p : Event → Bool} (h : Logs p env env') : env.trace <+: env'.trace := by
  obtain ⟨es, htrace, -⟩ := h
  exact ⟨es, htrace.symm⟩

theorem trace_extends_record (env : Env) (e : Event) : env.trace <+: (env.record e).trace := List.prefix_append _ _

theorem records_askSession (env : Env) (id : ClientId) (service : String) (args : Args) (affinity : Affinity) :
    env.Records (env.askSession id service args affinity).2 (.sessionAsked id service args.text affinity) := by
  refine ⟨[_], ?_, List.mem_singleton_self _⟩
  unfold askSession
  dsimp only
  split <;> rfl

/-- The own account cannot pay the parent. -/
def Lacks (env : Env) (q : Quota) : Prop := ∃ e, env.bank.pay (some env.own) env.parent.account q = .error e

/-- The parent is asked for a session, unless the own account cannot pay. -/
theorem records_session (env : Env) (id : ClientId) (service : String) {args : Args} (affinity : Affinity) {q : Quota}
    (hq : args.quota = .ok q) :
    env.Lacks q ∨ env.Records (env.session id service args affinity).2 (.sessionAsked id service args.text affinity) := by
  unfold session paying
  rw [hq]
  dsimp only
  cases hpay : env.bank.pay (some env.own) env.parent.account q with
  | error e => exact .inl ⟨e, hpay⟩
  | ok bank =>
    have hasked := records_askSession { env with bank := bank } id service args affinity
    refine .inr ?_
    dsimp only
    split
    · rename_i heq
      rw [heq] at hasked
      exact hasked
    · rename_i heq
      rw [heq] at hasked
      exact hasked

end Env

namespace ParentService

variable (p : ParentService) {s : Session} {q : Quota}

theorem asked_create (hq : s.args.quota = .ok q) (env : Env) :
    env.Lacks q ∨ ∃ i, env.Records (p.create s env).2.2 (.sessionAsked i p.name s.args.text s.affinity) := by
  obtain ⟨i, ids, hid⟩ : ∃ i ids, p.requestId s env = (i, { env with ids := ids }) := by
    unfold requestId
    split
    · exact ⟨_, env.ids, rfl⟩
    · exact ⟨_, _, rfl⟩
  have hcall := Env.records_session { env with ids := ids } i p.name s.affinity hq
  refine hcall.imp (fun h => h) fun hcall => ⟨i, ?_⟩
  unfold create
  rw [hid]
  dsimp only
  split
  · rename_i heq
    rw [heq] at hcall
    exact hcall
  · rename_i env' heq
    rw [heq] at hcall
    have hreleased := Env.Records.of_extends hcall (Env.requests_releaseId env' i).trace_extends
    split <;> exact hreleased

/-- The parent is asked at the first try. -/
theorem asked_attempt (hphase : s.phase = .createRequested) (hq : s.args.quota = .ok q) (last : SessionError)
    {tries : Nat} (htries : tries ≠ 0) (env : Env) :
    env.Lacks q ∨
      ∃ i, env.Records (p.attempt last tries s env).2.2 (.sessionAsked i p.name s.args.text s.affinity) := by
  obtain ⟨n, rfl⟩ := Nat.exists_eq_succ_of_ne_zero htries
  have hforward : p.forward s env = p.create s env := by
    unfold forward
    rw [hphase]
  refine (p.asked_create hq env).imp (fun h => h) ?_
  rintro ⟨i, hasked⟩
  rw [← hforward] at hasked
  refine ⟨i, hasked.of_extends ?_⟩
  unfold attempt
  rcases p.forward s env with ⟨_ | e, s', env'⟩
  · exact List.prefix_rfl
  · dsimp only
    split
    · exact ((Env.Requests.of_asks (Env.asks_requestResources env' _)).trans (p.requests_attempt n e s' _)).trace_extends
    · exact List.prefix_rfl

theorem asked_initiate (hphase : s.phase = .createRequested) (hq : s.args.quota = .ok q) {tries : Nat}
    (htries : p.tries = .upTo tries) (hsome : tries ≠ 0) (env : Env) :
    env.Lacks q ∨ ∃ i, env.Records (p.initiate s env).env (.sessionAsked i p.name s.args.text s.affinity) := by
  unfold initiate
  rw [htries]
  exact p.asked_attempt hphase hq .outOfRam hsome env

end ParentService

end SessionBroker
