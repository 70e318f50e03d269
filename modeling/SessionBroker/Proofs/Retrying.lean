import SessionBroker.Proofs.ParentCalls
import SessionBroker.Proofs.ParentIds
import SessionBroker.Proofs.Reversals

/-!
# SessionBroker.Proofs.Retrying — creates at the parent are all or nothing

A service of the parent tries a create again while the own account runs out of quota and tries are left.

* `Env.Resumes texts env env'`: the parent was asked for resources with the given texts.  Its grants are in the bank,
  and otherwise bank and ids in use are as before.
* `create_cases`: what one try leads to.  A try that fails resumes without a request, whether the own account could not
  pay or the parent refused.
* `ParentService.Failed p s es env env'`: tries that failed with `es`, each with a resource request behind it, led from
  `env` to `env'`; `Failed.resumes`: so the whole resumes with these requests.
* `create_all_or_nothing`: behind such tries the session is granted and paid for once, or it is refused and nothing was
  paid, or no tries are left and nothing was paid.
-/

namespace SessionBroker

/-! ### Sessions and what is reserved for them -/

namespace Session

/-- A session that was made, and changed since in any of the ways in which sessions are changed. -/
inductive Built : Session → Prop
  | create {service : String} {args : Args} {affinity : Affinity} {s : Session} :
      Session.create service args affinity = .ok s → Built s
  | perform {s : Session} (a : Act) : Built s → Built (s.perform a)

theorem advance_fields (s : Session) (p : Phase) : ∃ p', s.advance p = { s with phase := p' } := by
  unfold advance
  split
  · exact ⟨p, rfl⟩
  · exact ⟨s.phase, rfl⟩

/-- Changes leave what is reserved and the quota that the arguments name. -/
theorem reserved_perform (s : Session) (a : Act) :
    (s.perform a).resources = s.resources ∧ (s.perform a).args.quota = s.args.quota := by
  cases a with
  | relabel l => exact ⟨rfl, Args.quota_setLabel s.args l⟩
  | advance next =>
    obtain ⟨p, heq⟩ := s.advance_fields next
    simp [perform, heq]
  | requestUpgrade q =>
    obtain ⟨p, heq⟩ := s.advance_fields .upgradeRequested
    simp only [perform, requestUpgrade]
    split <;> simp [heq]
  | revertUpgrade q previous =>
    simp only [perform, revertUpgrade]
    split <;> simp
  | setHandle | takeHandle | setServerId | setDownstream | takeDownstream | confirmUpgrade | donate | takeDonated
  | setNotify | abandon => exact ⟨rfl, rfl⟩

/-- The arguments of a session name what is reserved for it. -/
theorem Built.quota {s : Session} (h : s.Built) : s.args.quota = .ok s.resources := by
  induction h with
  | create hs =>
    unfold Session.create at hs
    split at hs
    · cases hs
    · rename_i hq
      obtain rfl := Except.ok.inj hs
      exact hq
  | @perform s a _ ih =>
    obtain ⟨hresources, hquota⟩ := s.reserved_perform a
    rw [hresources, hquota]
    exact ih

end Session

/-! ### Grants -/

/-- Make a movement, each resource if it can be moved. -/
def Movement.make (b : Bank) (m : Movement) : Bank := b.tryPay m.payer m.payee m.quota

namespace Env

variable {env env' env'' : Env}

/-- The bank after the next `n` grants of the parent. -/
def bankAfter (env : Env) (n : Nat) : Bank := (env.parent.grants.take n).flatten.foldl Movement.make env.bank

/-- Ids are left and the own session has its id, and the parent has an account, which its grants do not take from. -/
structure Orderly (env : Env) : Prop where
  own : env.ids.contains ownSession = true
  room : env.ids.size < 0x10000000000000000
  payee : env.bank.Names env.parent.account
  grants : ∀ ms ∈ env.parent.grants, ∀ m ∈ ms, m.payee = some env.own ∧
    ∀ i, env.parent.account = some i → m.payer ≠ some i

theorem bank_grants : ∀ (ms : List Movement) (env : Env), (ms.foldl grant env).bank = ms.foldl Movement.make env.bank
  | [], _ => rfl
  | m :: ms, env => bank_grants ms (env.grant m)

theorem names_makeAll : ∀ (ms : List Movement) (b : Bank), (ms.foldl Movement.make b).names = b.names
  | [], _ => rfl
  | m :: ms, b => by
    rw [List.foldl_cons, names_makeAll ms]
    exact Bank.names_tryPay _ _ _ _

theorem names_bankAfter (env : Env) (n : Nat) : (env.bankAfter n).names = env.bank.names := names_makeAll _ _

/-- The parent has an account, and its grants pay the own account out of others. -/
structure Generous (env : Env) : Prop where
  payee : env.bank.Names env.parent.account
  grants : ∀ ms ∈ env.parent.grants, ∀ m ∈ ms, m.payee = some env.own ∧
    ∀ i, env.parent.account = some i → m.payer ≠ some i

theorem Orderly.generous (h : env.Orderly) : env.Generous := ⟨h.payee, h.grants⟩

/-- Grants leave the parent's account alone. -/
theorem Generous.untouched {i : AccountId} (h : env.Generous) (hi : env.parent.account = some i) (hown : i ≠ env.own)
    (n : Nat) : Bank.Untouched i env.bank (env.bankAfter n) := by
  unfold bankAfter
  rw [← bank_grants]
  refine untouched_grants _ env fun m hm => ?_
  obtain ⟨ms, hms, hmem⟩ := List.mem_flatten.1 hm
  obtain ⟨hpayee, hpayer⟩ := h.grants ms (List.mem_of_mem_take hms) m hmem
  refine ⟨hpayer i hi, ?_⟩
  rw [hpayee]
  exact fun heq => hown (Option.some.inj heq).symm

/-! ### Resource requests -/

/-- The texts of the resource requests so far, in order. -/
def demands (env : Env) : List String :=
  env.trace.filterMap fun
    | .resourcesAsked text => some text
    | _ => none

/-- The parent was asked for resources with the given texts, and its grants are in the bank.  Otherwise the bank is as
before, and so are the ids in use. -/
structure Resumes (texts : List String) (env env' : Env) : Prop where
  own : env'.own = env.own
  account : env'.parent.account = env.parent.account
  granted : env'.parent.granted = env.parent.granted
  table : env'.ids.table = env.ids.table
  grants : env'.parent.grants = env.parent.grants.drop texts.length
  bank : env'.bank = env.bankAfter texts.length
  demands : env'.demands = env.demands ++ texts

namespace Resumes

variable {texts texts' : List String}

theorem trans (h : Resumes texts env env') (h' : Resumes texts' env' env'') : Resumes (texts ++ texts') env env'' where
  own := h'.own.trans h.own
  account := h'.account.trans h.account
  granted := h'.granted.trans h.granted
  table := h'.table.trans h.table
  grants := by rw [h'.grants, h.grants, List.drop_drop, List.length_append]
  bank := by
    rw [h'.bank]
    unfold bankAfter
    rw [h.bank, h.grants, List.length_append, List.take_add, List.flatten_append, List.foldl_append]
    rfl
  demands := by rw [h'.demands, h.demands, List.append_assoc]

/-- A step that asks for no resources and restores the bank. -/
theorem of_bank (hown : env'.own = env.own) (haccount : env'.parent.account = env.parent.account)
    (hgranted : env'.parent.granted = env.parent.granted) (htable : env'.ids.table = env.ids.table)
    (hgrants : env'.parent.grants = env.parent.grants) (hbank : env'.bank = env.bank)
    (hdemands : env'.demands = env.demands) : Resumes [] env env' :=
  ⟨hown, haccount, hgranted, htable, hgrants, hbank, by rw [hdemands, List.append_nil]⟩

theorem refl (env : Env) : Resumes [] env env := of_bank rfl rfl rfl rfl rfl rfl rfl

theorem generous (h : Resumes texts env env') (henv : env.Generous) : env'.Generous where
  payee := by
    intro i hi
    rw [h.account] at hi
    have hlen := congrArg List.length (env.names_bankAfter texts.length)
    rw [← h.bank, Bank.length_names, Bank.length_names] at hlen
    rw [hlen]
    exact henv.payee i hi
  grants := by
    intro ms hms
    rw [h.grants] at hms
    rw [h.own, h.account]
    exact henv.grants ms (List.mem_of_mem_drop hms)

theorem orderly (h : Resumes texts env env') (henv : env.Orderly) : env'.Orderly where
  own := by
    unfold IdSpace.contains
    rw [h.table]
    exact henv.own
  room := by
    unfold IdSpace.size
    rw [h.table]
    exact henv.room
  payee := (h.generous henv.generous).payee
  grants := (h.generous henv.generous).grants

end Resumes

/-- Events that are no resource requests do not show among them. -/
theorem demands_of_logs {p : Event → Bool} (h : Logs p env env') (hp : ∀ text, p (.resourcesAsked text) = false) :
    env'.demands = env.demands := by
  refine h.filterMap_eq fun e he => ?_
  cases e <;> first | rfl | (rw [hp] at he; cases he)

theorem resumes_modifySignal (env : Env) (n : Nat) (f : Signal → Signal) : Resumes [] env (env.modifySignal n f) :=
  .of_bank rfl rfl rfl rfl rfl rfl rfl

theorem resumes_giveHandler (env : Env) (handler : Option Nat) : Resumes [] env (env.giveHandler handler) := by
  have hrecorded : ∀ e : Env, e.trace = env.trace ++ [.handlerSet handler.isSome] → e.demands = env.demands :=
    fun e he => demands_of_logs (p := fun e => e == .handlerSet handler.isSome) ⟨_, he, by simp⟩ fun _ => rfl
  unfold giveHandler
  dsimp only
  split <;> exact .of_bank rfl rfl rfl rfl rfl rfl (hrecorded _ rfl)

theorem resumes_prepareFallback (env : Env) : Resumes [] env env.prepareFallback := by
  unfold prepareFallback
  split
  · have hsignal : Resumes [] env env.newSignal.2 := .of_bank rfl rfl rfl rfl rfl rfl rfl
    exact (hsignal.trans (resumes_giveHandler _ _)).trans (.of_bank rfl rfl rfl rfl rfl rfl rfl)
  · exact .refl env
  · exact .refl env

theorem bankAfter_one (env : Env) :
    env.bankAfter 1 = (env.parent.grants.head?.getD []).foldl Movement.make env.bank := by
  unfold bankAfter
  cases env.parent.grants <;> simp

theorem resumes_askResources (env : Env) (text : String) : Resumes [text] env (env.askResources text) := by
  have hasked : Resumes [text] env ((env.parent.grants.head?.getD []).foldl grant
      { env.record (.resourcesAsked text) with parent.grants := env.parent.grants.tail }) := by
    rw [grants_eq]
    refine ⟨rfl, rfl, rfl, rfl, List.drop_one.symm, ?_, ?_⟩
    · exact (bank_grants _ _).trans env.bankAfter_one.symm
    · show (env.trace ++ [Event.resourcesAsked text]).filterMap _ = _
      simp [demands]
  unfold askResources
  dsimp only
  split
  · exact hasked.trans (resumes_modifySignal _ _ _)
  · exact hasked

theorem resumes_waitFor (env : Env) (n : Nat) : Resumes [] env (env.waitFor n) := by
  unfold waitFor
  split
  · exact .refl env
  · dsimp only
    split <;> exact .of_bank rfl rfl rfl rfl rfl rfl rfl

/-- Asking the parent for resources puts its next grant in the bank. -/
theorem resumes_requestResources (env : Env) (text : String) : Resumes [text] env (env.requestResources text) := by
  have hask := env.resumes_prepareFallback.trans (resumes_askResources env.prepareFallback text)
  unfold requestResources
  dsimp only
  split
  · exact hask.trans (resumes_waitFor _ _)
  · exact hask
  · exact hask

/-! ### Session requests -/

/-- What a session request fails with: the own account cannot pay, or the parent refuses. -/
def FailsWith (env : Env) (q : Quota) (e : SessionError) : Prop :=
  (∃ lack, env.bank.pay (some env.own) env.parent.account q = .error lack ∧ e = .ofQuotaError lack) ∨
    env.parent.sessions.head? = some (some e)

/-- The parent was paid, and granted a session under an id that was not in use. -/
structure Admits (id : ClientId) (service : String) (q : Quota) (env env' : Env) : Prop where
  new : env.ids.contains id = false
  table : env'.ids.table = env.ids.table.insert id service
  granted : env'.parent.granted = env.parent.granted ++ [id]
  paid : env.bank.pay (some env.own) env.parent.account q = .ok env'.bank
  demands : env'.demands = env.demands

theorem demands_record_sessionAsked (env : Env) (id : ClientId) (service args : String) (affinity : Affinity) :
    (env.record (.sessionAsked id service args affinity)).demands = env.demands := by
  show (env.trace ++ [_]).filterMap _ = env.trace.filterMap _
  simp

/-- A session request fails and restores the bank, or it is paid for. -/
theorem session_outcome (env : Env) (id : ClientId) (service : String) {args : Args} (affinity : Affinity) {q : Quota}
    (hq : args.quota = .ok q) (hpayee : env.bank.Names env.parent.account) :
    (∃ e env', env.session id service args affinity = (.error e, env') ∧ env.FailsWith q e ∧ env'.ids = env.ids ∧
        Resumes [] env env') ∨
      ∃ cap env', env.session id service args affinity = (.ok cap, env') ∧ env'.ids = env.ids ∧
        env'.parent.granted = env.parent.granted ++ [id] ∧
        env.bank.pay (some env.own) env.parent.account q = .ok env'.bank ∧ env'.demands = env.demands := by
  have hdemands := env.demands_record_sessionAsked id service args.text affinity
  unfold session paying
  rw [hq]
  dsimp only
  cases hpay : env.bank.pay (some env.own) env.parent.account q with
  | error lack => exact .inl ⟨_, _, rfl, .inl ⟨lack, hpay, rfl⟩, rfl, .refl env⟩
  | ok b =>
    unfold askSession
    dsimp only
    cases hanswer : env.parent.sessions.head?.join with
    | some e =>
      have hrefused : env.parent.sessions.head? = some (some e) := Option.join_eq_some_iff.1 hanswer
      have hback : b.tryPay env.parent.account (some env.own) q = env.bank := Bank.tryPay_back hpay hpayee
      simp only [record, hanswer]
      exact .inl ⟨_, _, rfl, .inr hrefused, rfl, .of_bank rfl rfl rfl rfl rfl hback hdemands⟩
    | none =>
      simp only [record, hanswer]
      exact .inr ⟨_, _, rfl, rfl, rfl, rfl, hdemands⟩

theorem Orderly.new (h : env.Orderly) : env.ids.contains env.ids.nextFree = false := IdSpace.contains_nextFree h.room

/-- An id that was taken for a call and released leaves the ids in use as they were. -/
theorem Resumes.releaseId {service : String} (henv : env.Orderly) (h : Resumes [] (env.allocId service).2 env')
    (hids : env'.ids = (env.allocId service).2.ids) : Resumes [] env (env'.releaseId (env.allocId service).1) := by
  have hother : (env.allocId service).1 ≠ ownSession := by
    intro heq
    have hused := henv.own
    rw [← heq, show (env.allocId service).1 = env.ids.nextFree from rfl, henv.new] at hused
    cases hused
  have htable : env'.ids.table.erase env.ids.nextFree = env.ids.table := by
    rw [hids]
    exact Table.erase_insert service henv.new
  unfold Env.releaseId
  rw [if_neg hother]
  exact ⟨h.own, h.account, h.granted, htable, h.grants, h.bank, h.demands⟩

end Env

/-! ### One try -/

namespace ParentService

variable (p : ParentService) {s : Session} {env env' : Env}

/-- What one try leads to: a failure that can be retried, a refusal, or a session. -/
theorem create_cases (hs : s.Built) (hphase : s.phase = .createRequested) (hd : s.downstream = none)
    (henv : env.Orderly) :
    (∃ e env', p.create s env = (some e, s, env') ∧ e.isRecoverable = true ∧ env.FailsWith s.resources e ∧
        env.Resumes [] env') ∨
      (∃ e phase env', p.create s env = (none, { s with phase }, env') ∧ e.terminalPhase? = some phase ∧
        env.parent.sessions.head? = some (some e) ∧ env.Resumes [] env') ∨
      ∃ id cap env', p.create s env = (none, { s with
        phase := .available, handle := some ⟨cap, none⟩, downstream := some id }, env') ∧
        env.Admits id p.name s.resources env' := by
  have hid : p.requestId s env = env.allocId p.name := by
    unfold requestId
    rw [hd]
  have hsame : { s with downstream := none } = s := by
    rw [← hd]
  have hcall := Env.session_outcome (env.allocId p.name).2 (env.allocId p.name).1 p.name s.affinity hs.quota henv.payee
  unfold create
  rw [hid]
  dsimp only
  rcases hcall with ⟨e, env', heq, hfails, hids, hresumes⟩ | ⟨cap, env', heq, hids, hgranted, hpaid, hdemands⟩
  · have hreleased := Env.Resumes.releaseId henv hresumes hids
    rw [heq]
    dsimp only
    rw [hsame]
    cases hterminal : e.terminalPhase? with
    | none =>
      exact .inl ⟨e, _, rfl, SessionError.isRecoverable_of_terminalPhase hterminal, hfails, hreleased⟩
    | some phase =>
      have hrefused : env.parent.sessions.head? = some (some e) := by
        rcases hfails with ⟨lack, -, rfl⟩ | hrefused
        · obtain ⟨r, _, _⟩ := lack
          cases r <;> cases hterminal
        · exact hrefused
      refine .inr (.inl ⟨e, phase, _, ?_, hterminal, hrefused, hreleased⟩)
      dsimp only
      rw [Session.advance_createFailure hphase (SessionError.isCreateFailure_of_terminalPhase hterminal)]
  · refine .inr (.inr ⟨(env.allocId p.name).1, cap, env', ?_, ?_⟩)
    · rw [heq]
      simp [Session.advance, Session.permits, hphase, Phase.canReach, Phase.next]
    · refine ⟨henv.new, ?_, hgranted, hpaid, hdemands⟩
      rw [hids]
      rfl

/-- The text of the resource request behind a failure. -/
def request (s : Session) (e : SessionError) : String :=
  Env.resourceText s.resources (if e = .outOfCaps then .caps else .ram)

/-- Tries that failed with `es` led from `env` to `env'`, each with a resource request behind it. -/
inductive Failed (p : ParentService) (s : Session) : List SessionError → Env → Env → Prop
  | nil (env : Env) : Failed p s [] env env
  | cons {e : SessionError} {es : List SessionError} {env after env' : Env} :
      p.forward s env = (some e, s, after) → e.isRecoverable = true → env.FailsWith s.resources e →
      Failed p s es (after.requestResources (request s e)) env' → Failed p s (e :: es) env env'

/-- How up to `n` tries end behind those that failed with `es` and led to `env`: none is left, or the next one does not
fail. -/
def Ends (p : ParentService) (s : Session) (n : Nat) (last : SessionError) (es : List SessionError) (env : Env)
    (r : Option SessionError × Session × Env) : Prop :=
  (es.length = n ∧ r = (some (es.getLastD last), { s with phase := .serviceDenied }, env)) ∨
    (es.length < n ∧ r.1 = none ∧ p.forward s env = r)

theorem forward_create (hphase : s.phase = .createRequested) : p.forward s env = p.create s env := by
  unfold forward
  rw [hphase]

variable {p}

/-- Tries that failed leave nothing behind but the resource requests. -/
theorem Failed.resumes {es : List SessionError} (h : p.Failed s es env env') (hs : s.Built)
    (hphase : s.phase = .createRequested) (hd : s.downstream = none) (henv : env.Orderly) :
    env.Resumes (es.map (request s)) env' := by
  induction h with
  | nil env => exact .refl env
  | @cons e es env after env' htry _ _ _ ih =>
    have hundone : env.Resumes [] after := by
      rw [p.forward_create hphase] at htry
      rcases p.create_cases hs hphase hd henv with ⟨e', env₁, heq, -, -, hresumes⟩ | ⟨e', phase, env₁, heq, -⟩ |
        ⟨id, cap, env₁, heq, -⟩
      · rw [heq] at htry
        obtain ⟨-, rfl⟩ : e' = e ∧ env₁ = after := by simpa using htry
        exact hresumes
      · rw [heq] at htry
        cases htry
      · rw [heq] at htry
        cases htry
    have hasked := hundone.trans (Env.resumes_requestResources after (request s e))
    exact hasked.trans (ih (hasked.orderly henv))

/-- Tries fail until one does not, or none is left. -/
theorem attempt_ends (p : ParentService) (hs : s.Built) (hphase : s.phase = .createRequested)
    (hd : s.downstream = none) : ∀ (n : Nat) (last : SessionError) (env : Env), env.Orderly →
    ∃ es env', p.Failed s es env env' ∧ p.Ends s n last es env' (p.attempt last n s env)
  | 0, last, env, _ => by
    refine ⟨[], env, .nil env, .inl ⟨rfl, ?_⟩⟩
    rw [attempt, if_pos hphase, Session.advance_createFailure hphase rfl]
    rfl
  | n + 1, last, env, henv => by
    have hcreate := p.create_cases hs hphase hd henv
    rw [← p.forward_create hphase] at hcreate
    rcases hcreate with ⟨e, after, htry, hrecoverable, hfails, hundone⟩ | ⟨e, phase, after, htry, -⟩ |
      ⟨id, cap, after, htry, -⟩
    · have hasked := hundone.trans (Env.resumes_requestResources after (request s e))
      have hnext : p.attempt last (n + 1) s env = p.attempt e n s (after.requestResources (request s e)) := by
        rw [attempt, htry]
        simp [hrecoverable, request]
      obtain ⟨es, env', hfailed, hend⟩ := attempt_ends p hs hphase hd n e _ (hasked.orderly henv)
      refine ⟨e :: es, env', .cons htry hrecoverable hfails hfailed, ?_⟩
      unfold Ends
      rw [hnext, List.getLastD_cons]
      exact hend.imp (fun h => ⟨congrArg (· + 1) h.1, h.2⟩) fun h => ⟨Nat.succ_lt_succ h.1, h.2⟩
    -- a try that does not fail is the last one
    · refine ⟨[], env, .nil env, .inr ⟨Nat.succ_pos n, ?_⟩⟩
      rw [attempt, htry]
      exact ⟨rfl, rfl⟩
    · refine ⟨[], env, .nil env, .inr ⟨Nat.succ_pos n, ?_⟩⟩
      rw [attempt, htry]
      exact ⟨rfl, rfl⟩

end ParentService

/-! ### The whole run -/

/-- The balance of the parent's account, unless it is the own one, is higher by a quota. -/
def Env.PaysParent (q : Quota) (env env' : Env) : Prop :=
  ∀ i, env.parent.account = some i → i ≠ env.own →
    ∀ r, (env'.bank.available r i).val = (env.bank.available r i).val + (q.get r).val

namespace Env

variable {env env' : Env}

/-- Grants alone pay the parent nothing. -/
theorem Generous.paysParent_zero (h : env.Generous) {m : Nat} (hbank : env'.bank = env.bankAfter m) :
    env.PaysParent 0 env' := by
  intro i hi hown r
  rw [hbank, (h.untouched hi hown m).available r, Quota.val_get_zero, Nat.add_zero]

/-- A payment behind grants pays the parent, once. -/
theorem Generous.paysParent_of_pay (h : env.Generous) {q : Quota} {m : Nat}
    (hpaid : (env.bankAfter m).pay (some env.own) env.parent.account q = .ok env'.bank) : env.PaysParent q env' := by
  intro i hi hown r
  have huntouched := h.untouched hi hown m
  rw [hi] at hpaid
  have hbooks := Bank.available_pay (k := i) hpaid (.inr (by rw [huntouched.length]; exact h.payee i hi)) r
  rw [if_neg hown, if_pos rfl, Nat.add_zero, huntouched.available r] at hbooks
  exact hbooks

end Env

/-- Nothing is left of a request but `n` grants of the parent: no id was taken, no session granted and nothing paid. -/
structure Env.Unpaid (n : Nat) (env env' : Env) : Prop where
  table : env'.ids.table = env.ids.table
  granted : env'.parent.granted = env.parent.granted
  bank : env'.bank = env.bankAfter n
  parent : env.PaysParent 0 env'

namespace ParentService

/-- Behind the failures `es`, which led to `last`, the parent granted the session.  One id was taken, and what is
reserved was paid once. -/
structure Granted (p : ParentService) (n : Nat) (s : Session) (es : List SessionError) (env last : Env)
    (o : Outcome ParentService) : Prop where
  tries : es.length < n
  final : p.forward s last = (none, o.session, o.env)
  error : o.error = none
  session : ∃ id cap, o.session = { s with phase := .available, handle := some ⟨cap, none⟩, downstream := some id } ∧
    env.ids.contains id = false ∧ o.env.ids.table = env.ids.table.insert id p.name ∧
    o.env.parent.granted = env.parent.granted ++ [id]
  paid : (env.bankAfter es.length).pay (some env.own) env.parent.account s.resources = .ok o.env.bank
  parent : env.PaysParent s.resources o.env

/-- Behind the failures `es`, which led to `last`, the parent refused the session. -/
structure Refused (p : ParentService) (n : Nat) (s : Session) (es : List SessionError) (env last : Env)
    (o : Outcome ParentService) : Prop where
  tries : es.length < n
  final : p.forward s last = (none, o.session, o.env)
  error : o.error = none
  session : ∃ e phase, last.parent.sessions.head? = some (some e) ∧ e.terminalPhase? = some phase ∧
    o.session = { s with phase }
  unpaid : env.Unpaid es.length o.env

/-- All tries failed, and led to `last`.  The last failure is reported. -/
structure Exhausted (n : Nat) (s : Session) (es : List SessionError) (env last : Env) (o : Outcome ParentService) :
    Prop where
  tries : es.length = n
  final : o.env = last
  error : o.error = some (es.getLastD .outOfRam)
  session : o.session = { s with phase := .serviceDenied }
  unpaid : env.Unpaid es.length o.env

/-- Exactly one of three statements holds. -/
def ExactlyOne (a b c : Prop) : Prop := a ∧ ¬b ∧ ¬c ∨ ¬a ∧ b ∧ ¬c ∨ ¬a ∧ ¬b ∧ c

/-- A create with up to `n` tries met failures, with one resource request behind each.  Then the session was granted and
paid for once, or it was refused, or no tries were left; in the last two cases nothing was paid and no id is taken. -/
def AllOrNothing (p : ParentService) (n : Nat) (s : Session) (env : Env) (o : Outcome ParentService) : Prop :=
  ∃ es last, p.Failed s es env last ∧ es.length ≤ n ∧ o.env.demands = env.demands ++ es.map (request s) ∧
    ExactlyOne (p.Granted n s es env last o) (p.Refused n s es env last o) (Exhausted n s es env last o)

variable {p : ParentService} {s : Session} {n : Nat} {es : List SessionError} {env last : Env}
  {o : Outcome ParentService}

theorem not_granted_of_refused (h : p.Refused n s es env last o) : ¬p.Granted n s es env last o := by
  intro h'
  obtain ⟨e, phase, -, hterminal, hrefused⟩ := h.session
  obtain ⟨id, cap, hgranted, -⟩ := h'.session
  obtain rfl : phase = .available := congrArg Session.phase (hrefused.symm.trans hgranted)
  cases SessionError.isCreateFailure_of_terminalPhase hterminal

theorem not_exhausted_of_error (h : o.error = none) : ¬Exhausted n s es env last o := by
  intro h'
  rw [h'.error] at h
  cases h

/-- What failed tries leave behind is what their resource requests brought. -/
theorem unpaid_of_resumes {env' : Env} (h : env.Resumes (es.map (request s)) env') (henv : env.Orderly) :
    env.Unpaid es.length env' := by
  have hbank := h.bank
  rw [List.length_map] at hbank
  exact ⟨h.table, h.granted, hbank, henv.generous.paysParent_zero hbank⟩

/-- A session that the parent grants behind tries that left nothing behind. -/
theorem granted_of_admits {id : ClientId} {cap : Capability} {env' : Env} (hleft : es.length < n)
    (hresumes : env.Resumes (es.map (request s)) last) (henv : env.Orderly)
    (hfinal : p.forward s last = (none, { s with
      phase := .available, handle := some ⟨cap, none⟩, downstream := some id }, env'))
    (h : last.Admits id p.name s.resources env') :
    p.Granted n s es env last ⟨none, p, { s with
      phase := .available, handle := some ⟨cap, none⟩, downstream := some id }, env'⟩ := by
  have hnew : env.ids.contains id = false := by
    unfold IdSpace.contains
    rw [← hresumes.table]
    exact h.new
  have htable : env'.ids.table = env.ids.table.insert id p.name := by
    rw [← hresumes.table]
    exact h.table
  have hgranted : env'.parent.granted = env.parent.granted ++ [id] := by
    rw [← hresumes.granted]
    exact h.granted
  have hpaid : (env.bankAfter es.length).pay (some env.own) env.parent.account s.resources = .ok env'.bank := by
    have hbank := hresumes.bank
    rw [List.length_map] at hbank
    rw [← hbank, ← hresumes.own, ← hresumes.account]
    exact h.paid
  exact ⟨hleft, hfinal, rfl, ⟨id, cap, rfl, hnew, htable, hgranted⟩, hpaid,
    henv.generous.paysParent_of_pay hpaid⟩

/-- **Creates at the parent are all or nothing.**  That is so for every service with a limit to its tries, for every
session in its first phase, and whatever the parent answers and grants. -/
theorem create_all_or_nothing (htries : p.tries = .upTo n) (hs : s.Built) (hphase : s.phase = .createRequested)
    (hd : s.downstream = none) (henv : env.Orderly) : p.AllOrNothing n s env (p.initiate s env) := by
  obtain ⟨es, last, hfailed, hends⟩ := p.attempt_ends hs hphase hd n .outOfRam env henv
  have hresumes := hfailed.resumes hs hphase hd henv
  obtain ⟨r, hr⟩ : ∃ r, r = p.attempt .outOfRam n s env := ⟨_, rfl⟩
  have hinitiate : p.initiate s env = ⟨r.1, p, r.2.1, r.2.2⟩ := by
    unfold initiate
    rw [htries, hr]
  rw [← hr] at hends
  rw [hinitiate]
  obtain ⟨hall, rfl⟩ | ⟨hleft, hnone, hfinal⟩ := hends
  · -- no try is left
    have hexhausted : Exhausted n s es env last
        ⟨some (es.getLastD .outOfRam), p, { s with phase := .serviceDenied }, last⟩ :=
      ⟨hall, rfl, rfl, rfl, unpaid_of_resumes hresumes henv⟩
    have hnot : ¬es.length < n := Nat.not_lt.2 (Nat.le_of_eq hall.symm)
    exact ⟨es, last, hfailed, Nat.le_of_eq hall, hresumes.demands,
      .inr (.inr ⟨fun h => hnot h.tries, fun h => hnot h.tries, hexhausted⟩)⟩
  · have hcreate := p.create_cases hs hphase hd (hresumes.orderly henv)
    rw [← p.forward_create hphase] at hcreate
    rcases hcreate with ⟨e, env', heq, -⟩ | ⟨e, phase, env', heq, hterminal, hanswer, hundone⟩ |
      ⟨id, cap, env', heq, hadmits⟩
    · -- the last try did not fail
      rw [← hfinal, heq] at hnone
      cases hnone
    · -- the parent refused
      obtain rfl := heq.symm.trans hfinal
      have hwhole := hresumes.trans hundone
      rw [List.append_nil] at hwhole
      have hrefused : p.Refused n s es env last ⟨none, p, { s with phase }, env'⟩ :=
        ⟨hleft, heq, rfl, ⟨e, phase, hanswer, hterminal, rfl⟩, unpaid_of_resumes hwhole henv⟩
      exact ⟨es, last, hfailed, Nat.le_of_lt hleft, hwhole.demands,
        .inr (.inl ⟨not_granted_of_refused hrefused, hrefused, not_exhausted_of_error rfl⟩)⟩
    · -- the parent granted the session
      obtain rfl := heq.symm.trans hfinal
      have hgranted := granted_of_admits hleft hresumes henv heq hadmits
      exact ⟨es, last, hfailed, Nat.le_of_lt hleft, hadmits.demands.trans hresumes.demands,
        .inl ⟨hgranted, fun h => not_granted_of_refused h hgranted, not_exhausted_of_error rfl⟩⟩

/-- Surroundings in which the own account holds nothing, and the parent grants two kilobytes out of a reserve at each
resource request. -/
def poorEnv : Env where
  bank := ⟨[⟨"own", 0⟩, ⟨"parent", 0⟩, ⟨"reserve", ⟨⟨8192, by decide⟩, 0⟩⟩]⟩
  own := 0
  parent := { account := some 1, grants := List.replicate 2 [⟨some 2, some 0, ⟨⟨2048, by decide⟩, 0⟩⟩] }

/-- A session that four kilobytes are reserved for. -/
def fourKilobytes : Session where
  service := "LOG"
  label := ⟨""⟩
  args := ⟨[("ram_quota", "4K")]⟩
  affinity := {}
  resources := ⟨⟨4096, by decide⟩, 0⟩
  diag := false

/-- A create that the own account can pay at the third try. -/
theorem create_all_or_nothing_thirdTry :
    let p : ParentService := { name := "LOG", tries := .upTo 3 }
    let s := fourKilobytes.perform (.relabel ⟨"a"⟩)
    s.Built ∧ poorEnv.Orderly ∧ (p.initiate s poorEnv).session.phase = .available ∧
      p.AllOrNothing 3 s poorEnv (p.initiate s poorEnv) := by
  have hbuilt : (fourKilobytes.perform (.relabel ⟨"a"⟩)).Built := .perform _ (.create (by decide +kernel :
    Session.create "LOG" ⟨[("ram_quota", "4K")]⟩ {} = .ok fourKilobytes))
  have horderly : poorEnv.Orderly := by
    refine ⟨by decide, by decide, ?_, ?_⟩
    · intro i hi
      obtain rfl := Option.some.inj hi
      decide
    · intro ms hms m hm
      obtain rfl := List.eq_of_mem_replicate hms
      obtain rfl := List.mem_singleton.1 hm
      exact ⟨rfl, fun i hi heq => absurd (hi.trans heq.symm) (by decide)⟩
  exact ⟨hbuilt, horderly, by decide +kernel, create_all_or_nothing rfl hbuilt rfl rfl horderly⟩

end ParentService

end SessionBroker
