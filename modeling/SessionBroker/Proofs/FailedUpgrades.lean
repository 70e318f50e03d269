import SessionBroker.Proofs.Histories
import SessionBroker.Proofs.Reversals
import SessionBroker.Proofs.Workings

/-!
# SessionBroker.Proofs.FailedUpgrades — what a failed upgrade leaves behind

An upgrade is paid and recorded before the provider is asked to apply it.  If the provider fails, the payment is moved
back and the delta is subtracted again from what is pending.

* `Env.Untold env env'`: a provider was at work, and neither the parent nor any account noticed.
* `Service.untold_of_error`: so it is with every provider that fails to apply an upgrade.
* `Session.revertUpgrade_requestUpgrade`: a session that the provider left alone is as before, up to what is pending;
  `Quota.add_sub_cancel_iff`: and what is pending is as before unless the sum did not fit a word.
* `Broker.upgrade_failed`: what is left of a failed upgrade (`Broker.UpgradeUndone`).
* `upgrade_loses_pending`: a failed upgrade that takes away some of what was pending.
-/

namespace SessionBroker

/-- Whether the parent gets to see the event. -/
def Event.isForParent : Event → Bool
  | .sessionAsked _ _ _ _ | .upgradeAsked _ _ | .closeAsked _ | .resourcesAsked _ | .handlerSet _ | .delivered _ _
  | .answered _ _ => true
  | .objectAsked _ _ _ | .objectUpgraded _ _ _ _ | .objectDestroyed _ _ | .requestSeen _ _ _ | .woken _ => false

namespace Quota

theorem val_get_sub (p q : Quota) (r : Resource) : ((p - q).get r).val = (p.get r).val - (q.get r).val := by
  cases r <;> rfl

theorem eq_of_get {p q : Quota} (h : ∀ r, (p.get r).val = (q.get r).val) : p = q := by
  ext
  · exact h .ram
  · exact h .caps

/-- What was added can be taken away again, unless the sum did not fit a word. -/
theorem add_sub_cancel_iff {p q : Quota} :
    p + q - q = p ↔ ∀ r, (p.get r).val + (q.get r).val < 0x10000000000000000 := by
  constructor
  · intro h r
    have hr := congrArg (fun p => (p.get r).val) h
    simp only [val_get_sub, val_get_add] at hr
    have hp := (p.get r).isLt
    have hq := (q.get r).isLt
    omega
  · intro h
    apply eq_of_get
    intro r
    have hr := h r
    rw [val_get_sub, val_get_add]
    omega

end Quota

/-- A session whose upgrade is taken back is as before, up to what is pending. -/
theorem Session.revertUpgrade_requestUpgrade {s : Session} (hs : s.phase.isEstablished = true) (q : Quota) :
    (s.requestUpgrade q).revertUpgrade q s.phase = { s with pendingUpgrade := s.pendingUpgrade + q - q } := by
  rw [s.requestUpgrade_eq hs q]
  exact if_pos rfl

/-! ### Providers that fail -/

namespace Env

variable {env env' env'' : Env}

/-- Nothing happened but that capabilities were minted and events recorded that the parent does not see. -/
def Untold (env env' : Env) : Prop :=
  ∃ es n, env' = { env with trace := env.trace ++ es, minted := n } ∧ ∀ e ∈ es, e.isForParent = false

namespace Untold

theorem refl (env : Env) : Untold env env := ⟨[], env.minted, by simp, by simp⟩

theorem trans (h : Untold env env') (h' : Untold env' env'') : Untold env env'' := by
  obtain ⟨es, n, rfl, hes⟩ := h
  obtain ⟨es', n', rfl, hes'⟩ := h'
  refine ⟨es ++ es', n', by simp, ?_⟩
  intro e he
  rcases List.mem_append.1 he with he | he
  · exact hes e he
  · exact hes' e he

theorem record (env : Env) {e : Event} (h : e.isForParent = false) : Untold env (env.record e) :=
  ⟨[e], env.minted, rfl, by simpa using h⟩

theorem mint (env : Env) (service : String) : Untold env (env.mint service).2 :=
  ⟨[], env.minted + 1, by simp [Env.mint], by simp⟩

end Untold

end Env

/-- A service with a behaviour of its own calls nobody. -/
theorem CustomService.untold_initiate (c : CustomService) (s : Session) (env : Env) :
    env.Untold (c.initiate s env).env := by
  have hstep : ∀ (st : CustomStep) (s : Session) (env : Env), env.Untold (step c.name s env st).2 := by
    intro st s env
    cases st with
    | note => exact .record env rfl
    | mint slot => exact .mint env c.name
    | act a => exact .refl env
  have hsteps : ∀ (l : List CustomStep) (s : Session) (env : Env),
      env.Untold (l.foldl (fun r st => step c.name r.1 r.2 st) (s, env)).2 := by
    intro l
    induction l with
    | nil => exact fun _ env => .refl env
    | cons st l ih => exact fun s env => (hstep st s env).trans (ih _ _)
  exact hsteps _ s env

/-- A service of the parent fails to apply an upgrade only if it may not try, and then it leaves all as it is. -/
theorem ParentService.initiate_of_error {p : ParentService} {s : Session} {env : Env} {e : SessionError}
    (hs : s.phase = .upgradeRequested) (h : (p.initiate s env).error = some e) :
    (p.initiate s env).session = s ∧ (p.initiate s env).env = env := by
  have hforward : p.forward s env = (none, upgrade s env) := by
    unfold forward
    rw [hs]
  unfold initiate at h ⊢
  cases htries : p.tries with
  | once => simp [htries, hforward] at h
  | upTo n =>
    cases n with
    | zero => simp [attempt, hs]
    | succ n => simp [htries, attempt, hforward] at h

/-- A service that fails to apply an upgrade calls nobody. -/
theorem Service.untold_of_error {v : Service} {s : Session} {env : Env} {e : SessionError}
    (hs : s.phase = .upgradeRequested) (h : (v.initiate s env).error = some e) :
    env.Untold (v.initiate s env).env := by
  -- a desk, and a service that makes objects, never fail to apply an upgrade
  have hdesk : ∀ d : Desk, (d.initiate s env).error = none := by
    intro d
    rw [Desk.initiate_pending env (.inl hs)]
  cases v with
  | made l =>
    have hnone : (l.initiate s env).error = none := by
      unfold LocalService.initiate
      rw [hs]
      exact (l.upgrade_spec env hs).1
    cases hnone.symm.trans h
  | custom c => exact c.untold_initiate s env
  | parent p =>
    show env.Untold (p.initiate s env).env
    rw [(ParentService.initiate_of_error hs h).2]
    exact .refl env
  | desk d => cases (hdesk d).symm.trans h
  | child c => cases (hdesk c.desk).symm.trans h

/-- A provider that fails to apply an upgrade calls nobody. -/
theorem Registry.untold_of_error {r : Registry} {s : Session} {env : Env} {p : Provider} {o : Outcome Registry}
    {e : SessionError} (hs : s.phase = .upgradeRequested) (h : r.initiate? s env p = some o) (he : o.error = some e) :
    env.Untold o.env := by
  cases p with
  | here n =>
    obtain ⟨v, -, rfl⟩ := Option.map_eq_some_iff.1 h
    exact Service.untold_of_error hs he
  | later n =>
    obtain ⟨d, -, rfl⟩ := Option.map_eq_some_iff.1 h
    exact Service.untold_of_error (v := .desk d) hs he
  | parent n =>
    obtain ⟨v, -, rfl⟩ := Option.map_eq_some_iff.1 h
    exact Service.untold_of_error (v := .parent v) hs he
  | child c n =>
    obtain ⟨v, -, rfl⟩ := Option.map_eq_some_iff.1 h
    exact Service.untold_of_error (v := .child v) hs he

namespace Broker

variable {b b' : Broker} {id : ServerId} {q : Quota} {e : Error} {s : Session} {p : Provider} {o : Outcome Registry}

/-! ### Upgrades that fail -/

/-- Provider `p` was asked to apply an upgrade of session `id`, and failed. -/
structure Reverts (b b' : Broker) (id : ServerId) (q : Quota) (s : Session) (p : Provider) (o : Outcome Registry) :
    Prop where
  found : b.sessions.find? id = some ⟨s, some p⟩
  asked : ∃ bank, b.providers.initiate? (s.requestUpgrade q) { b.env with bank } p = some o
  failed : o.error.isSome = true
  /-- Of all sessions, this one alone is stored anew, as the provider left it and without the delta. -/
  sessions : b'.sessions = b.sessions.modify id fun t => { t with session := o.session.revertUpgrade q s.phase }
  /-- If the provider left the session alone, only what is pending may have changed. -/
  pending : o.session = s.requestUpgrade q →
    b'.sessions.find? id = some ⟨{ s with pendingUpgrade := s.pendingUpgrade + q - q }, some p⟩
  /-- Then all sessions are as before exactly if what was pending and the delta fit a word. -/
  exact : o.session = s.requestUpgrade q →
    (b'.sessions = b.sessions ↔ ∀ r, (s.pendingUpgrade.get r).val + (q.get r).val < 0x10000000000000000)

/-- What is left of a failed upgrade of session `id`. -/
structure UpgradeUndone (b b' : Broker) (id : ServerId) (q : Quota) : Prop where
  rules : b'.rules = b.rules
  config : b'.config = b.config
  balances : b'.env.bank = b.env.bank
  /-- The parent is sent nothing. -/
  untold : b.env.Untold b'.env
  /-- The upgrade was refused and nothing changed at all, or the provider was asked. -/
  session : b' = b ∨ ∃ s p o, Reverts b b' id q s p o

theorem UpgradeUndone.refl (b : Broker) (id : ServerId) (q : Quota) : UpgradeUndone b b id q :=
  ⟨rfl, rfl, rfl, .refl b.env, .inl rfl⟩

/-- An upgrade that is refused at once changes nothing. -/
theorem UpgradeUndone.of_refused {e' : Error} (h : ((.error e', b) : Except Error Unit × Broker) = (.error e, b')) :
    UpgradeUndone b b' id q := by
  obtain ⟨-, rfl⟩ := Prod.mk.inj h
  exact .refl b id q

/-- A session that was recorded and taken back. -/
theorem reverts_exact (hest : s.phase.isEstablished = true) (hfound : b.sessions.find? id = some ⟨s, some p⟩)
    (hsame : o.session = s.requestUpgrade q)
    (hsessions : b'.sessions = b.sessions.modify id fun t => { t with session := o.session.revertUpgrade q s.phase }) :
    b'.sessions.find? id = some ⟨{ s with pendingUpgrade := s.pendingUpgrade + q - q }, some p⟩ ∧
      (b'.sessions = b.sessions ↔
        ∀ r, (s.pendingUpgrade.get r).val + (q.get r).val < 0x10000000000000000) := by
  rw [hsame, Session.revertUpgrade_requestUpgrade hest] at hsessions
  have hstored : b'.sessions.find? id = some ⟨{ s with pendingUpgrade := s.pendingUpgrade + q - q }, some p⟩ := by
    rw [hsessions, Table.find?_modify_of _ hfound]
  refine ⟨hstored, ?_⟩
  rw [← Quota.add_sub_cancel_iff]
  constructor
  · intro hall
    rw [hall, hfound] at hstored
    have hslot := congrArg Slot.session (Option.some.inj hstored)
    exact (congrArg Session.pendingUpgrade hslot).symm
  · intro hpending
    rw [hsessions, Table.modify_of_find? _ hfound, hpending]
    exact Table.insert_of_find? hfound

/-- An upgrade that a provider fails to apply is undone. -/
theorem undone_initiateUpgrade (hpayee : b.env.bank.Names (b.providers.account p)) (hest : s.phase.isEstablished = true)
    (hfound : b.sessions.find? id = some ⟨s, some p⟩) (h : b.initiateUpgrade id p s q = (.error e, b')) :
    UpgradeUndone b b' id q := by
  unfold initiateUpgrade at h
  dsimp only at h
  split at h
  · exact .of_refused h
  · rename_i paid hpaid
    obtain ⟨bank, hbank, rfl⟩ := donate_eq_ok hpaid
    split at h
    · exact .of_refused h
    · rename_i o ho
      split at h
      · rename_i e' herror
        obtain ⟨-, rfl⟩ := Prod.mk.inj h
        have hphase : (s.requestUpgrade q).phase = .upgradeRequested := by rw [s.requestUpgrade_eq hest q]
        obtain ⟨es, n, henv, hes⟩ := Registry.untold_of_error hphase ho herror
        have hback : bank.tryPay (b.providers.account p) (some b.env.own) q = b.env.bank :=
          Bank.tryPay_back hbank hpayee
        have hwhole : { o.env with bank := o.env.bank.tryPay (b.providers.account p) (some o.env.own) q } =
            { b.env with trace := b.env.trace ++ es, minted := n } := by
          rw [henv]
          simp only [hback]
        have hbalances := congrArg Env.bank hwhole
        exact ⟨rfl, rfl, hbalances, ⟨es, n, hwhole, hes⟩, .inr ⟨s, p, o, ⟨hfound, ⟨bank, ho⟩, by rw [herror]; rfl, rfl,
          fun hsame => (reverts_exact hest hfound hsame rfl).1, fun hsame => (reverts_exact hest hfound hsame rfl).2⟩⟩⟩
      · cases h

/-- A failed upgrade changes no balance and no other session, and the parent is sent nothing.  It changes nothing at all
if it was refused; and if the provider failed and left the session alone, it changes nothing but what is pending, and
not even that if what was pending and the delta fit a word. -/
theorem upgrade_failed (hpayee : ∀ p, b.provider? id = some p → b.env.bank.Names (b.providers.account p))
    (h : b.upgrade id q = (.error e, b')) : UpgradeUndone b b' id q := by
  unfold upgrade at h
  split at h
  · exact .of_refused h
  · rename_i t hfound
    obtain ⟨s, provider⟩ := t
    dsimp only at h
    split at h
    · exact .of_refused h
    · cases provider with
      | none => exact .of_refused h
      | some p =>
        dsimp only at h
        split at h
        · rename_i hready
          have hprovider : b.provider? id = some p := by
            unfold provider?
            rw [hfound]
            rfl
          exact undone_initiateUpgrade (hpayee p hprovider) (Bool.and_eq_true_iff.1 hready).1 hfound h
        · exact .of_refused h

/-! ### A provider that balks -/

/-- All sessions are for one service of this component. -/
def balkingConfig : RuntimeConfig := { rules := [{ target := .here "svc" }] }

/-- A service that creates a session, leaves the first upgrade of it pending, and fails to apply any other. -/
def balking (account : AccountRef) : CustomService where
  name := "svc"
  account := account
  react n s :=
    if s.phase = .createRequested then { steps := [.mint (some 0), .act (.advance .available)] }
    else if n = 1 then {}
    else { error := some .serviceDenied }

/-- A session of the service, with an upgrade of some RAM pending. -/
def balked (account : AccountRef) (ram : Word) : Broker := (start sampleEnv balkingConfig).run
  [.registerLocal (.custom (balking account)), .create ⟨1⟩ "svc" "ram_quota=5" {}, .upgrade ⟨1⟩ { ram }]

/-- The second upgrade is paid and paid back, and the first one is pending as before. -/
theorem upgrade_undone_balked : ∃ b',
    (balked (some 1) ⟨3, by decide⟩).upgrade ⟨1⟩ { ram := 1 } = (.error (.session .serviceDenied), b') ∧
      UpgradeUndone (balked (some 1) ⟨3, by decide⟩) b' ⟨1⟩ { ram := 1 } ∧
      b'.env.bank.balance 1 = { ram := ⟨8, by decide⟩ } ∧
      (b'.session? ⟨1⟩).map (·.pendingUpgrade) = some { ram := ⟨3, by decide⟩ } := by
  have hpayee : ∀ p, (balked (some 1) ⟨3, by decide⟩).provider? ⟨1⟩ = some p →
      (balked (some 1) ⟨3, by decide⟩).env.bank.Names ((balked (some 1) ⟨3, by decide⟩).providers.account p) := by
    intro p hp
    obtain rfl : Provider.here "svc" = p := Option.some.inj hp
    intro i hi
    obtain rfl : 1 = i := Option.some.inj hi
    decide +kernel
  exact ⟨_, rfl, upgrade_failed hpayee rfl, by decide +kernel, by decide +kernel⟩

/-- A failed upgrade that takes away some of what was pending: the sum stops at the largest word, and the delta is
subtracted in full. -/
theorem upgrade_loses_pending : ∃ b',
    (balked none ⟨0x8000000000000000, by decide⟩).upgrade ⟨1⟩ { ram := ⟨0x800000000000000A, by decide⟩ } =
      (.error (.session .serviceDenied), b') ∧
    ((balked none ⟨0x8000000000000000, by decide⟩).session? ⟨1⟩).map (·.pendingUpgrade) =
      some { ram := ⟨0x8000000000000000, by decide⟩ } ∧
    (b'.session? ⟨1⟩).map (·.pendingUpgrade) = some { ram := ⟨0x7FFFFFFFFFFFFFF5, by decide⟩ } :=
  ⟨_, rfl, by decide +kernel, by decide +kernel⟩

end Broker

end SessionBroker
