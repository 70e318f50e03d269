import SessionBroker.Proofs.Notices
import SessionBroker.Proofs.Transfers

/-!
# SessionBroker.Proofs.Surroundings — what calls to the parent leave alone

* `Env.Spares i`: account `i` is neither the own account nor the parent's, and no grant of the parent touches it.
* `Env.Keeps env env'`: the own account stays, and what is spared stays spared and keeps its balance.
* `Env.Aside env env'`: also, nothing is said about a session.  Every call to the parent is such a step, whatever the
  parent answers (`aside_session`, `aside_upgrade`, `aside_requestResources`, `aside_close`).
-/

namespace SessionBroker.Env

/-- Whether account `i` is none of those that calls to the parent move quota between. -/
structure Spares (env : Env) (i : AccountId) : Prop where
  own : env.own ≠ i
  parent : env.parent.account ≠ some i
  grants : ∀ ms ∈ env.parent.grants, ∀ m ∈ ms, m.payer ≠ some i ∧ m.payee ≠ some i

/-- The own account stays, and what is spared stays spared and keeps its balance. -/
structure Keeps (env env' : Env) : Prop where
  own : env'.own = env.own
  spares : ∀ i, env.Spares i → env'.Spares i ∧ env.bank.Untouched i env'.bank

/-- A step in which nothing is said about a session, and which keeps what is spared. -/
structure Aside (env env' : Env) : Prop extends Keeps env env' where
  told : ∀ id, env'.told id = env.told id

theorem Keeps.trans {env env' env'' : Env} (h : Keeps env env') (h' : Keeps env' env'') : Keeps env env'' where
  own := h'.own.trans h.own
  spares i hi :=
    ⟨(h'.spares i (h.spares i hi).1).1, (h.spares i hi).2.trans (h'.spares i (h.spares i hi).1).2⟩

/-- A step that changes neither account references nor balances. -/
theorem Keeps.of_eq {env env' : Env} (hown : env'.own = env.own)
    (hparent : env'.parent.account = env.parent.account) (hgrants : env'.parent.grants ⊆ env.parent.grants)
    (hbank : env'.bank = env.bank) : Keeps env env' where
  own := hown
  spares i hi := by
    refine ⟨⟨by rw [hown]; exact hi.own, by rw [hparent]; exact hi.parent,
      fun ms hms => hi.grants ms (hgrants hms)⟩, ?_⟩
    rw [hbank]
    exact .refl i _

namespace Aside

variable {env env' env'' : Env}

theorem refl (env : Env) : Aside env env where
  toKeeps := .of_eq rfl rfl (fun _ h => h) rfl
  told _ := rfl

theorem trans (h : Aside env env') (h' : Aside env' env'') : Aside env env'' where
  toKeeps := h.toKeeps.trans h'.toKeeps
  told id := (h'.told id).trans (h.told id)

/-- A step that changes neither what was said nor account references nor balances. -/
theorem of_eq (htrace : env'.trace = env.trace) (hown : env'.own = env.own)
    (hparent : env'.parent.account = env.parent.account) (hgrants : env'.parent.grants ⊆ env.parent.grants)
    (hbank : env'.bank = env.bank) : Aside env env' where
  toKeeps := .of_eq hown hparent hgrants hbank
  told id := by unfold Env.told; rw [htrace]

/-- An event that is no notice. -/
theorem record {e : Event} (env : Env) (h : ∀ id, e.notice? id = none) : Aside env (env.record e) where
  toKeeps := .of_eq rfl rfl (fun _ h => h) rfl
  told id := by rw [told_record, h id]; exact List.append_nil _

/-- A step of the bank alone that leaves every spared account untouched. -/
theorem of_bank {b : Bank} (h : ∀ i, env.Spares i → env.bank.Untouched i b) : Aside env { env with bank := b } where
  own := rfl
  spares i hi := ⟨⟨hi.own, hi.parent, hi.grants⟩, h i hi⟩
  told _ := rfl

end Aside

/-- A step in which nothing is said about a session, and which leaves the accounts and the parent as they are. -/
structure Quiet (env env' : Env) : Prop where
  bank : env'.bank = env.bank
  own : env'.own = env.own
  parent : env'.parent = env.parent
  told : ∀ id, env'.told id = env.told id

theorem Quiet.refl (env : Env) : Quiet env env := ⟨rfl, rfl, rfl, fun _ => rfl⟩

theorem quiet_record {e : Event} (env : Env) (h : ∀ id, e.notice? id = none) : Quiet env (env.record e) :=
  ⟨rfl, rfl, rfl, fun id => by rw [told_record, h id]; exact List.append_nil _⟩

/-! ### Plain steps -/

theorem aside_mint (env : Env) (service : String) : Aside env (env.mint service).2 :=
  .of_eq rfl rfl rfl (fun _ h => h) rfl

theorem aside_allocId (env : Env) (service : String) : Aside env (env.allocId service).2 :=
  .of_eq rfl rfl rfl (fun _ h => h) rfl

theorem aside_releaseId (env : Env) (id : ClientId) : Aside env (env.releaseId id) := by
  unfold releaseId
  split
  · exact .refl env
  · exact .of_eq rfl rfl rfl (fun _ h => h) rfl

theorem aside_modifySignal (env : Env) (n : Nat) (f : Signal → Signal) : Aside env (env.modifySignal n f) :=
  .of_eq rfl rfl rfl (fun _ h => h) rfl

theorem aside_newSignal (env : Env) : Aside env env.newSignal.2 :=
  .of_eq rfl rfl rfl (fun _ h => h) rfl

theorem aside_waitFor (env : Env) (n : Nat) : Aside env (env.waitFor n) := by
  unfold waitFor
  split
  · exact .refl env
  · simp only
    split <;> exact .of_eq rfl rfl rfl (fun _ h => h) rfl

/-! ### Calls to the parent -/

theorem aside_askSession (env : Env) (id : ClientId) (service : String) (args : Args) (affinity : Affinity) :
    Aside env (env.askSession id service args affinity).2 := by
  have hrecord := Aside.record env (e := .sessionAsked id service args.text affinity) fun _ => rfl
  unfold askSession
  simp only
  split
  · exact hrecord.trans (.of_eq rfl rfl rfl (fun _ h => h) rfl)
  · exact hrecord.trans (.of_eq rfl rfl rfl (fun _ h => h) rfl)

theorem aside_askUpgrade (env : Env) (id : ClientId) (args : Args) : Aside env (env.askUpgrade id args).2 :=
  (Aside.record env (e := .upgradeAsked id args.text) fun _ => rfl).trans (.of_eq rfl rfl rfl (fun _ h => h) rfl)

theorem aside_askClose (env : Env) (id : ClientId) : Aside env (env.askClose id) := .record env fun _ => rfl

theorem aside_giveHandler (env : Env) (handler : Option Nat) : Aside env (env.giveHandler handler) := by
  have hrecord := Aside.record env (e := .handlerSet handler.isSome) fun _ => rfl
  unfold giveHandler
  simp only
  split
  · exact hrecord.trans (.of_eq rfl rfl rfl (fun _ h => h) rfl)
  · exact hrecord.trans (.of_eq rfl rfl rfl (fun _ h => h) rfl)

theorem aside_prepareFallback (env : Env) : Aside env env.prepareFallback := by
  unfold prepareFallback
  split
  · exact ((aside_newSignal env).trans (aside_giveHandler _ _)).trans (.of_eq rfl rfl rfl (fun _ h => h) rfl)
  · exact .refl env
  · exact .refl env

/-- Movements between other accounts. -/
theorem untouched_grants {i : AccountId} : ∀ (ms : List Movement) (env : Env),
    (∀ m ∈ ms, m.payer ≠ some i ∧ m.payee ≠ some i) → env.bank.Untouched i (ms.foldl grant env).bank
  | [], env, _ => .refl i env.bank
  | m :: ms, env, h => by
    obtain ⟨hpayer, hpayee⟩ := h m List.mem_cons_self
    exact (Bank.Untouched.tryPay hpayer hpayee).trans
      (untouched_grants ms (env.grant m) fun m' hm' => h m' (List.mem_cons_of_mem _ hm'))

/-- Movements change nothing but balances. -/
theorem grants_eq : ∀ (ms : List Movement) (env : Env),
    ms.foldl grant env = { env with bank := (ms.foldl grant env).bank }
  | [], _ => rfl
  | m :: ms, env => by
    show ms.foldl grant (env.grant m) = { env with bank := (ms.foldl grant (env.grant m)).bank }
    rw [grants_eq ms (env.grant m)]
    rfl

theorem aside_askResources (env : Env) (text : String) : Aside env (env.askResources text) := by
  obtain ⟨ms, hms⟩ : ∃ ms, ms = env.parent.grants.head?.getD [] := ⟨_, rfl⟩
  obtain ⟨asked, hasked⟩ : ∃ e, e = { env.record (.resourcesAsked text) with
    parent.grants := env.parent.grants.tail } := ⟨_, rfl⟩
  have hask : Aside env asked := by
    rw [hasked]
    refine (Aside.record env (e := .resourcesAsked text) fun _ => rfl).trans (.of_eq rfl rfl rfl ?_ rfl)
    exact fun _ h => List.mem_of_mem_tail h
  -- the grant is one of those the parent had before it was asked
  have hbank : ∀ i, env.Spares i → env.bank.Untouched i (ms.foldl grant asked).bank := by
    intro i hi
    refine (hask.spares i hi).2.trans (untouched_grants ms asked fun m hm => ?_)
    cases hg : env.parent.grants with
    | nil =>
      rw [hms, hg] at hm
      cases hm
    | cons g gs =>
      rw [hms, hg] at hm
      exact hi.grants g (by rw [hg]; exact List.mem_cons_self) m hm
  have hgranted : Aside env (ms.foldl grant asked) := by
    rw [grants_eq]
    refine ⟨⟨hask.own, fun i hi => ?_⟩, hask.told⟩
    obtain ⟨⟨hown, hparent, hgrants⟩, -⟩ := hask.spares i hi
    exact ⟨⟨hown, hparent, hgrants⟩, hbank i hi⟩
  have hsubmit : env.askResources text = ms.foldl grant asked ∨
      ∃ n, env.askResources text = (ms.foldl grant asked).modifySignal n Signal.submit := by
    rw [hms, hasked]
    unfold askResources
    dsimp only
    split
    · exact .inr ⟨_, rfl⟩
    · exact .inl rfl
  rcases hsubmit with heq | ⟨n, heq⟩
  · rw [heq]
    exact hgranted
  · rw [heq]
    exact hgranted.trans (aside_modifySignal _ _ _)

theorem aside_requestResources (env : Env) (text : String) : Aside env (env.requestResources text) := by
  have hask := (aside_prepareFallback env).trans (aside_askResources env.prepareFallback text)
  unfold requestResources
  simp only
  split
  · exact hask.trans (aside_waitFor _ _)
  · exact hask
  · exact hask

/-- A paid call: the quota goes to the parent, and comes back if the call fails. -/
theorem aside_paying {α : Type} (env : Env) (q : Quota) {call : Env → Except SessionError α × Env}
    (hcall : ∀ e, Aside e (call e).2) : Aside env (env.paying q call).2 := by
  unfold paying
  simp only
  split
  · exact .refl env
  · rename_i b hpay
    have hpaid : Aside env { env with bank := b } := .of_bank fun i hi =>
      .pay hpay (fun h => hi.own (Option.some.inj h)) hi.parent
    have hcalled := hpaid.trans (hcall { env with bank := b })
    split
    · rename_i v e heq
      rw [heq] at hcalled
      exact hcalled
    · rename_i err e heq
      rw [heq] at hcalled
      refine ⟨⟨hcalled.own, fun i hi => ?_⟩, hcalled.told⟩
      obtain ⟨hspares, hbank⟩ := hcalled.spares i hi
      refine ⟨⟨hspares.own, hspares.parent, hspares.grants⟩, hbank.trans ?_⟩
      exact .tryPay hi.parent fun h => hspares.own (Option.some.inj h)

theorem aside_session (env : Env) (id : ClientId) (service : String) (args : Args) (affinity : Affinity) :
    Aside env (env.session id service args affinity).2 := by
  unfold session
  split
  · exact .refl env
  · exact aside_paying env _ fun e => aside_askSession e id service args affinity

theorem aside_close (env : Env) (id : ClientId) : Aside env (env.close id) :=
  (aside_askClose env id).trans (aside_releaseId _ id)

theorem aside_tryUpgrade (env : Env) (id : ClientId) (args : Args) (q : Quota) :
    Aside env (env.tryUpgrade id args q).2 :=
  aside_paying env q fun e => aside_askUpgrade e id args

theorem aside_upgradeWith (id : ClientId) (args : Args) (q : Quota) : ∀ (n : Nat) (may : List Resource) (env : Env),
    Aside env (upgradeWith id args q n may env).2
  | 0, _, env => aside_tryUpgrade env id args q
  | n + 1, may, env => by
    have htry := aside_tryUpgrade env id args q
    unfold upgradeWith
    split
    · rename_i heq
      rw [heq] at htry
      exact htry
    · rename_i e env' heq
      rw [heq] at htry
      split
      · split
        · exact (htry.trans (aside_requestResources env' _)).trans (aside_upgradeWith id args q n _ _)
        · exact htry
      · exact htry

theorem aside_upgrade (env : Env) (id : ClientId) (args : Args) : Aside env (env.upgrade id args).2 := by
  unfold upgrade
  split
  · exact aside_requestResources env args.text
  · split
    · exact .refl env
    · exact aside_upgradeWith id args _ 2 _ env

end SessionBroker.Env
