import SessionBroker.Proofs.Surroundings

/-!
# SessionBroker.Proofs.Asking — what is recorded while the parent is asked for quota

* `Env.Logs p env env'`: events that pass `p` are recorded from `env` to `env'`, and nothing else.
* `Env.Asks env env'`: the parent is asked for quota.  No id is taken or released, and no session is granted.  Every
  resource request is such a step (`asks_requestResources`), and so is every upgrade at the parent (`asks_upgrade`).
* `Env.Apart env env'`: also no session is closed at the parent, and no hook of a factory is called.
-/

namespace SessionBroker

namespace Event

/-- Whether the parent is asked for quota or for an upgrade, or given a handler. -/
def asksQuota : Event → Bool
  | .upgradeAsked _ _ | .resourcesAsked _ | .handlerSet _ => true
  | _ => false

/-- Whether something that was made for a session is changed or given up: a session of the parent is closed, or a
factory upgrades or destroys an object. -/
def isHook : Event → Bool
  | .closeAsked _ | .objectUpgraded _ _ _ _ | .objectDestroyed _ _ => true
  | _ => false

theorem not_isHook_of_asksQuota {e : Event} (h : e.asksQuota = true) : (!e.isHook) = true := by
  cases e <;> first | rfl | cases h

end Event

namespace Env

/-- Events that pass `p` are recorded, and nothing else. -/
def Logs (p : Event → Bool) (env env' : Env) : Prop := ∃ es, env'.trace = env.trace ++ es ∧ ∀ e ∈ es, p e = true

namespace Logs

variable {p q : Event → Bool} {env env' env'' : Env}

/-- A step that records nothing. -/
theorem of_eq (h : env'.trace = env.trace) : Logs p env env' := ⟨[], by simp [h], by simp⟩

theorem refl (env : Env) : Logs p env env := of_eq rfl

theorem trans (h : Logs p env env') (h' : Logs p env' env'') : Logs p env env'' := by
  obtain ⟨es, htrace, hes⟩ := h
  obtain ⟨es', htrace', hes'⟩ := h'
  refine ⟨es ++ es', by simp [htrace', htrace], ?_⟩
  intro e he
  rcases List.mem_append.1 he with he | he
  · exact hes e he
  · exact hes' e he

theorem record (env : Env) {e : Event} (h : p e = true) : Logs p env (env.record e) := ⟨[e], rfl, by simp [h]⟩

theorem mono (h : Logs p env env') (hpq : ∀ e, p e = true → q e = true) : Logs q env env' := by
  obtain ⟨es, htrace, hes⟩ := h
  exact ⟨es, htrace, fun e he => hpq e (hes e he)⟩

/-- What is read off other events only stays as it is. -/
theorem filterMap_eq {β : Type} {f : Event → Option β} (h : Logs p env env') (hf : ∀ e, p e = true → f e = none) :
    env'.trace.filterMap f = env.trace.filterMap f := by
  obtain ⟨es, htrace, hes⟩ := h
  have hnone : es.filterMap f = [] := List.filterMap_eq_nil_iff.2 fun e he => hf e (hes e he)
  rw [htrace, List.filterMap_append, hnone, List.append_nil]

end Logs

/-- The parent is asked for quota, and neither the ids nor the grants change. -/
structure Asks (env env' : Env) : Prop where
  ids : env'.ids = env.ids
  granted : env'.parent.granted = env.parent.granted
  logs : Logs Event.asksQuota env env'

/-- No id is taken or released, no session is granted or closed at the parent, and no hook is called. -/
structure Apart (env env' : Env) : Prop where
  ids : env'.ids = env.ids
  granted : env'.parent.granted = env.parent.granted
  logs : Logs (fun e => !e.isHook) env env'

namespace Asks

variable {env env' env'' : Env}

theorem of_eq (hids : env'.ids = env.ids) (hgranted : env'.parent.granted = env.parent.granted)
    (htrace : env'.trace = env.trace) : Asks env env' := ⟨hids, hgranted, .of_eq htrace⟩

theorem refl (env : Env) : Asks env env := of_eq rfl rfl rfl

theorem trans (h : Asks env env') (h' : Asks env' env'') : Asks env env'' :=
  ⟨h'.ids.trans h.ids, h'.granted.trans h.granted, h.logs.trans h'.logs⟩

theorem record (env : Env) {e : Event} (h : e.asksQuota = true) : Asks env (env.record e) := ⟨rfl, rfl, .record env h⟩

theorem apart (h : Asks env env') : Apart env env' :=
  ⟨h.ids, h.granted, h.logs.mono fun _ => Event.not_isHook_of_asksQuota⟩

end Asks

namespace Apart

variable {env env' env'' : Env}

theorem of_eq (hids : env'.ids = env.ids) (hgranted : env'.parent.granted = env.parent.granted)
    (htrace : env'.trace = env.trace) : Apart env env' := ⟨hids, hgranted, .of_eq htrace⟩

theorem refl (env : Env) : Apart env env := of_eq rfl rfl rfl

theorem trans (h : Apart env env') (h' : Apart env' env'') : Apart env env'' :=
  ⟨h'.ids.trans h.ids, h'.granted.trans h.granted, h.logs.trans h'.logs⟩

theorem record (env : Env) {e : Event} (h : e.isHook = false) : Apart env (env.record e) :=
  ⟨rfl, rfl, .record env (by simp [h])⟩

/-- A step of the bank alone. -/
theorem bank (env : Env) (b : Bank) : Apart env { env with bank := b } := of_eq rfl rfl rfl

end Apart

/-! ### Resource requests -/

theorem asks_giveHandler (env : Env) (handler : Option Nat) : Asks env (env.giveHandler handler) := by
  have hrecord := Asks.record env (e := .handlerSet handler.isSome) rfl
  unfold giveHandler
  dsimp only
  split
  · exact hrecord.trans (.of_eq rfl rfl rfl)
  · exact hrecord.trans (.of_eq rfl rfl rfl)

theorem asks_prepareFallback (env : Env) : Asks env env.prepareFallback := by
  unfold prepareFallback
  split
  · have hsignal : Asks env env.newSignal.2 := .of_eq rfl rfl rfl
    exact (hsignal.trans (asks_giveHandler _ _)).trans (.of_eq rfl rfl rfl)
  · exact .refl env
  · exact .refl env

theorem asks_askResources (env : Env) (text : String) : Asks env (env.askResources text) := by
  have hrecord := Asks.record env (e := .resourcesAsked text) rfl
  unfold askResources
  dsimp only
  -- the grants of the parent change balances only
  rw [grants_eq]
  split
  · exact hrecord.trans (.of_eq rfl rfl rfl)
  · exact hrecord.trans (.of_eq rfl rfl rfl)

theorem asks_waitFor (env : Env) (n : Nat) : Asks env (env.waitFor n) := by
  unfold waitFor
  split
  · exact .refl env
  · dsimp only
    split
    · exact .of_eq rfl rfl rfl
    · exact .of_eq rfl rfl rfl

theorem asks_requestResources (env : Env) (text : String) : Asks env (env.requestResources text) := by
  have hask := (asks_prepareFallback env).trans (asks_askResources env.prepareFallback text)
  unfold requestResources
  dsimp only
  split
  · exact hask.trans (asks_waitFor _ _)
  · exact hask
  · exact hask

/-! ### Upgrades at the parent -/

theorem asks_askUpgrade (env : Env) (id : ClientId) (args : Args) : Asks env (env.askUpgrade id args).2 :=
  (Asks.record env (e := .upgradeAsked id args.text) rfl).trans (.of_eq rfl rfl rfl)

theorem asks_tryUpgrade (env : Env) (id : ClientId) (args : Args) (q : Quota) :
    Asks env (env.tryUpgrade id args q).2 := by
  unfold tryUpgrade paying
  dsimp only
  split
  · exact .refl env
  · rename_i bank _
    have hpaid : Asks env { env with bank := bank } := .of_eq rfl rfl rfl
    have hasked := hpaid.trans (asks_askUpgrade { env with bank := bank } id args)
    split
    · rename_i heq
      rw [heq] at hasked
      exact hasked
    · rename_i heq
      rw [heq] at hasked
      exact hasked.trans (.of_eq rfl rfl rfl)

theorem asks_upgradeWith (id : ClientId) (args : Args) (q : Quota) (n : Nat) (may : List Resource) (env : Env) :
    Asks env (upgradeWith id args q n may env).2 := by
  induction n generalizing may env with
  | zero => exact asks_tryUpgrade env id args q
  | succ n ih =>
    have htry := asks_tryUpgrade env id args q
    unfold upgradeWith
    split
    · rename_i heq
      rw [heq] at htry
      exact htry
    · rename_i e env' heq
      rw [heq] at htry
      split
      · split
        · exact (htry.trans (asks_requestResources env' _)).trans (ih _ _)
        · exact htry
      · exact htry

theorem asks_upgrade (env : Env) (id : ClientId) (args : Args) : Asks env (env.upgrade id args).2 := by
  unfold upgrade
  split
  · exact asks_requestResources env args.text
  · split
    · exact .refl env
    · exact asks_upgradeWith id args _ 2 _ env

end Env

end SessionBroker
