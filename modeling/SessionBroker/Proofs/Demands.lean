import SessionBroker.Proofs.Retrying

/-!
# SessionBroker.Proofs.Demands — where the parent is asked for resources

The calls of a component to its parent are resource requests, and steps between them that concern neither requests nor
handlers.

* `Env.Still env env'`: a step of the second kind.
* `Env.Through P env env'`: resource requests in states that `P` allows lead from `env` to `env'`, next to such steps.
* `Env.through_upgrade`, `ParentService.through_initiate`: so it is with upgrades and with the services of the parent,
  however often they try again.
-/

namespace SessionBroker

/-- Whether the parent is asked for resources or given a handler. -/
def Event.concernsGrants : Event → Bool
  | .resourcesAsked _ | .handlerSet _ => true
  | _ => false

namespace Env

variable {env env' env'' : Env} {P : Env → String → Prop}

/-! ### Steps between resource requests -/

/-- A step that concerns neither resource requests nor handlers. -/
structure Still (env env' : Env) : Prop where
  fallback : env'.fallback = env.fallback
  signals : env'.signals = env.signals
  handler : env'.parent.handler = env.parent.handler
  keeps : env'.parent.keepsHandlers = env.parent.keepsHandlers
  stalled : env'.stalled = env.stalled
  logs : Logs (fun e => !e.concernsGrants) env env'

namespace Still

theorem refl (env : Env) : Still env env := ⟨rfl, rfl, rfl, rfl, rfl, .refl env⟩

theorem trans (h : Still env env') (h' : Still env' env'') : Still env env'' where
  fallback := h'.fallback.trans h.fallback
  signals := h'.signals.trans h.signals
  handler := h'.handler.trans h.handler
  keeps := h'.keeps.trans h.keeps
  stalled := h'.stalled.trans h.stalled
  logs := h.logs.trans h'.logs

/-- An event other than a resource request or a change of handler. -/
theorem record (env : Env) {e : Event} (he : e.concernsGrants = false) : Still env (env.record e) :=
  ⟨rfl, rfl, rfl, rfl, rfl, .record env (by simp [he])⟩

end Still

theorem still_releaseId (env : Env) (id : ClientId) : Still env (env.releaseId id) := by
  unfold releaseId
  split
  · exact .refl env
  · exact ⟨rfl, rfl, rfl, rfl, rfl, .of_eq rfl⟩

theorem still_requestId (p : ParentService) (s : Session) (env : Env) : Still env (p.requestId s env).2 := by
  unfold ParentService.requestId
  split
  · exact .refl env
  · exact ⟨rfl, rfl, rfl, rfl, rfl, .of_eq rfl⟩

theorem still_askSession (env : Env) (id : ClientId) (service : String) (args : Args) (affinity : Affinity) :
    Still env (env.askSession id service args affinity).2 := by
  have hrecord := Still.record env (e := .sessionAsked id service args.text affinity) rfl
  unfold askSession
  dsimp only
  split
  · exact hrecord.trans ⟨rfl, rfl, rfl, rfl, rfl, .of_eq rfl⟩
  · exact hrecord.trans ⟨rfl, rfl, rfl, rfl, rfl, .of_eq rfl⟩

theorem still_askUpgrade (env : Env) (id : ClientId) (args : Args) : Still env (env.askUpgrade id args).2 :=
  (Still.record env (e := .upgradeAsked id args.text) rfl).trans ⟨rfl, rfl, rfl, rfl, rfl, .of_eq rfl⟩

/-- Payments concern the bank alone. -/
theorem still_paying {α : Type} (env : Env) (q : Quota) {call : Env → Except SessionError α × Env}
    (hcall : ∀ e, Still e (call e).2) : Still env (env.paying q call).2 := by
  unfold paying
  dsimp only
  split
  · exact .refl env
  · rename_i bank _
    have hpaid : Still env { env with bank := bank } := ⟨rfl, rfl, rfl, rfl, rfl, .of_eq rfl⟩
    have hcalled := hpaid.trans (hcall { env with bank := bank })
    split
    · rename_i heq
      rw [heq] at hcalled
      exact hcalled
    · rename_i heq
      rw [heq] at hcalled
      exact hcalled.trans ⟨rfl, rfl, rfl, rfl, rfl, .of_eq rfl⟩

theorem still_session (env : Env) (id : ClientId) (service : String) (args : Args) (affinity : Affinity) :
    Still env (env.session id service args affinity).2 := by
  unfold session
  split
  · exact .refl env
  · exact still_paying env _ fun e => still_askSession e id service args affinity

theorem still_close (env : Env) (id : ClientId) : Still env (env.close id) :=
  (Still.record env (e := .closeAsked id) rfl).trans (still_releaseId _ id)

theorem still_tryUpgrade (env : Env) (id : ClientId) (args : Args) (q : Quota) :
    Still env (env.tryUpgrade id args q).2 :=
  still_paying env q fun e => still_askUpgrade e id args

/-! ### Calls, and the resource requests in them -/

/-- Resource requests, each in a state that `P` allows, lead from `env` to `env'`, next to steps that concern neither
requests nor handlers. -/
inductive Through (P : Env → String → Prop) (env : Env) : Env → Prop
  | still {env' : Env} : Still env env' → Through P env env'
  | asked {e env' : Env} (text : String) :
      Through P env e → P e text → Still (e.requestResources text) env' → Through P env env'

namespace Through

theorem refl (env : Env) : Through P env env := .still (.refl env)

theorem trans (h : Through P env env') (h' : Through P env' env'') : Through P env env'' := by
  induction h' with
  | still hstill =>
    cases h with
    | still h => exact .still (h.trans hstill)
    | asked text h hP hlast => exact .asked text h hP (hlast.trans hstill)
  | asked text _ hP hlast ih => exact .asked text ih hP hlast

end Through

/-- A resource request is made, in whatever state. -/
theorem through_requestResources (env : Env) (text : String) :
    Through (fun _ _ => True) env (env.requestResources text) :=
  .asked text (.refl env) trivial (.refl _)

theorem through_upgradeWith (id : ClientId) (args : Args) (q : Quota) : ∀ (n : Nat) (may : List Resource) (env : Env),
    Through (fun _ _ => True) env (upgradeWith id args q n may env).2
  | 0, _, env => .still (still_tryUpgrade env id args q)
  | n + 1, may, env => by
    have htry := still_tryUpgrade env id args q
    unfold upgradeWith
    split
    · rename_i heq
      rw [heq] at htry
      exact .still htry
    · rename_i err env' heq
      rw [heq] at htry
      split
      · split
        · exact (Through.still htry).trans
            ((through_requestResources env' _).trans (through_upgradeWith id args q n _ _))
        · exact .still htry
      · exact .still htry

theorem through_upgrade (env : Env) (id : ClientId) (args : Args) :
    Through (fun _ _ => True) env (env.upgrade id args).2 := by
  unfold upgrade
  split
  · exact through_requestResources env args.text
  · split
    · exact .refl env
    · exact through_upgradeWith id args _ 2 _ env

end Env

namespace ParentService

variable (p : ParentService) (s : Session) (env : Env)

theorem still_create : env.Still (p.create s env).2.2 := by
  have hcall := (Env.still_requestId p s env).trans
    (Env.still_session (p.requestId s env).2 (p.requestId s env).1 p.name s.args s.affinity)
  unfold create
  dsimp only
  split
  · rename_i heq
    rw [heq] at hcall
    exact hcall
  · rename_i env' heq
    rw [heq] at hcall
    have hrelease := hcall.trans (Env.still_releaseId env' (p.requestId s env).1)
    split <;> exact hrelease

theorem through_forward : env.Through (fun _ _ => True) (p.forward s env).2.2 := by
  unfold forward
  split
  · exact .still (p.still_create s env)
  · unfold upgrade
    dsimp only
    split
    · exact .refl env
    · exact Env.through_upgrade env _ _
  · unfold close
    cases s.downstream with
    | none => exact .refl env
    | some id => exact .still (Env.still_close env id)
  · exact .refl env

theorem through_attempt : ∀ (n : Nat) (last : SessionError) (s : Session) (env : Env),
    env.Through (fun _ _ => True) (p.attempt last n s env).2.2
  | 0, _, _, env => .refl env
  | n + 1, last, s, env => by
    have htry := p.through_forward s env
    unfold attempt
    split
    · rename_i heq
      rw [heq] at htry
      exact htry
    · rename_i e s' env' heq
      rw [heq] at htry
      split
      · exact htry.trans ((Env.through_requestResources env' _).trans (through_attempt n e s' _))
      · exact htry

/-- A service of the parent works on a session. -/
theorem through_initiate : env.Through (fun _ _ => True) (p.initiate s env).env := by
  unfold initiate
  split
  · exact p.through_forward s env
  · exact p.through_attempt _ _ s env

end ParentService

end SessionBroker
