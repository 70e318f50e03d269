import SessionBroker.Proofs.Asking
import SessionBroker.Proofs.Settling

/-!
# SessionBroker.Proofs.Workings — what is stored after a provider has worked on a session

Whatever its provider is, a session is created, upgraded and closed in the same way: the provider is given the session,
and what came of it is stored.  Around that, quota is moved and the parent is told something.

* `Broker.Stores b b' id s`: session `id` is stored as `s`, and its provider was not asked.
* `Broker.Works b b' id p s s' o`: provider `p` was given `s`, and what came of it is stored as `s'`.
* `Broker.Turn phase b b' id`: what routing, upgrading or closing session `id` amounts to (`turn_route`,
  `turn_upgrade`, `turn_close`): its provider works on it in that phase, or it is not asked.
* `Broker.Restores b b' id p`: the answer of provider `p` to session `id` is applied, or the provider is lost
  (`restores_applyResponse`, `restores_dismiss`).
-/

namespace SessionBroker

namespace Registry

variable {r : Registry}

theorem apart_wake_desk (d : Desk) (env : Env) : env.Apart (d.wake env) := by
  unfold Desk.wake
  cases d.bell with
  | none => exact .refl env
  | some name => exact .record env rfl

/-- Waking a provider calls nothing. -/
theorem apart_wake (r : Registry) (env : Env) (p : Provider) : env.Apart (r.wake env p) := by
  cases p with
  | here n =>
    cases hv : r.locals.find? n with
    | none => simpa [wake, hv] using Env.Apart.refl env
    | some v =>
      suffices env.Apart (v.wake env) by simpa [wake, hv] using this
      cases v with
      | made l | parent q => exact .refl env
      | desk d => exact apart_wake_desk d env
      | child c => exact apart_wake_desk c.desk env
      | custom c =>
        show env.Apart (c.wake env)
        unfold CustomService.wake
        cases c.bell with
        | none => exact .refl env
        | some name => exact .record env rfl
  | later n =>
    cases hd : r.desks.find? n with
    | none => simpa [wake, hd] using Env.Apart.refl env
    | some d => simpa [wake, hd] using apart_wake_desk d env
  | parent n => exact .refl env
  | child c n =>
    cases hv : r.children.find? ⟨c, n⟩ with
    | none => simpa [wake, hv] using Env.Apart.refl env
    | some v => simpa [wake, hv] using apart_wake_desk v.desk env

/-- A provider that cannot be given a session is not there. -/
theorem contains_of_initiate?_none {s : Session} {env : Env} {p : Provider} (h : r.initiate? s env p = none) :
    r.contains p = false := by
  cases p with
  | here n | later n | parent n | child c n =>
    have hnone := Option.map_eq_none_iff.1 h
    simp [contains, Table.contains, hnone]

/-- A provider that was found is there. -/
theorem contains_of_find {limit : Word} {service : String} {target : Target} {r' : Registry} {p : Provider}
    (h : r.find limit service target = (.found p, r')) : r'.contains p = true := by
  unfold find at h
  split at h
  · rename_i n
    obtain ⟨hfound, rfl⟩ := Prod.mk.inj h
    unfold findLocal at hfound
    split at hfound
    · rename_i hany
      obtain rfl := Lookup.found.inj hfound
      exact Table.contains_of_any hany
    · split at hfound
      · rename_i hdesk
        obtain rfl := Lookup.found.inj hfound
        exact hdesk
      · cases hfound
  · unfold findParent at h
    split at h
    · rename_i v hv
      obtain ⟨hfound, rfl⟩ := Prod.mk.inj h
      split at hfound
      · cases hfound
      · obtain rfl := Lookup.found.inj hfound
        show (r.parents.find? service).isSome = true
        rw [hv]
        rfl
    · obtain ⟨hfound, rfl⟩ := Prod.mk.inj h
      obtain rfl := Lookup.found.inj hfound
      show ((r.parents.insert service _).find? service).isSome = true
      rw [Table.find?_insert_self]
      rfl
  · obtain ⟨hfound, rfl⟩ := Prod.mk.inj h
    unfold findChild at hfound
    split at hfound
    · rename_i hany
      obtain rfl := Lookup.found.inj hfound
      exact Table.contains_of_any hany
    · cases hfound

/-- Looking a provider up makes no service of this component. -/
theorem locals_find (r : Registry) (limit : Word) (service : String) (target : Target) :
    (r.find limit service target).2.locals = r.locals := by
  unfold find
  split
  · rfl
  · unfold findParent
    split
    · rfl
    · rfl
  · rfl

end Registry

namespace Broker

variable {b b' c : Broker} {id : ServerId} {s s' : Session} {p : Provider} {o : Outcome Registry}

/-- Session `id` is stored anew, the providers are left as they are, and nothing is called. -/
structure Stores (b b' : Broker) (id : ServerId) (s : Session) : Prop where
  rules : b'.rules = b.rules
  config : b'.config = b.config
  sessions : b'.sessions = b.sessions.modify id fun t => { t with session := s }
  providers : b'.providers = b.providers
  env : b.env.Apart b'.env

/-- Provider `p` is given `s` to work on, and what came of it is stored as `s'`. -/
structure Works (b b' : Broker) (id : ServerId) (p : Provider) (s s' : Session) (o : Outcome Registry) : Prop where
  rules : b'.rules = b.rules
  config : b'.config = b.config
  given : ∃ env, b.env.Apart env ∧ b.providers.initiate? s env p = some o
  env : o.env.Apart b'.env
  providers : b'.providers = o.service
  sessions : b'.sessions = b.sessions.modify id fun t => { t with session := s' }
  handle : s'.handle = o.session.handle
  downstream : s'.downstream = o.session.downstream

namespace Stores

theorem setSession (b : Broker) (id : ServerId) (s : Session) : Stores b (b.setSession id s) id s :=
  ⟨rfl, rfl, rfl, rfl, .refl b.env⟩

theorem find?_self (h : Stores b b' id s) {t : Slot} (ht : b.sessions.find? id = some t) :
    b'.sessions.find? id = some { t with session := s } := by
  rw [h.sessions, Table.find?_modify_of _ ht]

theorem find?_of_ne (h : Stores b b' id s) {j : ServerId} (hj : j ≠ id) :
    b'.sessions.find? j = b.sessions.find? j := by
  rw [h.sessions, Table.find?_modify_of_ne _ _ hj]

end Stores

/-! ### Creating sessions -/

theorem stores_refuse (b : Broker) (id : ServerId) (s : Session) (next : Phase) :
    Stores b (b.refuse id s next) id (s.advance next) := by
  unfold refuse
  dsimp only
  split
  · exact ⟨rfl, rfl, rfl, rfl, .record _ rfl⟩
  · exact ⟨rfl, rfl, rfl, rfl, .refl _⟩

theorem stores_wakeIfAsync (h : Stores b b' id s) (p : Provider) : Stores b (b'.wakeIfAsync p) id s := by
  unfold wakeIfAsync
  split
  · exact ⟨h.rules, h.config, h.sessions, h.providers, h.env.trans (Registry.apart_wake _ _ _)⟩
  · exact h

/-- The session whose capability is handed out. -/
def handedOut (s : Session) : Session := if s.cap?.isSome then s.advance .capHandedOut else s

theorem stores_handOut (b : Broker) (id : ServerId) (s : Session) : Stores b (b.handOut id s) id (handedOut s) := by
  unfold handOut handedOut
  cases s.cap? with
  | none => exact ⟨rfl, rfl, rfl, rfl, .refl _⟩
  | some cap => exact ⟨rfl, rfl, rfl, rfl, .record _ rfl⟩

/-- A create is concluded with the session stored, and it refers to what it referred to; one that stays pending is
stored as it is. -/
theorem stores_concludeCreate (b : Broker) (id : ServerId) (p : Provider) (s : Session) (error : Option SessionError) :
    ∃ s', Stores b (b.concludeCreate id p s error) id s' ∧ s'.handle = s.handle ∧ s'.downstream = s.downstream ∧
      (s.phase = .createRequested → error = none → s' = s) := by
  have hrefuse : ∀ next, Stores b (b.refuse id s next) id (s.advance next) ∧ (s.advance next).handle = s.handle ∧
      (s.advance next).downstream = s.downstream :=
    fun next => ⟨stores_refuse b id s next, s.handle_advance next, s.downstream_advance next⟩
  unfold concludeCreate
  split
  · rename_i hphase
    refine ⟨_, stores_handOut b id s, ?_, ?_, fun h => by rw [hphase] at h; cases h⟩
    · unfold handedOut
      split
      · exact s.handle_advance _
      · rfl
    · unfold handedOut
      split
      · exact s.downstream_advance _
      · rfl
  · exact ⟨s, stores_wakeIfAsync (.setSession b id s) p, rfl, rfl, fun _ _ => rfl⟩
  · obtain ⟨hstores, hhandle, hdown⟩ := hrefuse .serviceDenied
    exact ⟨_, hstores, hhandle, hdown, fun _ h => by cases h⟩
  · exact ⟨s, ⟨rfl, rfl, rfl, rfl, .record _ rfl⟩, rfl, rfl, fun _ _ => rfl⟩
  · rename_i hpending _ _
    obtain ⟨hstores, hhandle, hdown⟩ := hrefuse s.phase
    exact ⟨_, hstores, hhandle, hdown, fun hphase herror => absurd herror (by simpa using hpending hphase)⟩

theorem apart_donate {payee : AccountRef} {q : Quota} {paid : Broker} (h : b.donate payee q = .ok paid) :
    b.env.Apart paid.env := by
  obtain ⟨bank, -, rfl⟩ := donate_eq_ok h
  exact .bank b.env bank

/-- A create that is refused is over. -/
theorem isEnded_advance_createFailure (hphase : s.phase = .createRequested) {next : Phase}
    (hnext : next.isCreateFailure = true) : (s.advance next).phase.isEnded = true := by
  rw [Session.advance_createFailure hphase hnext]
  exact Phase.isEnded_iff.2 (.inr hnext)

/-- A create is refused, or its provider was asked, and the session is stored as it came back. -/
theorem initiateCreate_cases (b : Broker) (id : ServerId) (p : Provider) (s : Session) :
    (∃ s', Stores b (b.initiateCreate id p s) id s' ∧ s'.handle = s.handle ∧ s'.downstream = s.downstream ∧
      (s.phase = .createRequested → s'.phase.isEnded = true)) ∨
      ∃ o s', Works b (b.initiateCreate id p s) id p s s' o ∧
        (o.session.phase = .createRequested → o.error = none →
          s'.phase = .createRequested ∧ s'.abandoned = o.session.abandoned) := by
  unfold initiateCreate
  dsimp only
  split
  · rename_i e _
    exact .inl ⟨_, stores_refuse b id s _, s.handle_advance _, s.downstream_advance _,
      fun hphase => isEnded_advance_createFailure hphase (isCreateFailure_unpaidPhase e)⟩
  · rename_i paid hpaid
    split
    · exact .inl ⟨_, stores_refuse b id s _, s.handle_advance _, s.downstream_advance _,
        fun hphase => isEnded_advance_createFailure hphase rfl⟩
    · rename_i o ho
      refine .inr ⟨o, ?_⟩
      split
      · obtain ⟨u, hu⟩ : ∃ u, u = (if (b.providers.account p).isSome then o.session.donate s.resources else o.session) :=
          ⟨_, rfl⟩
        have hgiven : u.handle = o.session.handle ∧ u.downstream = o.session.downstream ∧
            u.phase = o.session.phase ∧ u.abandoned = o.session.abandoned := by
          rw [hu]
          split <;> exact ⟨rfl, rfl, rfl, rfl⟩
        obtain ⟨hhandle, hdown, hphase, habandoned⟩ := hgiven
        rw [← hu]
        obtain ⟨s', hstores, hhandle', hdown', hsame⟩ :=
          stores_concludeCreate { b with env := o.env, providers := o.service } id p u o.error
        refine ⟨s', ⟨hstores.rules, hstores.config, ⟨paid.env, apart_donate hpaid, ho⟩, hstores.env, hstores.providers,
          hstores.sessions, hhandle'.trans hhandle, hdown'.trans hdown⟩, fun hpending herror => ?_⟩
        rw [hsame (hphase.trans hpending) herror]
        exact ⟨hphase.trans hpending, habandoned⟩
      · rename_i hloses
        obtain ⟨s', hstores, hhandle, hdown, -⟩ := stores_concludeCreate
          ({ b with env := o.env, providers := o.service }.takeBack (b.providers.account p) s.resources) id p o.session
          o.error
        refine ⟨s', ⟨hstores.rules, hstores.config, ⟨paid.env, apart_donate hpaid, ho⟩, ?_, hstores.providers,
          hstores.sessions, hhandle, hdown⟩, fun hphase herror => absurd ?_ hloses⟩
        · exact (Env.Apart.bank o.env _).trans hstores.env
        · simp [keepsDonation, hphase, herror]

/-! ### Upgrading sessions -/

theorem stores_concludeUpgrade (b : Broker) (id : ServerId) (p : Provider) (s : Session) :
    Stores b (b.concludeUpgrade id p s) id s := by
  unfold concludeUpgrade
  dsimp only
  split
  · exact ⟨rfl, rfl, rfl, rfl, .record _ rfl⟩
  · exact stores_wakeIfAsync (.setSession b id s) p
  · exact .setSession b id s

/-- An upgrade changes nothing, or the provider was asked, and the session is stored as it came back. -/
theorem initiateUpgrade_cases (b : Broker) (id : ServerId) (p : Provider) (s : Session) (q : Quota) :
    (b.initiateUpgrade id p s q).2 = b ∨
      ∃ o s', Works b (b.initiateUpgrade id p s q).2 id p (s.requestUpgrade q) s' o ∧
        (o.error = none → s'.phase = o.session.phase ∧ s'.abandoned = o.session.abandoned) := by
  unfold initiateUpgrade
  dsimp only
  split
  · exact .inl rfl
  · rename_i paid hpaid
    split
    · exact .inl rfl
    · rename_i o ho
      refine .inr ⟨o, ?_⟩
      split
      · rename_i herror
        refine ⟨_, ⟨rfl, rfl, ⟨paid.env, apart_donate hpaid, ho⟩, .bank _ _, rfl, rfl, ?_, ?_⟩,
          fun hnone => by rw [hnone] at herror; cases herror⟩
        · unfold Session.revertUpgrade
          split <;> rfl
        · unfold Session.revertUpgrade
          split <;> rfl
      · obtain ⟨u, hu⟩ : ∃ u, u = (if (b.providers.account p).isSome then o.session.donate q else o.session) := ⟨_, rfl⟩
        have hgiven : u.handle = o.session.handle ∧ u.downstream = o.session.downstream ∧
            u.phase = o.session.phase ∧ u.abandoned = o.session.abandoned := by
          rw [hu]
          split <;> exact ⟨rfl, rfl, rfl, rfl⟩
        have hstores := stores_concludeUpgrade { b with env := o.env, providers := o.service } id p u
        rw [← hu]
        exact ⟨u, ⟨hstores.rules, hstores.config, ⟨paid.env, apart_donate hpaid, ho⟩, hstores.env, hstores.providers,
          hstores.sessions, hgiven.1, hgiven.2.1⟩, fun _ => hgiven.2.2⟩

/-! ### Closing sessions -/

theorem stores_concludeClose (b : Broker) (id : ServerId) (payer : AccountRef) (s : Session) :
    ∃ s', Stores b (b.concludeClose id payer s) id s' ∧ s'.handle = s.handle ∧ s'.downstream = s.downstream ∧
      s'.phase = s.phase := by
  unfold concludeClose
  split
  · exact ⟨_, ⟨rfl, rfl, rfl, rfl, (Env.Apart.bank b.env _).trans (.record _ rfl)⟩, rfl, rfl, rfl⟩
  · exact ⟨s, .setSession b id s, rfl, rfl, rfl⟩

/-- The provider of a session that is closed is gone, or it was asked, and the session is stored as it came back. -/
theorem initiateClose_cases (b : Broker) (id : ServerId) (p : Provider) (s : Session) :
    (b.providers.initiate? s b.env p = none ∧ ∃ s', Stores b (b.initiateClose id p s) id s' ∧ s'.downstream = none) ∨
      ∃ o s', Works b (b.initiateClose id p s) id p s s' o ∧ b.providers.initiate? s b.env p = some o ∧
        s'.phase = o.session.phase := by
  unfold initiateClose
  dsimp only
  split
  · rename_i hgone
    obtain ⟨s', hstores, -, hdown, -⟩ := stores_concludeClose b id (b.providers.account p) ((detach s).advance .closed)
    exact .inl ⟨hgone, s', hstores, hdown.trans (Session.downstream_advance _ _)⟩
  · rename_i o ho
    refine .inr ⟨o, ?_⟩
    split
    · have hstores := stores_wakeIfAsync (.setSession { b with env := o.env, providers := o.service } id o.session) p
      exact ⟨_, ⟨hstores.rules, hstores.config, ⟨b.env, .refl _, ho⟩, hstores.env, hstores.providers, hstores.sessions,
        rfl, rfl⟩, ho, rfl⟩
    · obtain ⟨s', hstores, hhandle, hdown, hphase⟩ :=
        stores_concludeClose { b with env := o.env, providers := o.service } id (b.providers.account p) o.session
      exact ⟨s', ⟨hstores.rules, hstores.config, ⟨b.env, .refl _, ho⟩, hstores.env, hstores.providers, hstores.sessions,
        hhandle, hdown⟩, ho, hphase⟩

/-! ### Turns -/

/-- It is the turn of session `id`: its provider works on it in a phase, or it is not asked. -/
inductive Turn (phase : Phase) (b b' : Broker) (id : ServerId) : Prop
  /-- Nothing happens. -/
  | idle : b' = b → Turn phase b b' id
  /-- A session that was not routed is stored without asking a provider, and refers to what it referred to. -/
  | stored (t t' : Slot) (found : b.sessions.find? id = some t) (unrouted : t.provider = none)
      (sessions : b'.sessions = b.sessions.modify id fun _ => t')
      (there : ∀ p, t'.provider = some p → b'.providers.contains p = true)
      (handle : t'.session.handle = t.session.handle) (downstream : t'.session.downstream = t.session.downstream)
      (locals : b'.providers.locals = b.providers.locals) (env : b.env.Apart b'.env)
  /-- The provider is gone. -/
  | lost (s s' : Session) (p : Provider) (found : b.sessions.find? id = some ⟨s, some p⟩) (alive : s.isAlive = true)
      (gone : b.providers.contains p = false) (sessions : b'.sessions = b.sessions.modify id fun _ => ⟨s', some p⟩)
      (locals : b'.providers.locals = b.providers.locals) (env : b.env.Apart b'.env)
  /-- The provider is given the session, and what came of it is stored. -/
  | worked (t : Slot) (p : Provider) (s s' : Session) (r : Registry) (env : Env) (o : Outcome Registry)
      (found : b.sessions.find? id = some t)
      (provider : t.provider = if phase = .createRequested then none else some p)
      (phase_eq : s.phase = phase) (handle : s.handle = t.session.handle)
      (downstream : s.downstream = t.session.downstream) (locals : r.locals = b.providers.locals)
      (before : b.env.Apart env) (given : r.initiate? s env p = some o) (after : o.env.Apart b'.env)
      (providers : b'.providers = o.service) (sessions : b'.sessions = b.sessions.modify id fun _ => ⟨s', some p⟩)
      (stored_handle : s'.handle = o.session.handle) (stored_downstream : s'.downstream = o.session.downstream)
      (stored_phase : phase = .closeRequested → s'.phase = o.session.phase)

/-- A session that is refused is stored, and no provider is asked. -/
theorem turn_refuse (hfound : b.sessions.find? id = some ⟨s, none⟩) (next phase : Phase) :
    Turn phase b (b.refuse id s next) id := by
  have hstores := stores_refuse b id s next
  refine .stored ⟨s, none⟩ ⟨s.advance next, none⟩ hfound rfl ?_ (fun p hp => by cases hp) (s.handle_advance next)
    (s.downstream_advance next) (by rw [hstores.providers]) hstores.env
  rw [hstores.sessions, Table.modify_of_find? _ hfound, Table.modify_of_find? _ hfound]

/-- A session that waits is refused, or it is given to the provider that the rules name. -/
theorem turn_routeSession (hfound : b.sessions.find? id = some ⟨s, none⟩) (hphase : s.phase = .createRequested) :
    Turn .createRequested b (b.routeSession id s) id := by
  unfold routeSession
  split
  · exact turn_refuse hfound _ _
  · rename_i route _
    have hlocals := Registry.locals_find b.providers b.config.retryLimit route.service route.target
    split
    · exact .idle rfl
    · exact turn_refuse hfound _ _
    · rename_i p r heq
      rw [heq] at hlocals
      dsimp only
      obtain ⟨u, hu⟩ : ∃ u, u = (if route.relabels s.label then s.relabel route.label else s) := ⟨_, rfl⟩
      have hsame : u.phase = s.phase ∧ u.handle = s.handle ∧ u.downstream = s.downstream := by
        rw [hu]
        split <;> exact ⟨rfl, rfl, rfl⟩
      obtain ⟨hsame, hhandle, hdown⟩ := hsame
      rw [← hu]
      obtain ⟨c, hc⟩ : ∃ c, c = { b with providers := r, sessions := b.sessions.modify id fun _ => ⟨u, some p⟩ } :=
        ⟨_, rfl⟩
      have hsessions : ∀ s', c.sessions.modify id (fun t => { t with session := s' }) =
          b.sessions.modify id fun _ => ⟨s', some p⟩ := by
        intro s'
        rw [hc, Table.modify_modify]
      rw [← hc]
      rcases initiateCreate_cases c id p u with ⟨s', hstores, hhandle', hdown', -⟩ | ⟨o, s', hworks, -⟩
      · refine .stored ⟨s, none⟩ ⟨s', some p⟩ hfound rfl (hstores.sessions.trans (hsessions s')) (fun q hq => ?_)
          (hhandle'.trans hhandle) (hdown'.trans hdown) ?_ ?_
        · obtain rfl := Option.some.inj hq
          rw [hstores.providers, hc]
          exact Registry.contains_of_find heq
        · rw [hstores.providers, hc]
          exact hlocals
        · have henv := hstores.env
          rw [hc] at henv ⊢
          exact henv
      · obtain ⟨env, hbefore, hgiven⟩ := hworks.given
        rw [hc] at hbefore hgiven
        exact .worked ⟨s, none⟩ p u s' r env o hfound rfl (hsame.trans hphase) hhandle hdown hlocals hbefore hgiven
          hworks.env hworks.providers (hworks.sessions.trans (hsessions s')) hworks.handle hworks.downstream
          fun h => by cases h

theorem turn_route (b : Broker) (id : ServerId) : Turn .createRequested b (b.route id) id := by
  unfold route
  split
  · rename_i t hfound
    obtain ⟨s, provider⟩ := t
    split
    · rename_i hwaiting
      obtain ⟨rfl, hphase, -⟩ := Slot.isWaiting_iff.1 hwaiting
      exact turn_routeSession hfound hphase
    · exact .idle rfl
  · exact .idle rfl

theorem turn_upgrade (b : Broker) (id : ServerId) (q : Quota) : Turn .upgradeRequested b (b.upgrade id q).2 id := by
  unfold upgrade
  split
  · exact .idle rfl
  · rename_i t hfound
    obtain ⟨s, provider⟩ := t
    dsimp only
    split
    · exact .idle rfl
    · cases provider with
      | none => exact .idle rfl
      | some p =>
        dsimp only
        split
        · rename_i hready
          have hrequest := s.requestUpgrade_eq (Bool.and_eq_true_iff.1 hready).1 q
          rcases initiateUpgrade_cases b id p s q with hsame | ⟨o, s', hworks, -⟩
          · exact .idle hsame
          · obtain ⟨env, hbefore, hgiven⟩ := hworks.given
            refine .worked ⟨s, some p⟩ p (s.requestUpgrade q) s' b.providers env o hfound rfl ?_ ?_ ?_ rfl hbefore
              hgiven hworks.env hworks.providers ?_ hworks.handle hworks.downstream fun h => by cases h
            · rw [hrequest]
            · rw [hrequest]
            · rw [hrequest]
            · rw [hworks.sessions, Table.modify_of_find? _ hfound, Table.modify_of_find? _ hfound]
        · exact .idle rfl

theorem turn_close (b : Broker) (id : ServerId) : Turn .closeRequested b (b.close id).2 id := by
  unfold close
  split
  · exact .idle rfl
  · rename_i t hfound
    obtain ⟨s, provider⟩ := t
    dsimp only
    split
    · exact .idle rfl
    · rename_i hopen
      have hclosed : s.phase ≠ .closed := fun h => hopen (.inl h)
      cases provider with
      | none =>
        dsimp only
        obtain ⟨u, hu⟩ : ∃ u, u = (if s.phase = .createRequested then s.perform .abandon else s) := ⟨_, rfl⟩
        have hsame : u.handle = s.handle ∧ u.downstream = s.downstream := by
          rw [hu]
          split <;> exact ⟨rfl, rfl⟩
        rw [← hu]
        refine .stored ⟨s, none⟩ ⟨u.advance .closed, none⟩ hfound rfl ?_ (fun p hp => by cases hp)
          ((u.handle_advance _).trans hsame.1) ((u.downstream_advance _).trans hsame.2) rfl (.record _ rfl)
        show (b.sessions.modify id fun t => { t with session := u.advance .closed }) = _
        rw [Table.modify_of_find? _ hfound, Table.modify_of_find? _ hfound]
      | some p =>
        simp only [advance_givenUp hclosed]
        rcases initiateClose_cases b id p (givenUp s) with ⟨hgone, s', hstores, -⟩ | ⟨o, s', hworks, hgiven, hphase⟩
        · refine .lost s s' p hfound (Session.isAlive_of_ne_closed hclosed)
            (Registry.contains_of_initiate?_none hgone) ?_
            (by rw [hstores.providers]) hstores.env
          rw [hstores.sessions, Table.modify_of_find? _ hfound, Table.modify_of_find? _ hfound]
        · refine .worked ⟨s, some p⟩ p (givenUp s) s' b.providers b.env o hfound rfl rfl rfl rfl rfl (.refl _) hgiven
            hworks.env hworks.providers ?_ hworks.handle hworks.downstream fun _ => hphase
          rw [hworks.sessions, Table.modify_of_find? _ hfound, Table.modify_of_find? _ hfound]

/-! ### Answers of providers -/

/-- Session `id` of provider `p` is stored anew, and nothing is called. -/
structure Restores (b b' : Broker) (id : ServerId) (p : Provider) : Prop where
  sessions : ∃ s s', b.sessions.find? id = some ⟨s, some p⟩ ∧ b'.sessions = b.sessions.modify id fun _ => ⟨s', some p⟩
  locals : b'.providers.locals = b.providers.locals
  env : b.env.Apart b'.env

/-- A session that is stored anew stays with its provider. -/
theorem Restores.of_modify (hfound : b.sessions.find? id = some ⟨s, some p⟩) {s' : Session}
    (hsessions : b'.sessions = b.sessions.modify id fun t => { t with session := s' })
    (hlocals : b'.providers.locals = b.providers.locals) (henv : b.env.Apart b'.env) : Restores b b' id p := by
  refine ⟨⟨s, s', hfound, ?_⟩, hlocals, henv⟩
  rw [hsessions, Table.modify_of_find? _ hfound, Table.modify_of_find? _ hfound]

theorem locals_release (b : Broker) (p : Provider) (s : Session) :
    (b.release p s).providers.locals = b.providers.locals := by
  unfold release
  cases s.downstream with
  | none => rfl
  | some i => cases p <;> rfl

theorem restores_finish (hfound : b.sessions.find? id = some ⟨s, some p⟩) (u : Session) (next : Phase) (a : Answer) :
    Restores b (b.finish p id u next a) id p := by
  rw [finish_eq]
  exact .of_modify hfound rfl (locals_release b p u) ((Env.Apart.bank b.env _).trans (.record _ rfl))

theorem restores_settle (hfound : b.sessions.find? id = some ⟨s, some p⟩) {r : Response}
    (h : b.settle p id s r = some b') : Restores b b' id p := by
  have hfinish := restores_finish hfound
  unfold settle at h
  dsimp only at h
  split at h
  · obtain rfl := Option.some.inj h
    exact hfinish _ _ _
  · cases r with
    | deliver cap =>
      obtain ⟨-, h⟩ := Option.ite_none_right_eq_some.1 h
      obtain rfl := Option.some.inj h
      have hstores := stores_handOut b id ({ s with notify := false, handle := some ⟨cap, none⟩ }.advance .available)
      exact .of_modify hfound hstores.sessions (by rw [hstores.providers]) hstores.env
    | upgradeDone =>
      obtain ⟨-, h⟩ := Option.ite_none_right_eq_some.1 h
      obtain rfl := Option.some.inj h
      exact .of_modify hfound rfl rfl (.record b.env rfl)
    | denied | insufficientRam | insufficientCaps | closed =>
      obtain ⟨-, h⟩ := Option.ite_none_right_eq_some.1 h
      obtain rfl := Option.some.inj h
      exact hfinish _ _ _

/-- A provider answers one of its sessions, if it is there. -/
theorem restores_applyResponse (hid : ∀ t, b.sessions.find? id = some t → t.provider = some p) (r : Response) :
    (b.applyResponse p id r).2 = b ∨ Restores b (b.applyResponse p id r).2 id p := by
  unfold applyResponse session?
  cases hfound : b.sessions.find? id with
  | none => exact .inl rfl
  | some t =>
    obtain ⟨s, provider⟩ := t
    obtain rfl : provider = some p := hid _ hfound
    rw [Option.map_some]
    cases hsettle : b.settle p id s r with
    | none => exact .inl (by simp only [hsettle])
    | some b' =>
      simp only [hsettle]
      exact .inr (restores_settle hfound hsettle)

/-- The provider of a session is lost. -/
theorem restores_dismiss (b : Broker) (k : ChildKey) (id : ServerId) :
    b.dismiss k id = b ∨ Restores b (b.dismiss k id) id k.provider := by
  unfold dismiss
  cases hfound : b.sessions.find? id with
  | none => exact .inl rfl
  | some t =>
    obtain ⟨s, provider⟩ := t
    dsimp only
    split
    · rename_i hlive
      obtain rfl : provider = some k.provider := hlive.1
      split
      · exact .inr (restores_finish hfound _ _ _)
      · exact .inr (restores_finish hfound _ _ _)
    · exact .inl rfl

end Broker

end SessionBroker
