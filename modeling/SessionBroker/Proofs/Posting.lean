import SessionBroker.Proofs.Alerts

/-!
# SessionBroker.Proofs.Posting — when the provider of a session is woken

* `attends_route`: a session that is routed wakes its provider if its create is posted.
* `attends_upgrade`: an upgrade that is accepted wakes a provider that answers later (`wakes_upgrade`), and one that is
  refused wakes nobody (`woken_upgrade_of_error`).
* `attends_close`: a close that stays pending wakes the provider.

Nothing else that is done with these sessions wakes anybody.
-/

namespace SessionBroker.Broker

variable {b c : Broker} {id : ServerId} {s : Session} {p : Provider}

/-! ### What wakes nobody -/

namespace Silent

theorem setSession (h : Silent b c) (id : ServerId) (s : Session) : Silent b (c.setSession id s) := ⟨h.bells, h.woken⟩

theorem takeBack (h : Silent b c) (payer : AccountRef) (q : Quota) : Silent b (c.takeBack payer q) :=
  ⟨h.bells, h.woken⟩

theorem refund (h : Silent b c) (payer : AccountRef) (id : ServerId) (s : Session) : Silent b (c.refund payer id s) :=
  (h.takeBack payer s.donated).setSession id _

theorem answer (h : Silent b c) (id : ServerId) (a : Answer) : Silent b (c.answer id a) :=
  ⟨(Env.bells_answer _ _ _).trans h.bells, h.woken⟩

/-- A provider that answers at once is not woken. -/
theorem wakeIfAsync (h : Silent b c) (hp : c.providers.isAsync p = false) : Silent b (c.wakeIfAsync p) := by
  rw [wakeIfAsync_of_sync hp]
  exact h

end Silent

/-! ### Creating sessions -/

theorem silent_refuse (b : Broker) (id : ServerId) (s : Session) (next : Phase) : Silent b (b.refuse id s next) := by
  unfold refuse
  dsimp only
  split
  · exact ((Silent.refl b).setSession id _).answer id _
  · exact (Silent.refl b).setSession id _

theorem silent_handOut (b : Broker) (id : ServerId) (s : Session) : Silent b (b.handOut id s) := by
  unfold handOut
  split
  · exact ⟨Env.bells_deliver _ _ _, rfl⟩
  · exact (Silent.refl b).setSession id s

theorem silent_concludeCreate_sync (hp : b.providers.isAsync p = false) (id : ServerId) (s : Session)
    (error : Option SessionError) : Silent b (b.concludeCreate id p s error) := by
  unfold concludeCreate
  split
  · exact b.silent_handOut id s
  · exact ((Silent.refl b).setSession id s).wakeIfAsync hp
  · exact b.silent_refuse id s _
  · exact ((Silent.refl b).setSession id s).answer id _
  · exact b.silent_refuse id s _

theorem bells_donate {payee : AccountRef} {q : Quota} {paid : Broker} (h : b.donate payee q = .ok paid) :
    paid.env.bells = b.env.bells := by
  obtain ⟨bank, -, rfl⟩ := donate_eq_ok h
  rfl

/-- A provider that answers at once works on a session, and nobody is woken. -/
theorem silent_initiate? {limit : Word} (hr : b.providers.BuiltIn limit) (hp : p.isAsync = false) {env : Env}
    (henv : env.bells = b.env.bells) {o : Outcome Registry} (h : b.providers.initiate? s env p = some o) :
    Silent b { b with env := o.env, providers := o.service } ∧ o.service.isAsync p = false := by
  refine ⟨⟨(Registry.calls_initiate? hr h).bells_eq.trans henv, rfl⟩, ?_⟩
  rw [(Registry.initiate?_sync hr hp h).1.builtIn.isAsync_eq, hp]

theorem silent_initiateCreate_sync {limit : Word} (hr : b.providers.BuiltIn limit) (hp : p.isAsync = false)
    (id : ServerId) (s : Session) : Silent b (b.initiateCreate id p s) := by
  unfold initiateCreate
  dsimp only
  split
  · exact b.silent_refuse id s _
  · rename_i paid hpay
    split
    · exact b.silent_refuse id s _
    · rename_i o ho
      obtain ⟨hworks, hsync⟩ := silent_initiate? hr hp (bells_donate hpay) ho
      split
      · exact hworks.trans (silent_concludeCreate_sync hsync id _ _)
      · exact (hworks.takeBack _ _).trans (silent_concludeCreate_sync hsync id _ _)

/-- A create that its provider leaves pending is stored, and then the provider is woken. -/
theorem initiateCreate_pending {paid : Broker} {o : Outcome Registry}
    (hpay : b.donate (b.providers.account p) s.resources = .ok paid)
    (ho : b.providers.initiate? s paid.env p = some o) (hphase : o.session.phase = .createRequested)
    (herror : o.error = none) (id : ServerId) :
    ∃ u, b.initiateCreate id p s = ({ b with env := o.env, providers := o.service }.setSession id u).wakeIfAsync p ∧
      u.phase = .createRequested ∧ u.downstream = o.session.downstream := by
  obtain ⟨u, hu⟩ : ∃ u, u = if (b.providers.account p).isSome then o.session.donate s.resources else o.session :=
    ⟨_, rfl⟩
  have hgiven : u.phase = .createRequested ∧ u.downstream = o.session.downstream := by
    rw [hu]
    split
    · exact ⟨hphase, rfl⟩
    · exact ⟨hphase, rfl⟩
  have hkeeps : keepsDonation o.session none = true := by simp [keepsDonation, hphase]
  refine ⟨u, ?_, hgiven⟩
  simp only [initiateCreate, hpay, ho, hkeeps, if_true, ← hu, concludeCreate, hgiven.1, herror]

theorem posts_refuse {t : Slot} (hsilent : Silent b c) (hfound : c.sessions.find? id = some t)
    (hs : s.phase = .createRequested) {next : Phase} (hnext : next.isCreateFailure = true) :
    Posts b id (c.refuse id s next) := by
  have hself := (stores_refuse c id s next).find?_self hfound
  rw [Session.advance_createFailure hs hnext] at hself
  refine .idle (hsilent.trans (c.silent_refuse id s next)) (idle_of_due?_none hself ?_)
  exact Session.due?_eq_none (.inr (Phase.isEnded_iff.2 (.inr hnext)))

/-- A session that waits is given to its provider. -/
theorem posts_initiateCreate {limit : Word} (hr : c.providers.BuiltIn limit) (hsilent : Silent b c)
    (hfound : c.sessions.find? id = some ⟨s, some p⟩) (hs : s.phase = .createRequested)
    (hdown : s.downstream = none) (hserver : s.serverId = some id) : Posts b id (c.initiateCreate id p s) := by
  cases hp : p.isAsync with
  | false =>
    refine .idle (hsilent.trans (silent_initiateCreate_sync hr hp id s)) ?_
    exact idle_of_owns (owns_initiateCreate ⟨s, hfound⟩ s) (Provider.ne_child_of_sync hp)
  | true =>
    cases hpay : c.donate (c.providers.account p) s.resources with
    | error e =>
      have heq : c.initiateCreate id p s = c.refuse id s (unpaidPhase e) := by simp only [initiateCreate, hpay]
      rw [heq]
      exact posts_refuse hsilent hfound hs (isCreateFailure_unpaidPhase e)
    | ok paid =>
      cases hd : c.providers.desk? p with
      | none =>
        have hinit := Registry.initiate?_of_desk?_none s paid.env hp hd
        have heq : c.initiateCreate id p s = c.refuse id s .serviceDenied := by simp only [initiateCreate, hpay, hinit]
        rw [heq]
        exact posts_refuse hsilent hfound hs rfl
      | some d =>
        obtain ⟨o, ho, herror, hsession, henv, -⟩ := Registry.initiate?_async s paid.env hr hp hd
        rw [Desk.initiate_create paid.env hs hdown hserver] at herror hsession henv
        have hphase : o.session.phase = .createRequested := by rw [hsession]; exact hs
        obtain ⟨u, heq, hu, hudown⟩ := initiateCreate_pending hpay ho hphase herror id
        refine .woken hp ⟨_, u, heq, hsilent.trans ⟨?_, rfl⟩, ?_, ?_, ?_⟩
        · show o.env.bells = _
          rw [henv]
          exact bells_donate hpay
        · exact Table.find?_modify_of _ hfound
        · rw [hudown, hsession]
          rfl
        · unfold Session.due?
          rw [hu]
          rfl

theorem posts_route (hb : b.Sound) (id : ServerId) : Posts b id (b.route id) := by
  unfold route
  split
  · rename_i t hfound
    split
    · rename_i hwaiting
      obtain ⟨s, provider⟩ := t
      obtain ⟨rfl, hphase, -⟩ := Slot.isWaiting_iff.1 hwaiting
      have hslot := hb.slots id _ hfound
      unfold routeSession
      split
      · exact posts_refuse (.refl b) hfound hphase rfl
      · rename_i route _
        have halike := Registry.alike_find hb.builtIn route.service route.target
        split
        · exact .same
        · exact posts_refuse (.refl b) hfound hphase rfl
        · rename_i p providers heq
          rw [heq] at halike
          have hself : ∀ u : Session, (b.sessions.modify id fun _ => ⟨u, some p⟩).find? id = some ⟨u, some p⟩ :=
            fun _ => Table.find?_modify_of _ hfound
          refine posts_initiateCreate halike.builtIn ⟨rfl, rfl⟩ (hself _) ?_ ?_ ?_
          · split <;> exact hphase
          · split <;> exact (hslot.unrouted rfl).1
          · split <;> exact hslot.serverId
    · exact .same
  · exact .same

/-- A session is routed: at most its provider is woken, for it. -/
theorem attends_route (hb : b.Sound) (hnamed : b.BellsNamed) (id : ServerId) : Attends b (b.route id) id := by
  have hchanges : Changes (fun _ => False) b (b.route id) := changes_route hb id
  exact (posts_route hb id).attends hb (hchanges.sound hb) (hnamed.of_stands (chores_route b id).stands)
    (handles_route hb.orderly id).others

/-! ### Upgrades and closes -/

theorem silent_concludeUpgrade_sync (hp : b.providers.isAsync p = false) (id : ServerId) (s : Session) :
    Silent b (b.concludeUpgrade id p s) := by
  unfold concludeUpgrade
  dsimp only
  split
  · exact ((Silent.refl b).setSession id s).answer id _
  · exact ((Silent.refl b).setSession id s).wakeIfAsync hp
  · exact (Silent.refl b).setSession id s

theorem silent_initiateUpgrade_sync {limit : Word} (hr : b.providers.BuiltIn limit) (hp : p.isAsync = false)
    (id : ServerId) (s : Session) (q : Quota) : Silent b (b.initiateUpgrade id p s q).2 := by
  unfold initiateUpgrade
  dsimp only
  split
  · exact .refl b
  · rename_i paid hpay
    split
    · exact .refl b
    · rename_i o ho
      obtain ⟨hworks, hsync⟩ := silent_initiate? hr hp (bells_donate hpay) ho
      split
      · exact (hworks.setSession id _).takeBack _ q
      · exact hworks.trans (silent_concludeUpgrade_sync hsync id _)

/-- A session of a provider that answers at once waits for no child. -/
theorem idle_of_routed (hfound : b.sessions.find? id = some ⟨s, some p⟩) (hp : p.isAsync = false)
    (h : Handles b c id) : c.Idle id :=
  idle_of_owns (h.routed p ⟨s, hfound⟩) (Provider.ne_child_of_sync hp)

/-- An upgrade of a session whose provider answers later is refused, or it is added to what is pending and the provider
is woken. -/
theorem wakes_initiateUpgrade (hb : b.Sound) (hfound : b.sessions.find? id = some ⟨s, some p⟩)
    (hest : s.phase.isEstablished = true) (hp : p.isAsync = true) (q : Quota) :
    (b.initiateUpgrade id p s q).1.isOk = false ∧ (b.initiateUpgrade id p s q).2 = b ∨
      Wakes b id p (b.initiateUpgrade id p s q).2 := by
  refine (initiateUpgrade_async hb hest q hp).imp_right ?_
  rintro ⟨m, bank, providers, -, -, halike, heq⟩
  obtain ⟨u, hu⟩ : ∃ u, u = { s with
      pendingUpgrade := s.pendingUpgrade + q, donated := m.record s.donated, phase := .upgradeRequested } := ⟨_, rfl⟩
  rw [← hu] at heq
  refine ⟨_, u, congrArg Prod.snd heq, ⟨rfl, rfl⟩, Table.find?_modify_of _ hfound, ?_, ?_⟩
  · rw [hu]
    exact (hb.slots id _ hfound).async p rfl hp (Phase.isEnded_of_established hest)
  · rw [hu]
    rfl

theorem woken_initiateUpgrade_of_error {q : Quota} :
    (b.initiateUpgrade id p s q).1.isOk = false → (b.initiateUpgrade id p s q).2.woken = b.woken := by
  unfold initiateUpgrade
  dsimp only
  split
  · exact fun _ => rfl
  · split
    · exact fun _ => rfl
    · split
      · exact fun _ => rfl
      · exact fun hno => by cases hno

/-- An upgrade that is refused wakes nobody. -/
theorem woken_upgrade_of_error {q : Quota} : (b.upgrade id q).1.isOk = false → (b.upgrade id q).2.woken = b.woken := by
  unfold upgrade
  split
  · exact fun _ => rfl
  · dsimp only
    split
    · exact fun _ => rfl
    · split
      · split
        · exact woken_initiateUpgrade_of_error
        · exact fun _ => rfl
      · exact fun _ => rfl

/-- An upgrade of a session of a child that is accepted wakes the child, whatever it adds. -/
theorem wakes_upgrade (hb : b.Sound) (hfound : b.sessions.find? id = some ⟨s, some p⟩) (hp : p.isAsync = true)
    {q : Quota} (hok : (b.upgrade id q).1.isOk = true) : Wakes b id p (b.upgrade id q).2 := by
  unfold upgrade at hok ⊢
  rw [hfound] at hok ⊢
  dsimp only at hok ⊢
  split at hok
  · cases hok
  · rename_i hopen
    rw [if_neg hopen]
    split at hok
    · rename_i hready
      rw [if_pos hready]
      rcases wakes_initiateUpgrade hb hfound (Bool.and_eq_true_iff.1 hready).1 hp q with ⟨hrefused, -⟩ | hwakes
      · cases hok.symm.trans hrefused
      · exact hwakes
    · cases hok

/-- An upgrade is refused, or it is added to what is pending and the provider is woken.  One that answers at once has
nothing pending. -/
theorem posts_upgrade (hb : b.Sound) (id : ServerId) (q : Quota) : Posts b id (b.upgrade id q).2 := by
  have hhandles := handles_upgrade hb.orderly id q
  unfold upgrade at hhandles ⊢
  split
  · exact .same
  · rename_i t hfound
    obtain ⟨s, provider⟩ := t
    rw [hfound] at hhandles
    dsimp only at hhandles ⊢
    split
    · exact .same
    · rename_i hopen
      rw [if_neg hopen] at hhandles
      cases provider with
      | none => exact .same
      | some p =>
        dsimp only at hhandles ⊢
        split
        · rename_i hready
          rw [if_pos hready] at hhandles
          have hest := (Bool.and_eq_true_iff.1 hready).1
          cases hp : p.isAsync with
          | false =>
            exact .idle (silent_initiateUpgrade_sync hb.builtIn hp id s q) (idle_of_routed hfound hp hhandles)
          | true =>
            rcases wakes_initiateUpgrade hb hfound hest hp q with ⟨-, hsame⟩ | hwakes
            · rw [hsame]
              exact .same
            · exact .woken hp hwakes
        · exact .same

/-- A session is upgraded: at most its provider is woken, for it. -/
theorem attends_upgrade (hb : b.Sound) (hnamed : b.BellsNamed) (id : ServerId) (q : Quota) :
    Attends b (b.upgrade id q).2 id := by
  have hchanges : Changes (fun _ => False) b (b.upgrade id q).2 := .of_affects (upgrade_cases hb id q)
  exact (posts_upgrade hb id q).attends hb (hchanges.sound hb) (hnamed.of_stands (chores_upgrade b id q).stands)
    (handles_upgrade hb.orderly id q).others

theorem silent_concludeClose (b : Broker) (id : ServerId) (payer : AccountRef) (s : Session) :
    Silent b (b.concludeClose id payer s) := by
  unfold concludeClose
  split
  · exact ((Silent.refl b).refund payer id s).answer id _
  · exact (Silent.refl b).setSession id s

theorem silent_initiateClose_sync {limit : Word} (hr : b.providers.BuiltIn limit) (hp : p.isAsync = false)
    (id : ServerId) (s : Session) : Silent b (b.initiateClose id p s) := by
  unfold initiateClose
  dsimp only
  split
  · exact b.silent_concludeClose id _ _
  · rename_i o ho
    obtain ⟨hworks, hsync⟩ := silent_initiate? hr hp rfl ho
    split
    · exact (hworks.setSession id _).wakeIfAsync hsync
    · exact hworks.trans (silent_concludeClose _ id _ _)

/-- A session that its provider let go waits for nothing. -/
theorem posts_closed {payer : AccountRef} {t : Slot} (hsilent : Silent b c)
    (hfound : c.sessions.find? id = some t) (s : Session) :
    Posts b id ((c.refund payer id s.closed).answer id .sessionClosed) :=
  .idle ((hsilent.refund payer id s.closed).answer id _) (idle_of_due?_none (Table.find?_modify_of _ hfound) rfl)

/-- A session is closed by a provider that answers later, or it waits to be closed and the provider is woken. -/
theorem posts_initiateClose_async (hb : b.Sound) (hfound : b.sessions.find? id = some ⟨s, some p⟩)
    (hp : p.isAsync = true) : Posts b id (b.initiateClose id p (givenUp s)) := by
  cases hd : b.providers.desk? p with
  | none =>
    rw [initiateClose_of_none (Registry.initiate?_of_desk?_none _ b.env hp hd) rfl]
    exact posts_closed (.refl b) hfound _
  | some d =>
    cases hdown : s.downstream with
    | none =>
      obtain ⟨o, ho, henv, hsession, -⟩ :=
        Registry.initiate?_async_close b.env hb.builtIn hp hd (s := givenUp s) rfl hdown
      rw [initiateClose_of_closed ho hsession]
      have hsilent : Silent b { b with env := o.env, providers := o.service } := ⟨by rw [henv], rfl⟩
      exact posts_closed hsilent hfound _
    | some i =>
      obtain ⟨o, ho, -, henv, hsession, -⟩ :=
        Registry.initiate?_async_pending b.env hb.builtIn hp hd (s := givenUp s) (.inr ⟨rfl, by simp [givenUp, hdown]⟩)
      refine .woken hp ⟨_, givenUp s, initiateClose_of_pending ho hsession rfl, ⟨?_, rfl⟩, ?_, ?_, rfl⟩
      · show o.env.bells = _
        rw [henv]
      · exact Table.find?_modify_of _ hfound
      · simp [givenUp, hdown]

theorem posts_close (hb : b.Sound) (id : ServerId) : Posts b id (b.close id).2 := by
  have hhandles := handles_close hb.orderly id
  unfold close at hhandles ⊢
  split
  · exact .same
  · rename_i t hfound
    obtain ⟨s, provider⟩ := t
    rw [hfound] at hhandles
    dsimp only at hhandles ⊢
    split
    · exact .same
    · rename_i hopen
      rw [if_neg hopen] at hhandles
      cases provider with
      | none =>
        exact .idle (((Silent.refl b).setSession id _).answer id _) (idle_of_unrouted (Table.find?_modify_of _ hfound))
      | some p =>
        dsimp only at hhandles ⊢
        rw [advance_givenUp fun h => hopen (.inl h)] at hhandles ⊢
        cases hp : p.isAsync with
        | false => exact .idle (silent_initiateClose_sync hb.builtIn hp id _) (idle_of_routed hfound hp hhandles)
        | true => exact posts_initiateClose_async hb hfound hp

/-- A session is closed: at most its provider is woken, for it. -/
theorem attends_close (hb : b.Sound) (hnamed : b.BellsNamed) (id : ServerId) : Attends b (b.close id).2 id := by
  have hchanges : Changes (fun _ => False) b (b.close id).2 := .of_affects (close_cases hb id)
  exact (posts_close hb id).attends hb (hchanges.sound hb) (hnamed.of_stands (chores_close b id).stands)
    (handles_close hb.orderly id).others

end SessionBroker.Broker
