import SessionBroker.Proofs.Creating

/-!
# SessionBroker.Proofs.Closing — upgrades and closes

* `initiateUpgrade_async`: an upgrade of a session whose provider answers later is refused, or it is paid and pending.
* `upgrade_cases`: an upgrade changes nothing, or that session alone.
* `close_effect`: a close takes a session to `closed`, or to `closeRequested` if its provider has to release it first.
-/

namespace SessionBroker.Broker

variable {b b' : Broker} {id : ServerId} {t : Slot} {s : Session} {p : Provider}

/-! ### Upgrades -/

/-- A session changes, and its provider is told that there is something to do. -/
theorem effect_woken (hb : b.Sound) (hfound : b.sessions.find? id = some ⟨s, some p⟩) {r : Registry}
    (halike : b.providers.Alike b.config.retryLimit r) (hp : p.isAsync = true) {m : Payment} {s' : Session}
    (transition : Transition ⟨s, some p⟩ m [] ⟨s', some p⟩) (hdown : s'.downstream = s.downstream) {bank : Bank}
    (hmoves : m.Moves b.env.own (b.providers.account p) s.donated b.env.bank bank) :
    Effect b (({ b with env.bank := bank, providers := r }.setSession id s').wakeIfAsync p) id ⟨s, some p⟩
      ⟨s', some p⟩ m [] := by
  have hprep := ((Prepared.refl hb hfound).initiated (.refl b.env) halike).setSession s'
  have hquiet := Registry.quiet_wake halike.builtIn { b.env with bank := bank } p
  rw [wakeIfAsync_eq halike.builtIn hp]
  refine (hprep.logged _).effect hb hfound transition (fun j => ?_) hquiet.own hquiet.parent ?_ (fun h => by cases h)
    fun _ _ _ => .inl hdown
  · rw [ite_self, List.append_nil]
    exact hquiet.told j
  · show m.Moves _ _ _ _ (r.wake { b.env with bank := bank } p).bank
    rw [hquiet.bank]
    exact hmoves

/-- A provider that answers at once applies an upgrade at once. -/
theorem affects_initiateUpgrade_sync (hb : b.Sound) (hfound : b.sessions.find? id = some ⟨s, some p⟩)
    (hest : s.phase.isEstablished = true) (q : Quota) (hp : p.isAsync = false) :
    (b.initiateUpgrade id p s q).2 = b ∨ Affects b (b.initiateUpgrade id p s q).2 id := by
  have hr := hb.builtIn
  have hrequest := s.requestUpgrade_eq hest q
  have hacc : b.providers.account p = none := hr.account_of_sync hp
  cases hinit : b.providers.initiate? (s.requestUpgrade q) b.env p with
  | none => exact .inl (by simp [initiateUpgrade, hacc, hinit])
  | some o =>
    have hlimit : ∀ n, p = .parent n → b.config.retryLimit ≠ 0 := by
      rintro n rfl
      exact hb.retries id _ n hfound rfl hest
    obtain ⟨halike, haside, herr, hses⟩ :=
      Registry.initiate?_sync_upgrade hr hp hinit (by rw [hrequest]) hlimit
    have hdone : o.session = s.upgraded := by rw [hses, hrequest]; rfl
    have heq : (b.initiateUpgrade id p s q).2 =
        ({ b with env := o.env, providers := o.service }.setSession id s.upgraded).answer id .sessionOk := by
      simp [initiateUpgrade, hacc, hinit, herr, hdone, concludeUpgrade, Session.upgraded]
    have hprep := ((Prepared.refl hb hfound).initiated haside halike).setSession s.upgraded
    rw [heq]
    exact .inr ⟨_, _, _, _, hprep.effect hb hfound (.upgraded hest) (fun j => Env.told_answer _ _ _ _) rfl rfl rfl
      (fun h => by cases h) fun _ _ _ => .inl rfl⟩

/-- An upgrade is refused and changes nothing, or a provider that answers later is paid, and the delta is added to what
is pending. -/
theorem initiateUpgrade_async (hb : b.Sound) (hest : s.phase.isEstablished = true) (q : Quota) (hp : p.isAsync = true) :
    ((b.initiateUpgrade id p s q).1.isOk = false ∧ (b.initiateUpgrade id p s q).2 = b) ∨
      ∃ (m : Payment) (bank : Bank) (providers : Registry), m.IsDonation p ∧
        m.Moves b.env.own (b.providers.account p) s.donated b.env.bank bank ∧
        b.providers.Alike b.config.retryLimit providers ∧
        b.initiateUpgrade id p s q = (.ok (),
          ({ b with env.bank := bank, providers }.setSession id { s with
              pendingUpgrade := s.pendingUpgrade + q
              donated := m.record s.donated
              phase := .upgradeRequested }).wakeIfAsync p) := by
  have hr := hb.builtIn
  have hrequest := s.requestUpgrade_eq hest q
  cases hpay : b.donate (b.providers.account p) q with
  | error e =>
    refine .inl ?_
    simp only [initiateUpgrade, hpay]
    exact ⟨rfl, trivial⟩
  | ok paid =>
    obtain ⟨bank, hmoved, rfl⟩ := donate_eq_ok hpay
    cases hd : b.providers.desk? p with
    | none =>
      have hinit := Registry.initiate?_of_desk?_none (s.requestUpgrade q) { b.env with bank := bank } hp hd
      refine .inl ?_
      simp only [initiateUpgrade, hpay, hinit]
      exact ⟨rfl, trivial⟩
    | some d =>
      obtain ⟨o, ho, herr, henv, hses, halike⟩ :=
        Registry.initiate?_async_pending { b.env with bank := bank } hr hp hd
          (s := s.requestUpgrade q) (.inl (by rw [hrequest]))
      obtain ⟨m, hm, hmoves, hdonate⟩ := exists_payment hr hmoved o.session
      have hpending : o.session.phase = .upgradeRequested := by rw [hses, hrequest]
      have heq : b.initiateUpgrade id p s q = (.ok (),
          ({ b with env.bank := bank, providers := o.service }.setSession id
              { o.session with donated := m.record o.session.donated }).wakeIfAsync p) := by
        simp only [initiateUpgrade, hpay, ho, herr, henv, concludeUpgrade, hdonate, hpending]
      rw [hses, hrequest] at hmoves heq
      exact .inr ⟨m, bank, o.service, hm, hmoves, halike, heq⟩

theorem affects_initiateUpgrade_async (hb : b.Sound) (hfound : b.sessions.find? id = some ⟨s, some p⟩)
    (hest : s.phase.isEstablished = true) (q : Quota) (hp : p.isAsync = true) :
    (b.initiateUpgrade id p s q).2 = b ∨ Affects b (b.initiateUpgrade id p s q).2 id := by
  obtain ⟨-, hsame⟩ | ⟨m, bank, providers, hm, hmoves, halike, heq⟩ := initiateUpgrade_async hb hest q hp
  · exact .inl hsame
  · rw [heq]
    exact .inr ⟨_, _, _, _, effect_woken hb hfound halike hp (.upgrading hest hp hm) rfl hmoves⟩

/-- An upgrade changes nothing, or that session alone. -/
theorem upgrade_cases (hb : b.Sound) (id : ServerId) (q : Quota) :
    (b.upgrade id q).2 = b ∨ Affects b (b.upgrade id q).2 id := by
  unfold upgrade
  split
  · exact .inl rfl
  · rename_i t hfound
    obtain ⟨s, provider⟩ := t
    simp only
    split
    · exact .inl rfl
    · cases provider with
      | none => exact .inl rfl
      | some p =>
        simp only
        split
        · rename_i hest
          have hest := (Bool.and_eq_true_iff.1 hest).1
          cases hp : p.isAsync with
          | false => exact affects_initiateUpgrade_sync hb hfound hest q hp
          | true => exact affects_initiateUpgrade_async hb hfound hest q hp
        · exact .inl rfl

/-! ### Closing -/

/-- A session that is released, with what was donated for it moved back. -/
theorem effect_closed (hb : b.Sound) (hfound : b.sessions.find? id = some t) (halive : t.session.isAlive = true)
    {u : Session} (h : b.Prepared b' id ⟨u, t.provider⟩) {payer : AccountRef}
    (hpayer : b.payee t = payer) {abandoned : Bool}
    (hs : s = { t.session with handle := none, downstream := none, abandoned := abandoned, phase := .closed })
    (down : ∀ p, t.provider = some p → p.isAsync = true →
      t.session.downstream = none ∨ b.providers.desk? p = none) :
    Effect b ((b'.refund payer id s).answer id .sessionClosed) id t ⟨{ s with donated := 0 }, t.provider⟩ .refunded
      [.answered .sessionClosed] := by
  subst hs
  refine (h.setSession _).effect hb hfound (.closed halive) (fun j => Env.told_answer _ _ _ _) rfl rfl ?_
    (fun _ _ _ hlive => by cases hlive) fun p hp hasync => ?_
  · show b'.env.bank.tryPay payer (some b'.env.own) t.session.donated = _
    rw [h.aside.own, ← hpayer]
    rfl
  · rcases down p hp hasync with hnone | hnone
    · exact .inl hnone.symm
    · exact .inr ⟨rfl, hnone⟩

/-- The session that is given to its provider to be closed. -/
def givenUp (s : Session) : Session :=
  { s with abandoned := s.abandoned || s.phase == .createRequested, phase := .closeRequested }

theorem advance_givenUp (hclosed : s.phase ≠ .closed) :
    (if s.phase = .createRequested then s.perform .abandon else s).advance .closeRequested = givenUp s := by
  split
  · rename_i hphase
    rw [Session.advance_closeRequested (by simpa [Session.perform] using hclosed)]
    simp [givenUp, Session.perform, hphase]
  · rename_i hphase
    rw [Session.advance_closeRequested hclosed]
    simp [givenUp, hphase]

/-- A provider that is gone releases a session at once. -/
theorem initiateClose_of_none (hinit : b.providers.initiate? s b.env p = none) (hs : s.phase = .closeRequested) :
    b.initiateClose id p s = (b.refund (b.providers.account p) id s.closed).answer id .sessionClosed := by
  have hdetach : (detach s).advance .closed = s.closed := Session.closed_eq hs
  have hclosed : s.closed.phase = .closed := rfl
  simp only [initiateClose, hinit, hdetach, concludeClose, hclosed, if_true]

/-- A provider releases a session at once. -/
theorem initiateClose_of_closed {o : Outcome Registry} (hinit : b.providers.initiate? s b.env p = some o)
    (hses : o.session = s.closed) :
    b.initiateClose id p s =
      ({ b with env := o.env, providers := o.service }.refund (b.providers.account p) id s.closed).answer id
        .sessionClosed := by
  have hclosed : s.closed.phase = .closed := rfl
  simp only [initiateClose, hinit, hses, concludeClose, hclosed, if_true, reduceCtorEq, if_false]

/-- A provider that does not release a session at once is told that the session waits. -/
theorem initiateClose_of_pending {o : Outcome Registry} (hinit : b.providers.initiate? s b.env p = some o)
    (hses : o.session = s) (hs : s.phase = .closeRequested) :
    b.initiateClose id p s = ({ b with env := o.env, providers := o.service }.setSession id s).wakeIfAsync p := by
  simp only [initiateClose, hinit, hses, hs, if_true]

/-- A provider that answers at once is asked to close a session. -/
theorem effect_initiateClose_sync (hb : b.Sound) (hfound : b.sessions.find? id = some ⟨s, some p⟩)
    (hclosed : s.phase ≠ .closed) (hclosing : s.phase ≠ .closeRequested) (hp : p.isAsync = false) :
    ∃ t' m ns, Effect b (b.initiateClose id p (givenUp s)) id ⟨s, some p⟩ t' m ns ∧
      (t'.session.phase = .closed ∨ t'.session.phase = .closeRequested) := by
  have hr := hb.builtIn
  have hsound := hb.slots id _ hfound
  have halive : s.isAlive = true := Session.isAlive_of_ne_closed hclosed
  have hprep : b.Prepared b id ⟨s, some p⟩ := .refl hb hfound
  have hsync : ∀ q, some p = some q → q.isAsync = true → s.downstream = none ∨ b.providers.desk? q = none := by
    intro q hq hasync
    obtain rfl := Option.some.inj hq
    rw [hp] at hasync
    cases hasync
  cases hinit : b.providers.initiate? (givenUp s) b.env p with
  | none =>
    rw [initiateClose_of_none hinit rfl]
    exact ⟨_, _, _, effect_closed hb hfound halive hprep rfl rfl hsync, .inl rfl⟩
  | some o =>
    obtain ⟨halike, haside, hses | ⟨hses, hzero, n, rfl⟩⟩ :=
      Registry.initiate?_sync_close hr hp hinit rfl fun n hn => hsound.here n (by rw [hn])
    · rw [initiateClose_of_closed hinit hses]
      exact ⟨_, _, _, effect_closed hb hfound halive (hprep.initiated haside halike) rfl rfl hsync, .inl rfl⟩
    · -- the parent granted nothing without a try, so the create failed
      have hfail : s.phase.isCreateFailure = true := by
        rcases hsound.sync _ rfl rfl with hphase | hended | ⟨hphase, -⟩
        · exact absurd hzero (hb.retries id _ n hfound rfl (by rw [hphase]; rfl))
        · exact (Phase.isEnded_iff.1 hended).resolve_left hclosed
        · exact absurd hphase hclosing
      have hgiven : givenUp s = { s with phase := .closeRequested } := by
        unfold givenUp
        cases hphase : s.phase <;> first | (rw [hphase] at hfail; cases hfail; done) | simp
      have hasync : o.service.isAsync (.parent n) = false := halike.builtIn.isAsync_eq _
      have heq : b.initiateClose id (.parent n) (givenUp s) =
          { b with env := o.env, providers := o.service }.setSession id (givenUp s) := by
        rw [initiateClose_of_pending hinit hses rfl]
        exact wakeIfAsync_of_sync hasync
      rw [heq, hgiven]
      refine ⟨_, _, _, ((hprep.initiated haside halike).setSession _).effect hb hfound (.stuck hfail hp)
        (fun j => ?_) rfl rfl rfl (fun h => by cases h) fun q hq hq' => ?_, .inr rfl⟩
      · rw [ite_self, List.append_nil]
        rfl
      · obtain rfl := Option.some.inj hq
        cases hq'

/-- A provider that answers later is asked to close a session. -/
theorem effect_initiateClose_async (hb : b.Sound) (hfound : b.sessions.find? id = some ⟨s, some p⟩)
    (hclosed : s.phase ≠ .closed) (hclosing : s.phase ≠ .closeRequested) (hp : p.isAsync = true) :
    ∃ t' m ns, Effect b (b.initiateClose id p (givenUp s)) id ⟨s, some p⟩ t' m ns ∧
      (t'.session.phase = .closed ∨ t'.session.phase = .closeRequested) := by
  have hr := hb.builtIn
  have hsound := hb.slots id _ hfound
  have halive : s.isAlive = true := Session.isAlive_of_ne_closed hclosed
  have hprep : b.Prepared b id ⟨s, some p⟩ := .refl hb hfound
  cases hd : b.providers.desk? p with
  | none =>
    rw [initiateClose_of_none (Registry.initiate?_of_desk?_none _ b.env hp hd) rfl]
    refine ⟨_, _, _, effect_closed hb hfound halive hprep rfl rfl fun q hq _ => ?_, .inl rfl⟩
    obtain rfl := Option.some.inj hq
    exact .inr hd
  | some d =>
    cases hdown : s.downstream with
    | none =>
      obtain ⟨o, ho, henv, hses, halike⟩ := Registry.initiate?_async_close b.env hr hp hd (s := givenUp s) rfl hdown
      have haside : b.env.Aside o.env := by rw [henv]; exact .refl b.env
      rw [initiateClose_of_closed ho hses]
      exact ⟨_, _, _, effect_closed hb hfound halive (hprep.initiated haside halike) rfl rfl fun _ _ _ => .inl hdown,
        .inl rfl⟩
    | some i =>
      obtain ⟨o, ho, -, henv, hses, halike⟩ :=
        Registry.initiate?_async_pending b.env hr hp hd (s := givenUp s) (.inr ⟨rfl, by simp [givenUp, hdown]⟩)
      have heq : b.initiateClose id p (givenUp s) =
          ({ b with providers := o.service }.setSession id (givenUp s)).wakeIfAsync p := by
        rw [initiateClose_of_pending ho hses rfl, henv]
      -- a session that was posted is not ended
      have hlive : s.phase = .createRequested ∨ s.phase.isEstablished = true := by
        cases hphase : s.phase with
        | createRequested => exact .inl rfl
        | available | capHandedOut | upgradeRequested => exact .inr rfl
        | closeRequested => exact absurd hphase hclosing
        | closed => exact absurd hphase hclosed
        | serviceDenied | insufficientRam | insufficientCaps =>
          have := (hsound.ended (by rw [hphase]; rfl)).2.1
          rw [hdown] at this
          cases this
      rw [heq]
      exact ⟨_, _, _, effect_woken hb hfound halike hp (.closing hlive hp) rfl rfl, .inr rfl⟩

/-- A session without a provider is closed at once. -/
theorem effect_close_unrouted (hb : b.Sound) (hfound : b.sessions.find? id = some ⟨s, none⟩)
    (hclosed : s.phase ≠ .closed) {s' : Session}
    (hs : s' = if s.phase = .createRequested then s.perform .abandon else s) :
    ∃ t', Effect b ((b.setSession id (s'.advance .closed)).answer id .sessionClosed) id ⟨s, none⟩ t' .refunded
        [.answered .sessionClosed] ∧ t'.session.phase = .closed := by
  have hsound := hb.slots id _ hfound
  obtain ⟨hdown, hphase⟩ := hsound.unrouted rfl
  have hdonated : s.donated = 0 := hsound.donated fun _ _ h => by cases h
  have hhandle : s.handle = none := by
    rcases hphase with hphase | hended
    · exact (hsound.waiting hphase).1
    · exact (hsound.ended hended).1
  have hnot : s.phase.isEstablished = false := by
    cases hest : s.phase.isEstablished with
    | false => rfl
    | true =>
      have := hsound.established hest
      rw [hhandle] at this
      cases this
  have hadvance : s'.advance .closed = { s with
      handle := none, downstream := none, donated := 0, abandoned := s'.abandoned, phase := .closed } := by
    have hphase' : s'.phase.isEstablished = false := by
      rw [hs]
      split
      · exact hnot
      · exact hnot
    rw [Session.advance_closed hphase', ← hhandle, ← hdown, ← hdonated, hs]
    split
    · rfl
    · rfl
  rw [hadvance]
  exact ⟨_, ((Prepared.refl hb hfound).setSession _).effect hb hfound (.closed (Session.isAlive_of_ne_closed hclosed))
    (fun j => Env.told_answer _ _ _ _) rfl rfl rfl (fun _ _ h => by cases h) (fun _ h => by cases h), rfl⟩

/-- A close takes a session to `closed`, or to `closeRequested` if its provider has to release it first. -/
theorem close_effect (hb : b.Sound) (hfound : b.sessions.find? id = some t) (hclosed : t.session.phase ≠ .closed)
    (hclosing : t.session.phase ≠ .closeRequested) :
    (b.close id).1 = .ok () ∧ ∃ t' m ns, Effect b (b.close id).2 id t t' m ns ∧
      (t'.session.phase = .closed ∨ t'.session.phase = .closeRequested) := by
  obtain ⟨s, provider⟩ := t
  have hopen : ¬ (s.phase = .closed ∨ s.phase = .closeRequested) := fun h => h.elim hclosed hclosing
  unfold close
  rw [hfound]
  simp only [hopen, if_false]
  cases provider with
  | none =>
    obtain ⟨t', heffect, hphase⟩ := effect_close_unrouted hb hfound hclosed rfl
    exact ⟨rfl, t', _, _, heffect, .inl hphase⟩
  | some p =>
    refine ⟨rfl, ?_⟩
    simp only [advance_givenUp hclosed]
    cases hp : p.isAsync with
    | false => exact effect_initiateClose_sync hb hfound hclosed hclosing hp
    | true => exact effect_initiateClose_async hb hfound hclosed hclosing hp

/-- A close changes nothing, or that session alone. -/
theorem close_cases (hb : b.Sound) (id : ServerId) : (b.close id).2 = b ∨ Affects b (b.close id).2 id := by
  cases hfound : b.sessions.find? id with
  | none =>
    refine .inl ?_
    unfold close
    rw [hfound]
  | some t =>
    by_cases hopen : t.session.phase = .closed ∨ t.session.phase = .closeRequested
    · refine .inl ?_
      unfold close
      rw [hfound]
      simp only [hopen, if_true]
    · obtain ⟨-, t', m, ns, heffect, -⟩ := close_effect hb hfound (fun h => hopen (.inl h)) fun h => hopen (.inr h)
      exact .inr ⟨t, t', m, ns, heffect⟩

end SessionBroker.Broker
