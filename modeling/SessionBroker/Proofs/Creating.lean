import SessionBroker.Proofs.Effects

/-!
# SessionBroker.Proofs.Creating — how a create that waits is answered or posted

* `affects_initiateCreate`: a create that is paid and given to its provider, with every way in which it can fail.
* `route_cases`: routing a session changes nothing, or it changes that session alone.
-/

namespace SessionBroker

theorem Slot.isWaiting_iff {t : Slot} : t.isWaiting = true ↔
    t.provider = none ∧ t.session.phase = .createRequested ∧ t.session.abandoned = false := by
  simp [isWaiting, and_assoc]

namespace Broker

variable {b b' : Broker} {id : ServerId} {s₀ s : Session} {l : Label} {args : Args} {p : Provider}

@[simp] theorem donate_none (b : Broker) (q : Quota) : b.donate none q = .ok b := by
  simp [donate]

@[simp] theorem takeBack_none (b : Broker) (q : Quota) : b.takeBack none q = b := by
  simp [takeBack]

/-! ### Paying -/

theorem donate_eq_ok {payee : AccountRef} {q : Quota} {paid : Broker} (h : b.donate payee q = .ok paid) :
    ∃ bank, b.env.bank.pay b.ownAccount payee q = .ok bank ∧ paid = { b with env.bank := bank } := by
  unfold donate at h
  split at h
  · rename_i bank hpay
    exact ⟨bank, hpay, (Except.ok.inj h).symm⟩
  · cases h

/-- The payment to a provider, and what it adds to the donation of a session. -/
theorem exists_payment {limit : Word} (hr : b.providers.BuiltIn limit) {q : Quota} {bank : Bank}
    (h : b.env.bank.pay b.ownAccount (b.providers.account p) q = .ok bank) (s : Session) :
    ∃ m : Payment, m.IsDonation p ∧ m.Moves b.env.own (b.providers.account p) s.donated b.env.bank bank ∧
      (if (b.providers.account p).isSome then s.donate q else s) = { s with donated := m.record s.donated } := by
  cases hacc : b.providers.account p with
  | none =>
    rw [hacc, Bank.pay_none] at h
    exact ⟨.none, .inl rfl, (Except.ok.inj h).symm, rfl⟩
  | some a =>
    rw [hacc] at h
    have hchild : ∃ c n, p = .child c n := by
      by_cases hp : ∃ c n, p = .child c n
      · exact hp
      · rw [hr.account_of_not_child fun c n he => hp ⟨c, n, he⟩] at hacc
        cases hacc
    obtain ⟨c, n, rfl⟩ := hchild
    exact ⟨.paid q, .inr ⟨c, n, q, rfl, rfl⟩, h, rfl⟩

theorem wakeIfAsync_eq {limit : Word} (hr : b.providers.BuiltIn limit) (hp : p.isAsync = true) :
    b.wakeIfAsync p = { b with
      env := b.providers.wake b.env p, woken := b.woken ++ [{ provider := p, requests := b.requestsFor p }] } := by
  unfold wakeIfAsync
  rw [hr.isAsync_eq, hp, if_pos rfl]

/-- A provider that answers at once is not woken. -/
theorem wakeIfAsync_of_sync (hp : b.providers.isAsync p = false) : b.wakeIfAsync p = b :=
  if_neg (by rw [hp]; exact Bool.false_ne_true)

/-! ### Refusing -/

theorem refuse_eq (b : Broker) (id : ServerId) {s s' : Session} {next : Phase} {a : Answer}
    (h : s.advance next = s') (ha : Answer.ofCreateFailure? next = some a) :
    b.refuse id s next = (b.setSession id s').answer id a := by
  simp [refuse, h, ha]

theorem exists_answer {next : Phase} (h : next.isCreateFailure = true) :
    ∃ a, Answer.ofCreateFailure? next = some a := by
  cases next <;> first | exact ⟨_, rfl⟩ | cases h

theorem isCreateFailure_unpaidPhase (e : QuotaError) : (unpaidPhase e).isCreateFailure = true := by
  obtain ⟨r, -, -⟩ := e
  cases r <;> rfl

section Waiting

variable (hb : b.Sound) (hfound : b.sessions.find? id = some ⟨s₀, none⟩) (hphase : s₀.phase = .createRequested)
  (hab : s₀.abandoned = false)

include hb hfound hphase hab

/-- A session that waits is refused, whatever was tried for it before. -/
theorem affects_refused {u : Session} {v : Option Provider} (h : b.Prepared b' id ⟨u, v⟩)
    (hs : s = { s₀ with label := l, args := args }) {s' : Session} {next : Phase}
    (hnext : next.isCreateFailure = true) (hs' : s'.advance next = { s with phase := next }) :
    Affects b (b'.refuse id s' next) id := by
  obtain ⟨a, ha⟩ := exists_answer hnext
  subst hs
  rw [refuse_eq b' id hs' ha]
  have hnot : next.isEstablished = false := by cases next <;> first | rfl | cases hnext
  refine ⟨_, _, _, _, (h.setSession _).effect hb hfound (.refused hphase hab ha)
    (fun j => Env.told_answer _ _ _ _) rfl rfl rfl (fun _ n _ hlive => ?_) fun p _ _ => .inl rfl⟩
  rw [show Session.phase _ = next from rfl, hnot] at hlive
  cases hlive

/-- A session that waits is refused before it was given to its provider. -/
theorem affects_refused_early {u : Session} {v : Option Provider} (h : b.Prepared b' id ⟨u, v⟩)
    (hs : s = { s₀ with label := l, args := args }) {next : Phase} (hnext : next.isCreateFailure = true) :
    Affects b (b'.refuse id s next) id :=
  affects_refused hb hfound hphase hab h hs hnext
    (Session.advance_createFailure (by rw [hs]; exact hphase) hnext)

variable (hs : s = { s₀ with label := l, args := args }) (h : b.Prepared b' id ⟨s, some p⟩)

include hs h

/-- A provider that answers at once leaves nothing pending. -/
theorem affects_initiateCreate_sync (hp : p.isAsync = false) : Affects b (b'.initiateCreate id p s) id := by
  have hr := h.alike.builtIn
  have hacc : b'.providers.account p = none := hr.account_of_sync hp
  have hsphase : s.phase = .createRequested := by rw [hs]; exact hphase
  have hdown : s.downstream = none := by rw [hs]; exact ((hb.slots id _ hfound).unrouted rfl).1
  cases hinit : b'.providers.initiate? s b'.env p with
  | none =>
    have heq : b'.initiateCreate id p s = b'.refuse id s .serviceDenied := by
      simp [initiateCreate, hacc, hinit]
    rw [heq]
    exact affects_refused_early hb hfound hphase hab h hs rfl
  | some o =>
    obtain ⟨halike, haside, hcreated, hlimit⟩ := Registry.initiate?_sync_create hr hp hinit hsphase hdown
    obtain ⟨b₁, hb₁⟩ : ∃ b₁, b₁ = { b' with env := o.env, providers := o.service } := ⟨_, rfl⟩
    have hprep : b.Prepared b₁ id ⟨s, some p⟩ := by rw [hb₁]; exact h.initiated haside halike
    have heq : b'.initiateCreate id p s = b₁.concludeCreate id p o.session o.error := by
      simp [initiateCreate, hacc, hinit, hb₁]
    rw [heq]
    generalize o.error = error at hcreated
    generalize hses : o.session = s' at hcreated
    cases hcreated with
    | granted handle d hd =>
      have hout : b₁.concludeCreate id p { s with downstream := d, handle := some handle, phase := .available } none =
          { (b₁.setSession id { s with downstream := d, handle := some handle, phase := .capHandedOut }) with
            env := b₁.env.deliver id handle.cap } := by
        simp [concludeCreate, handOut, Session.cap?, setSession, Session.advance, Session.permits, Phase.canReach,
          Phase.next]
      rw [hout]
      subst hs
      refine ⟨_, _, _, _, (hprep.setSession _).effect hb hfound
        (.granted hphase hab hp hd) (fun j => Env.told_deliver _ _ _ _) rfl rfl rfl
        (fun _ n hn _ => ?_) fun q hq hasync => ?_⟩
      · exact hlimit (by rw [hses]) n (Option.some.inj hn)
      · obtain rfl := Option.some.inj hq
        rw [hp] at hasync
        cases hasync
    | refused next error hnext =>
      have hrefuse : b₁.concludeCreate id p { s with phase := next } error =
          b₁.refuse id { s with phase := next } next := by
        cases next <;> first | rfl | cases hnext
      rw [hrefuse]
      exact affects_refused hb hfound hphase hab hprep hs hnext (Session.advance_self _)
    | failed e =>
      have hrefuse : b₁.concludeCreate id p s (some e) = b₁.refuse id s .serviceDenied := by
        simp [concludeCreate, hsphase]
      rw [hrefuse]
      exact affects_refused_early hb hfound hphase hab hprep hs rfl

/-- A create that was paid is posted at a provider that answers later, which is woken. -/
theorem affects_posted (hp : p.isAsync = true) {bank : Bank}
    (hmoved : b'.env.bank.pay b'.ownAccount (b'.providers.account p) s.resources = .ok bank) {d : Desk}
    (hd : b'.providers.desk? p = some d) : Affects b (b'.initiateCreate id p s) id := by
  have hr := h.alike.builtIn
  have hsphase : s.phase = .createRequested := by rw [hs]; exact hphase
  have hdown : s.downstream = none := by rw [hs]; exact ((hb.slots id _ hfound).unrouted rfl).1
  have hserver : s.serverId = some id := by rw [hs]; exact (hb.slots id _ hfound).serverId
  have hinj : ∀ i j k, b'.providers.request? p i = some k → b'.providers.request? p j = some k → i = j := by
    intro i j k hi hj
    rw [h.alike.request?] at hi hj
    exact hb.posted_inj hi hj
  obtain ⟨o, request, ho, herr, henv, hses, hfree, hbuilt, haccount, hrequest⟩ :=
    Registry.initiate?_async_create { b'.env with bank := bank } hr hp hd hsphase hdown hserver hinj
      fun i => by rw [h.alike.request?]; exact hb.not_posted hfound p i
  obtain ⟨m, hm, hmoves, hdonate⟩ := exists_payment hr hmoved o.session
  have hquiet := Registry.quiet_wake hbuilt { b'.env with bank := bank } p
  obtain ⟨woken, heq⟩ : ∃ woken, b'.initiateCreate id p s =
      { ({ b' with providers := o.service }.setSession id
          { o.session with donated := m.record o.session.donated }) with
        env := o.service.wake { b'.env with bank := bank } p, woken } := by
    have hpay : b'.donate (b'.providers.account p) s.resources = .ok { b' with env.bank := bank } := by
      simp [donate, hmoved]
    have hkeeps : keepsDonation o.session none = true := by simp [keepsDonation, hses, hsphase]
    have hstill : o.session.phase = .createRequested := by rw [hses]; exact hsphase
    simp only [initiateCreate, hpay, ho, herr, hkeeps, if_true, hdonate, henv, concludeCreate, hstill]
    exact ⟨_, wakeIfAsync_eq hbuilt hp⟩
  have hposts : ∀ q i, o.service.request? q i =
      if q = p ∧ i = request then some id else b.providers.request? q i := fun q i => by
    rw [← h.alike.request?]
    exact hrequest q i
  rw [heq]
  refine ⟨_, ⟨{ o.session with donated := m.record o.session.donated }, some p⟩, m, [], .of_posted hb hfound ?_
    hp ?_ ?_ ?_ (fun j => ?_) ⟨b'.env, h.aside.toKeeps, hquiet.own, hquiet.parent, ?_⟩ h.config hbuilt
    (fun q => (haccount q).trans (h.alike.account q)) hposts⟩
  · rw [hses, hs]
    exact .posted hphase hab hp hm
  · rw [hses]
  · rw [← h.alike.request?]
    exact hfree
  · simp only [setSession, h.sessions, Table.modify_modify]
  · rw [hquiet.told]
    exact h.aside.told j
  · rw [hquiet.bank, ← h.alike.account]
    rw [h.aside.own, hses, hs] at hmoves
    exact hmoves

/-- A provider that answers later is asked to create a session, or the create is refused. -/
theorem affects_initiateCreate_async (hp : p.isAsync = true) : Affects b (b'.initiateCreate id p s) id := by
  cases hpay : b'.donate (b'.providers.account p) s.resources with
  | error e =>
    have heq : b'.initiateCreate id p s = b'.refuse id s (unpaidPhase e) := by
      simp [initiateCreate, hpay]
    rw [heq]
    exact affects_refused_early hb hfound hphase hab h hs (isCreateFailure_unpaidPhase e)
  | ok paid =>
    obtain ⟨bank, hmoved, rfl⟩ := donate_eq_ok hpay
    cases hd : b'.providers.desk? p with
    | none =>
      have hinit := Registry.initiate?_of_desk?_none s { b'.env with bank := bank } hp hd
      have heq : b'.initiateCreate id p s = b'.refuse id s .serviceDenied := by
        simp [initiateCreate, hpay, hinit]
      rw [heq]
      exact affects_refused_early hb hfound hphase hab h hs rfl
    | some d => exact affects_posted hb hfound hphase hab hs h hp hmoved hd

theorem affects_initiateCreate : Affects b (b'.initiateCreate id p s) id := by
  cases hp : p.isAsync with
  | false => exact affects_initiateCreate_sync hb hfound hphase hab hs h hp
  | true => exact affects_initiateCreate_async hb hfound hphase hab hs h hp

end Waiting

/-! ### Routing -/

/-- Routing a session changes nothing, or that session alone. -/
theorem route_cases (hb : b.Sound) (id : ServerId) : b.route id = b ∨ Affects b (b.route id) id := by
  unfold route
  split
  · rename_i t hfound
    split
    · rename_i hwait
      obtain ⟨s₀, provider⟩ := t
      obtain ⟨rfl, hphase, hab⟩ := Slot.isWaiting_iff.1 hwait
      unfold routeSession
      split
      · exact .inr (affects_refused_early hb hfound hphase hab (.refl hb hfound) rfl rfl)
      · rename_i route hroute
        have halike := Registry.alike_find hb.builtIn route.service route.target
        split
        · exact .inl rfl
        · exact .inr (affects_refused_early hb hfound hphase hab (.refl hb hfound) rfl rfl)
        · rename_i p providers heq
          rw [heq] at halike
          have hprep : ∀ s, b.Prepared
              { b with providers := providers, sessions := b.sessions.modify id fun _ => ⟨s, some p⟩ } id
              ⟨s, some p⟩ := fun s => ⟨rfl, .refl b.env, rfl, halike⟩
          refine .inr ?_
          simp only
          split
          · exact affects_initiateCreate hb hfound hphase hab rfl (hprep _)
          · exact affects_initiateCreate hb hfound hphase hab rfl (hprep _)
    · exact .inl rfl
  · exact .inl rfl

end Broker

end SessionBroker
