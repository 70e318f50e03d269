import SessionBroker.Broker.Provision
import SessionBroker.Proofs.Closing

/-!
# SessionBroker.Proofs.Settling — the answers of providers

* `effect_finish`: a session that its provider no longer holds is ended, its request is forgotten and its donation is
  moved back.
* `Broker.Ends b b' id`: session `id` ends, and its donation is requested back.
* `affects_settle`: an answer that fits a session changes that session alone.
* `dismiss_cases`: the loss of its provider ends a session.
-/

namespace SessionBroker.Broker

variable {b b' : Broker} {id : ServerId} {s : Session} {p : Provider}

/-- Whether the request that a session refers to is the one posted for it. -/
def Holds (b : Broker) (p : Provider) (id : ServerId) (s : Session) : Prop :=
  ∀ i, s.downstream = some i → b.providers.request? p i = some id

/-! ### Ending a session -/

theorem release_spec (hb : b.Sound) (p : Provider) (s : Session) :
    (b.release p s).providers.BuiltIn b.config.retryLimit ∧
      (∀ q, (b.release p s).providers.account q = b.providers.account q) ∧
      ∀ q i, (b.release p s).providers.request? q i =
        if q = p ∧ s.downstream = some i then none else b.providers.request? q i := by
  unfold release
  cases hdown : s.downstream with
  | none => exact ⟨hb.builtIn, fun _ => rfl, fun q i => by simp⟩
  | some j =>
    refine ⟨hb.builtIn.release j p, Registry.account_release hb.builtIn j p, fun q i => ?_⟩
    rw [Registry.request?_release]
    simp [eq_comm]

theorem release_eq (b : Broker) (p : Provider) (s : Session) :
    b.release p s = { b with providers := (b.release p s).providers } := by
  unfold release
  cases s.downstream with
  | none => rfl
  | some i => rfl

/-- Ending a session forgets its request, requests its donation back, stores the session and tells the parent. -/
theorem finish_eq (b : Broker) (p : Provider) (id : ServerId) (s : Session) (next : Phase) (a : Answer) :
    b.finish p id s next a =
      { b with
        providers := (b.release p s).providers
        sessions := b.sessions.modify id fun t =>
          { t with session := { { s with downstream := none }.advance next with donated := 0 } }
        env := Env.answer { b.env with
          bank := b.env.bank.tryPay (b.providers.account p) (some b.env.own) s.donated } id a } := by
  unfold finish
  rw [release_eq]
  simp only [refund, takeBack, setSession, answer, ownAccount, Session.donated_advance, Session.perform]

/-- A session that its provider no longer holds is ended. -/
theorem effect_finish (hb : b.Sound) {t t' : Slot} (hfound : b.sessions.find? id = some t)
    (hp : t.provider = some p) (hholds : b.Holds p id t.session) {s : Session} {next : Phase} {a : Answer}
    (hdown : s.downstream = t.session.downstream) (hdonated : s.donated = t.session.donated)
    (ht' : t' = ⟨{ { s with downstream := none }.advance next with donated := 0 }, some p⟩)
    (hgone : t'.session.downstream = none) (transition : Transition t .refunded [.answered a] t') :
    Effect b (b.finish p id s next a) id t t' .refunded [.answered a] := by
  obtain ⟨hbuilt, haccount, hrequest⟩ := release_spec hb p s
  have hprovider : t'.provider = some p := by rw [ht']
  rw [finish_eq]
  refine
    { found := hfound
      transition := transition
      sessions := ?_
      told := fun j => Env.told_answer _ _ _ _
      payment := ⟨b.env, (Env.Aside.refl b.env).toKeeps, rfl, rfl, ?_⟩
      config := rfl
      builtIn := hbuilt
      account := haccount
      retries := fun n hn hest => ?_
      others := fun q i j hj => ?_
      posted := fun q i hi => ?_
      listed := fun q i _ _ hi _ => by rw [hgone] at hi; cases hi }
  · rw [Table.modify_of_find? _ hfound, Table.modify_of_find? _ hfound, ht', ← hp]
  · show _ = _
    rw [payee_of_provider b hprovider, ← hdonated]
    rfl
  · rw [hprovider] at hn
    rw [hn] at hp
    exact hb.retries id t n hfound hp
      (transition.established_of_sync (hb.slots id t hfound) hp rfl hest)
  · rw [hrequest]
    by_cases hown : q = p ∧ s.downstream = some i
    · rw [if_pos hown, hown.1, hholds i (by rw [← hdown]; exact hown.2)]
      simp [Ne.symm hj]
    · rw [if_neg hown]
  · rw [hrequest] at hi
    split at hi
    · cases hi
    · rename_i hown
      obtain ⟨u, hu, hq, hui⟩ := hb.posted q i id hi
      obtain rfl := Option.some.inj (hfound.symm.trans hu)
      obtain rfl := Option.some.inj (hp.symm.trans hq)
      exact absurd ⟨rfl, by rw [hdown]; exact hui⟩ hown

/-- The bank after all that was donated for a session was requested back from the account of its provider. -/
def repaid (b : Broker) (bank : Bank) (id : ServerId) : Bank :=
  match b.sessions.find? id with
  | some t => bank.tryPay (b.payee t) b.ownAccount t.session.donated
  | none => bank

/-- A session ends, and all that was donated for it is requested back. -/
structure Ends (b b' : Broker) (id : ServerId) : Prop where
  effect : ∃ t t' ns, Effect b b' id t t' .refunded ns ∧ t.session.phase.isEnded = false ∧
    t'.session.phase.isEnded = true
  bank : b'.env.bank = b.repaid b.env.bank id

namespace Ends

theorem affects (h : Ends b b' id) : Affects b b' id := by
  obtain ⟨t, t', ns, heffect, -, -⟩ := h.effect
  exact ⟨t, t', _, ns, heffect⟩

theorem sound (h : Ends b b' id) (hb : b.Sound) : b'.Sound := by
  obtain ⟨t, t', ns, heffect, -, -⟩ := h.effect
  exact heffect.sound hb

theorem find?_self (h : Ends b b' id) : ∃ t, b'.sessions.find? id = some t ∧ t.session.phase.isEnded = true := by
  obtain ⟨t, t', ns, heffect, -, hended⟩ := h.effect
  exact ⟨t', heffect.find?_self, hended⟩

theorem find?_of_ne (h : Ends b b' id) {j : ServerId} (hj : j ≠ id) :
    b'.sessions.find? j = b.sessions.find? j := by
  obtain ⟨t, t', ns, heffect, -, -⟩ := h.effect
  exact heffect.find?_of_ne hj

end Ends

/-- Ending a session requests its donation back. -/
theorem Effect.ends {s s' : Session} {next : Phase} {a : Answer} {t' : Slot} {ns : List Notice}
    (h : Effect b (b.finish p id s' next a) id ⟨s, some p⟩ t' .refunded ns) (hdonated : s'.donated = s.donated)
    (hlive : s.phase.isEnded = false) (hended : t'.session.phase.isEnded = true) :
    Ends b (b.finish p id s' next a) id where
  effect := ⟨_, _, _, h, hlive, hended⟩
  bank := by
    have hbank : (b.finish p id s' next a).env.bank =
        b.env.bank.tryPay (b.providers.account p) b.ownAccount s'.donated := by
      rw [finish_eq]
      rfl
    rw [hbank, hdonated]
    unfold repaid
    rw [h.found]
    rfl

/-- Any session that is not closed can be closed, by way of `closeRequested` where that is needed. -/
theorem advance_closed_of_alive (h : s.isAlive = true) :
    { (if s.phase.canReach .closed then s else s.advance .closeRequested) with downstream := none }.advance .closed =
      { s with downstream := none, phase := .closed } := by
  unfold Session.isAlive at h
  cases hp : s.phase <;>
    first
      | (rw [hp] at h; cases h; done)
      | simp [Session.advance, Session.permits, hp, Phase.canReach, Phase.next]

/-! ### Answers of providers -/

/-- A create that was posted is refused. -/
theorem effect_denied (hb : b.Sound) (hfound : b.sessions.find? id = some ⟨s, some p⟩) (hholds : b.Holds p id s)
    (hphase : s.phase = .createRequested) {s' : Session} {notify : Bool}
    (hs : s' = { s with notify := notify, handle := none }) {next : Phase} {a : Answer}
    (ha : Answer.ofCreateFailure? next = some a) :
    Effect b (b.finish p id s' next a) id ⟨s, some p⟩
      ⟨{ s with notify := notify, handle := none, downstream := none, donated := 0, phase := next }, some p⟩ .refunded
      [.answered a] := by
  subst hs
  have hadvance : { s with notify := notify, handle := none, downstream := none }.advance next =
      { s with notify := notify, handle := none, downstream := none, phase := next } :=
    Session.advance_createFailure hphase (Phase.isCreateFailure_of_answer ha)
  refine effect_finish hb hfound rfl hholds rfl rfl ?_ rfl
    (.denied hphase ((hb.slots id _ hfound).waiting hphase).2 ha)
  rw [hadvance]

/-- A session that is not closed is released by its provider, or with it. -/
theorem effect_released (hb : b.Sound) (hfound : b.sessions.find? id = some ⟨s, some p⟩) (hholds : b.Holds p id s)
    (halive : s.isAlive = true) {s' : Session} (hdown : s'.downstream = s.downstream)
    (hdonated : s'.donated = s.donated)
    (hs' : { s' with downstream := none }.advance .closed =
      { s with handle := none, downstream := none, phase := .closed }) :
    Effect b (b.finish p id s' .closed .sessionClosed) id ⟨s, some p⟩
      ⟨{ s with handle := none, downstream := none, donated := 0, phase := .closed }, some p⟩ .refunded
      [.answered .sessionClosed] := by
  refine effect_finish hb hfound rfl hholds hdown hdonated ?_ rfl (.closed halive)
  rw [hs']

/-- A live session is released whatever its phase. -/
theorem effect_released_alive (hb : b.Sound) (hfound : b.sessions.find? id = some ⟨s, some p⟩)
    (hholds : b.Holds p id s) (halive : s.isAlive = true) {s' : Session} (hs : s' = { s with handle := none }) :
    Effect b
      (b.finish p id (if s.phase.canReach .closed then s' else s'.advance .closeRequested) .closed .sessionClosed)
      id ⟨s, some p⟩ ⟨{ s with handle := none, downstream := none, donated := 0, phase := .closed }, some p⟩ .refunded
      [.answered .sessionClosed] := by
  have halive' : s'.isAlive = true := by rw [hs]; exact halive
  have hphase : s.phase = s'.phase := by rw [hs]
  have hclosed := advance_closed_of_alive halive'
  rw [hphase]
  refine effect_released hb hfound hholds halive ?_ ?_ (hclosed.trans (by rw [hs]))
  · split
    · rw [hs]
    · rw [Session.downstream_advance, hs]
  · split
    · rw [hs]
    · rw [Session.donated_advance, hs]

/-- The capability of a create that was posted is handed out. -/
theorem affects_delivered (hb : b.Sound) (hfound : b.sessions.find? id = some ⟨s, some p⟩)
    (hphase : s.phase = .createRequested) (cap : Capability) :
    Affects b (b.handOut id ({ s with notify := false, handle := some ⟨cap, none⟩ }.advance .available)) id := by
  have hout : b.handOut id ({ s with notify := false, handle := some ⟨cap, none⟩ }.advance .available) =
      { (b.setSession id { s with notify := false, handle := some ⟨cap, none⟩, phase := .capHandedOut }) with
        env := b.env.deliver id cap } := by
    simp [handOut, Session.cap?, setSession, Session.advance, Session.permits, hphase, Phase.canReach, Phase.next]
  rw [hout]
  exact ⟨_, _, _, _, ((Prepared.refl hb hfound).setSession _).effect hb hfound
    (.delivered hphase ((hb.slots id _ hfound).waiting hphase).2) (fun j => Env.told_deliver _ _ _ _) rfl rfl rfl
    (fun h => by cases h) fun _ _ _ => .inl rfl⟩

/-- A create that was posted is refused by its provider. -/
theorem affects_denied (hb : b.Sound) (hfound : b.sessions.find? id = some ⟨s, some p⟩) (hholds : b.Holds p id s)
    (hphase : s.phase = .createRequested) {next : Phase} {a : Answer} (ha : Answer.ofCreateFailure? next = some a) :
    Affects b (b.finish p id { s with notify := false } next a) id := by
  have hquiet : { s with notify := false } = { s with notify := false, handle := none } := by
    rw [← ((hb.slots id _ hfound).waiting hphase).1]
  exact ⟨_, _, _, _, effect_denied hb hfound hholds hphase hquiet ha⟩

/-- A pending upgrade was applied. -/
theorem affects_upgraded (hb : b.Sound) (hfound : b.sessions.find? id = some ⟨s, some p⟩)
    (hphase : s.phase = .upgradeRequested) :
    Affects b ((b.setSession id (s.confirmUpgrade.advance .capHandedOut)).answer id .sessionOk) id := by
  rw [Session.settled_eq hphase]
  exact ⟨_, _, _, _, ((Prepared.refl hb hfound).setSession _).effect hb hfound (.upgraded (by rw [hphase]; rfl))
    (fun j => Env.told_answer _ _ _ _) rfl rfl rfl (fun h => by cases h) fun _ _ _ => .inl rfl⟩

/-- An answer that fits a session changes that session alone. -/
theorem affects_settle (hb : b.Sound) (hfound : b.sessions.find? id = some ⟨s, some p⟩) (hholds : b.Holds p id s)
    {r : Response} (h : b.settle p id s r = some b') : Affects b b' id := by
  unfold settle at h
  simp only at h
  split at h
  · rename_i hgiven
    obtain rfl := Option.some.inj h
    obtain ⟨⟨-, hab⟩, halive⟩ : (r.endsCreate = true ∧ s.abandoned = true) ∧ s.isAlive = true := by
      simpa [Bool.and_eq_true] using hgiven
    have hphase : s.phase = .closeRequested := by
      refine ((hb.slots id _ hfound).abandoned hab).resolve_right fun hclosed => ?_
      simp [Session.isAlive, show s.phase = _ from hclosed] at halive
    exact ⟨_, _, _, _, effect_released hb hfound hholds halive rfl rfl (Session.closed_eq hphase)⟩
  · cases r with
    | deliver cap =>
      obtain ⟨hphase, h⟩ := Option.ite_none_right_eq_some.1 h
      obtain rfl := Option.some.inj h
      exact affects_delivered hb hfound hphase cap
    | denied | insufficientRam | insufficientCaps =>
      obtain ⟨hphase, h⟩ := Option.ite_none_right_eq_some.1 h
      obtain rfl := Option.some.inj h
      exact affects_denied hb hfound hholds hphase rfl
    | upgradeDone =>
      obtain ⟨hphase, h⟩ := Option.ite_none_right_eq_some.1 h
      obtain rfl := Option.some.inj h
      exact affects_upgraded hb hfound hphase
    | closed =>
      obtain ⟨halive, h⟩ := Option.ite_none_right_eq_some.1 h
      obtain rfl := Option.some.inj h
      exact ⟨_, _, _, _, effect_released_alive hb hfound hholds halive rfl⟩

/-- Applying an answer changes nothing, or the session it is for. -/
theorem applyResponse_cases (hb : b.Sound) (hholds : ∀ t, b.sessions.find? id = some t →
    t.provider = some p ∧ b.Holds p id t.session) (r : Response) :
    (b.applyResponse p id r).2 = b ∨ Affects b (b.applyResponse p id r).2 id := by
  unfold applyResponse session?
  cases hfound : b.sessions.find? id with
  | none => exact .inl rfl
  | some t =>
    obtain ⟨s, provider⟩ := t
    obtain ⟨rfl, hown⟩ := hholds _ hfound
    cases hsettle : b.settle p id s r with
    | none => exact .inl (by simp [hsettle])
    | some b' =>
      refine .inr ?_
      simp only [Option.map_some, hsettle]
      exact affects_settle hb hfound hown hsettle

/-! ### Providers that go away -/

theorem holds_child (hb : b.Sound) {c n : String} (hfound : b.sessions.find? id = some ⟨s, some (.child c n)⟩) :
    b.Holds (.child c n) id s := fun i hi => hb.listed id _ c n i hfound rfl hi

/-- The loss of a provider changes nothing, or it ends the session. -/
theorem dismiss_cases (hb : b.Sound) (k : ChildKey) (id : ServerId) :
    b.dismiss k id = b ∧ (∀ t, b.sessions.find? id = some t → t.provider = some k.provider →
        t.session.phase.isEnded = true) ∨ Ends b (b.dismiss k id) id := by
  unfold dismiss
  cases hfound : b.sessions.find? id with
  | none => exact .inl ⟨rfl, fun _ h => by cases h⟩
  | some t =>
    obtain ⟨s, provider⟩ := t
    simp only
    split
    · rename_i hlive
      obtain ⟨hprovider, halive, hfail⟩ := hlive
      obtain rfl : provider = some k.provider := hprovider
      have hholds : b.Holds k.provider id s := holds_child hb hfound
      have hopen : s.phase.isEnded = false := by
        cases hp : s.phase <;> simp_all [Phase.isEnded, Phase.isCreateFailure, Session.isAlive]
      refine .inr ?_
      split
      · rename_i hwait
        obtain ⟨hphase, -⟩ := hwait
        exact (effect_denied hb hfound hholds hphase rfl rfl).ends rfl hopen rfl
      · exact (effect_released_alive hb hfound hholds halive rfl).ends (by split <;> simp) hopen rfl
    · rename_i hnot
      refine .inl ⟨rfl, fun t ht hprovider => ?_⟩
      obtain rfl := Option.some.inj ht
      refine Phase.isEnded_iff.2 ?_
      by_cases hclosed : s.phase = .closed
      · exact .inl hclosed
      · refine .inr ?_
        by_contra hfail
        exact hnot ⟨hprovider, by simp [Session.isAlive, hclosed], by simpa using hfail⟩

end SessionBroker.Broker
