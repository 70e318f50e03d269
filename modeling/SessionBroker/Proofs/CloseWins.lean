import SessionBroker.Proofs.Answers

/-!
# SessionBroker.Proofs.CloseWins — a close wins over a create that is pending

* `Broker.GivenUp told t id b`: session `id` stands as it was given up, or it is over and the parent was told so.
* `Reaches.givenUp`: whatever comes after the close, this is so.
* `Op.Completes b id`: the answers of the provider, and its loss, that complete the session.
* `close_wins`: none of them delivers a capability, and the first one closes the session.
-/

namespace SessionBroker

theorem Session.phase_of_close {s : Session} (h : s.requestKind? = some .close) : s.phase = .closeRequested := by
  unfold requestKind? at h
  cases hphase : s.phase <;> simp_all

/-- What is closed while its create is pending is given up, or it is closed at once. -/
theorem Transition.of_closing {t t' : Slot} {m : Payment} {ns : List Notice} (h : Transition t m ns t')
    (hphase : t.session.phase = .createRequested)
    (hend : t'.session.phase = .closed ∨ t'.session.phase = .closeRequested) :
    ns = [] ∧ t' = ⟨Broker.givenUp t.session, t.provider⟩ ∨
      ns = [.answered .sessionClosed] ∧ t'.session.phase = .closed := by
  cases h with
  | @refused _ _ _ next _ _ _ _ hnext | @denied _ _ next _ _ _ _ hnext =>
    cases next <;> cases hnext <;> rcases hend with hend | hend <;> cases hend
  | granted | delivered | upgrading | upgraded => rcases hend with hend | hend <;> cases hend
  | posted => rcases hend with hend | hend <;> cases hphase.symm.trans hend
  | closing => exact .inl ⟨rfl, rfl⟩
  | stuck h =>
    rw [show Session.phase _ = _ from hphase] at h
    cases h
  | closed => exact .inr ⟨rfl, rfl⟩

namespace Broker

variable {new : ServerId → Prop} {b c c' : Broker} {id : ServerId} {t u : Slot} {told : List Notice} {s : Session}
  {p : Provider}

/-! ### What becomes of a session that was given up -/

theorem stage_givenUp (hphase : s.phase = .createRequested) : (givenUp s).stage = .givenUp := by
  simp [givenUp, Session.stage, hphase]

/-- A session stands as it was given up and nothing was said since, or it is over and the parent was told so once. -/
def GivenUp (told : List Notice) (t : Slot) (id : ServerId) (b : Broker) : Prop :=
  b.env.told id = told ∧ b.sessions.find? id = some t ∨
    b.env.told id = told ++ [.answered .sessionClosed] ∧ b.stage id = .over

/-- A change leaves a session as it was given up, or closes it. -/
theorem Change.givenUp (h : Change new c c') (hc : c.Sound) (hid : ¬new id) (ht : t.session.stage = .givenUp)
    (hI : GivenUp told t id c) : GivenUp told t id c' := by
  obtain ⟨ns, htold, htalk⟩ := h.tells hc hid
  rcases hI with ⟨hsaid, hfound⟩ | ⟨hsaid, hover⟩
  · rw [stage_of_find? hfound, ht] at htalk
    rcases htalk.of_givenUp with ⟨rfl, hstage⟩ | ⟨rfl, hstage⟩
    · refine .inl ⟨by rw [htold, hsaid, List.append_nil], ?_⟩
      cases h with
      | @session _ j v v' m ns heffect =>
        by_cases hj : id = j
        · -- its only transition would have closed it
          subst hj
          obtain rfl := Option.some.inj (hfound.symm.trans heffect.found)
          obtain ⟨-, -, -, abandoned, hclosed⟩ := heffect.transition.of_givenUp ht
          rw [stage_of_find? heffect.find?_self, hclosed] at hstage
          cases hstage
        · rw [heffect.find?_of_ne hj, hfound]
      | providers h => rw [h.sessions, hfound]
      | forgotten keep hkeep =>
        have hkept : keep id t = true := by
          cases hk : keep id t with
          | true => rfl
          | false =>
            have hclosed := Session.phase_of_not_alive (hkeep id t hfound hk)
            rw [Session.phase_of_givenUp ht] at hclosed
            cases hclosed
        exact Table.find?_filter_of hfound hkept
      | malformed => exact hfound
      | @admitted j _ hj =>
        have hne : id ≠ j := fun he => hid (he ▸ hj)
        show (c.sessions.insert j _).find? id = some t
        rw [Table.find?_insert_of_ne _ _ hne, hfound]
    · exact .inr ⟨by rw [htold, hsaid], hstage⟩
  · rw [hover] at htalk
    obtain ⟨rfl, hstage⟩ := htalk.of_over
    exact .inr ⟨by rw [htold, hsaid, List.append_nil], hstage⟩

theorem Changes.givenUp (h : Changes new c c') (hc : c.Sound) (hid : ¬new id) (ht : t.session.stage = .givenUp)
    (hI : GivenUp told t id c) : GivenUp told t id c' :=
  h.invariant (I := GivenUp told t id) (fun _ _ hc hI hchange => hchange.givenUp hc hid ht hI) hc hI

/-- A history leaves a session as it was given up, or closes it, as long as no create takes the id. -/
theorem Reaches.givenUp (h : Reaches (Env.SilentOn id) (InTurn id) b c) (hb : b.Sound)
    (ht : t.session.stage = .givenUp) (hI : GivenUp told t id b) : c.Sound ∧ GivenUp told t id c :=
  h.invariant (· ≠ id) (I := GivenUp told t id) hb hI (fun _ _ _ hturn hopens he => hturn (he ▸ hopens))
    (fun _ _ hc hI hchange => hchange.givenUp hc (by simp) ht hI)
    fun _ _ hI hsilent => hI.imp (fun h => ⟨hsilent.trans h.1, h.2⟩) fun h => ⟨hsilent.trans h.1, h.2⟩

/-- A close of a create that is pending gives the session up, if its provider has to release it, or closes it. -/
theorem close_givesUp (hb : b.Sound) (hfound : b.sessions.find? id = some t)
    (hphase : t.session.phase = .createRequested) :
    (b.close id).1 = .ok () ∧ (b.close id).2.Sound ∧
      GivenUp (b.env.told id) ⟨givenUp t.session, t.provider⟩ id (b.close id).2 := by
  obtain ⟨hok, t', m, ns, heffect, hend⟩ :=
    close_effect hb hfound (by rw [hphase]; decide) (by rw [hphase]; decide)
  refine ⟨hok, heffect.sound hb, ?_⟩
  have htold := heffect.told id
  rw [if_pos rfl] at htold
  have hslot := heffect.find?_self
  rcases heffect.transition.of_closing hphase hend with ⟨rfl, rfl⟩ | ⟨rfl, hclosed⟩
  · exact .inl ⟨by rw [htold, List.append_nil], hslot⟩
  · exact .inr ⟨htold, by rw [stage_of_find? hslot, Session.stage, hclosed]⟩

/-! ### What completes a session that was given up -/

/-- A session that is being closed is closed when its provider says so, or answers the create that was given up. -/
theorem settle_closing (hb : b.Sound) (hfound : b.sessions.find? id = some ⟨s, some p⟩) (hholds : b.Holds p id s)
    (hphase : s.phase = .closeRequested) {r : Response}
    (hr : r = .closed ∨ r.endsCreate = true ∧ s.abandoned = true) :
    ∃ b', b.settle p id s r = some b' ∧ Ends b b' id ∧
      ∀ u, b'.sessions.find? id = some u → u.session.phase = .closed := by
  have halive : s.isAlive = true := Session.isAlive_of_ne_closed (by rw [hphase]; decide)
  have heffect : Effect b (b.finish p id { s with handle := none } .closed .sessionClosed) id _ _ _ _ :=
    effect_released hb hfound hholds halive rfl rfl (Session.closed_eq hphase)
  refine ⟨b.finish p id { s with handle := none } .closed .sessionClosed, ?_,
    heffect.ends rfl (by rw [hphase]; rfl) rfl, fun u hu => ?_⟩
  · rcases hr with rfl | ⟨hr, hab⟩
    · simp [settle, Response.endsCreate, halive, hphase, Phase.canReach, Phase.next]
    · simp [settle, hr, hab, halive]
  · obtain rfl := Option.some.inj (heffect.find?_self.symm.trans hu)
    rfl

theorem Ends.lost (h : Ends b c id) : c.Lost p id := by
  intro u hu _
  obtain ⟨t, ht, hended⟩ := h.find?_self
  obtain rfl := Option.some.inj (ht.symm.trans hu)
  exact hended

/-- The answer of a child to the request of a session that was given up. -/
theorem childAnswer_givenUp (hb : b.Sound) {k : ChildKey} (hfound : b.sessions.find? id = some ⟨s, some k.provider⟩)
    (hs : s.stage = .givenUp) {i : ClientId} (hdown : s.downstream = some i) {r : Response} (hr : r ≠ .upgradeDone) :
    (b.childAnswer k i r).1 = .ok () ∧ Endings b (b.childAnswer k i r).2 ∧
      (b.childAnswer k i r).2.Lost k.provider id := by
  have hposted : b.providers.request? k.provider i = some id := hb.listed id _ k.child k.service i hfound rfl hdown
  rw [Registry.request?_child] at hposted
  obtain ⟨v, hchild, hlook⟩ := Option.bind_eq_some_iff.1 hposted
  have hanswer : r = .closed ∨ r.endsCreate = true ∧ s.abandoned = true := by
    cases r with
    | closed => exact .inl rfl
    | upgradeDone => exact absurd rfl hr
    | deliver | denied | insufficientRam | insufficientCaps => exact .inr ⟨rfl, Session.abandoned_of_givenUp hs⟩
  obtain ⟨b', hsettle, hends, -⟩ :=
    settle_closing hb hfound (holds_child hb hfound) (Session.phase_of_givenUp hs) hanswer
  have happly : b.applyResponse k.provider id r = (.ok (), b') := by
    simp [applyResponse, session?, hfound, hsettle]
  have heq : b.childAnswer k i r = (.ok (), b'.sweep) := by simp [childAnswer, hchild, hlook, happly]
  rw [heq]
  have hsweep := rearranged_sweep (hends.sound hb)
  exact ⟨rfl, (Endings.single (.session hends)).trans (.single (.providers hsweep)), hends.lost⟩

/-- Whether the session of an id, if it is there, belongs to a provider and is being closed or closed. -/
def Closable (b : Broker) (p : Provider) (id : ServerId) : Prop :=
  b.Serves p id ∧ ∀ t, b.sessions.find? id = some t → t.session.phase = .closeRequested ∨ t.session.phase = .closed

/-- A session that is being closed is closed when its provider says so, and one that is closed stays so. -/
theorem endings_applyClosed (hb : b.Sound) (hp : p.isAsync = true) (h : b.Closable p id) :
    Endings b (b.applyResponse p id .closed).2 ∧ (b.applyResponse p id .closed).2.Lost p id ∧
      ∀ j, b.Closable p j → (b.applyResponse p id .closed).2.Closable p j := by
  unfold applyResponse session?
  cases hfound : b.sessions.find? id with
  | none =>
    have hlost : b.Lost p id := fun t ht => by rw [hfound] at ht; cases ht
    exact ⟨.refl b, hlost, fun _ h => h⟩
  | some t =>
    obtain ⟨s, provider⟩ := t
    obtain ⟨hserves, hclosing⟩ := h
    obtain ⟨rfl, hholds⟩ := hserves _ hfound
    by_cases hphase : s.phase = .closed
    · have hsettle : b.settle p id s .closed = none := by
        simp [settle, Response.endsCreate, Session.isAlive, hphase]
      simp only [Option.map_some, hsettle]
      refine ⟨.refl b, fun u hu _ => ?_, fun _ h => h⟩
      obtain rfl := Option.some.inj (hfound.symm.trans hu)
      exact Phase.isEnded_iff.2 (.inl hphase)
    · have hphase : s.phase = .closeRequested := (hclosing _ hfound).resolve_right hphase
      obtain ⟨b', hsettle, hends, hclosed⟩ := settle_closing hb hfound hholds hphase (.inl rfl)
      simp only [Option.map_some, hsettle]
      refine ⟨.single (.session hends), hends.lost, fun j hj => ⟨hj.1.of_affects hp hends.affects, fun u hu => ?_⟩⟩
      by_cases hid : j = id
      · subst hid
        exact .inr (hclosed u hu)
      · rw [hends.find?_of_ne hid] at hu
        exact hj.2 u hu

/-- Local code ends the sessions that it says it closed. -/
theorem endings_applyLocal (service : String) : ∀ (answers : List (ServerId × Response)) (b : Broker), b.Sound →
    (∀ e ∈ answers, e.2 = .closed ∧ b.Closable (.later service) e.1) →
    Endings b (b.applyLocal service answers) ∧
      ∀ e ∈ answers, (b.applyLocal service answers).Lost (.later service) e.1
  | [], b, _, _ => ⟨.refl b, fun e he => by cases he⟩
  | (i, r) :: answers, b, hb, h => by
    obtain ⟨hr, hclosable⟩ := h _ List.mem_cons_self
    obtain rfl : r = .closed := hr
    obtain ⟨hends, hlost, hkept⟩ := endings_applyClosed hb rfl hclosable
    obtain ⟨hends', hlost'⟩ := endings_applyLocal service answers _ (hends.sound hb) fun e he =>
      ⟨(h e (List.mem_cons_of_mem _ he)).1, hkept _ (h e (List.mem_cons_of_mem _ he)).2⟩
    refine ⟨hends.trans hends', fun e he => ?_⟩
    rcases List.mem_cons.1 he with rfl | he
    · exact hlost.endings (hends.sound hb) hends'
    · exact hlost' e he

/-- Local code closes the sessions for which it says so. -/
theorem mem_collect_closed {callback : Nat → Request → Bool} {requests : List (ServerId × Request)}
    {e : ServerId × Response} :
    e ∈ collect (fun n r => if callback n r then some .closed else none) requests ↔
      ∃ n r, requests[n]? = some (e.1, r) ∧ callback n r = true ∧ e.2 = .closed := by
  unfold collect
  rw [List.mem_filterMap]
  constructor
  · rintro ⟨⟨⟨i, r⟩, n⟩, hx, he⟩
    obtain ⟨a, ha, rfl⟩ := Option.map_eq_some_iff.1 he
    simp only [Option.ite_none_right_eq_some, Option.some.injEq] at ha
    exact ⟨n, r, List.mem_zipIdx_iff_getElem?.1 hx, ha.1, ha.2.symm⟩
  · rintro ⟨n, r, hr, hcallback, hclosed⟩
    refine ⟨((e.1, r), n), List.mem_zipIdx_iff_getElem?.2 hr, ?_⟩
    simp [hcallback, ← hclosed]

/-- What local code is shown to close is posted at its service, and being closed. -/
theorem of_mem_closing (hb : b.Sound) {service : String} {e : ServerId × Request} (he : e ∈ b.closing service) :
    b.providers.request? (.later service) e.2.id = some e.1 ∧ b.Closable (.later service) e.1 := by
  obtain ⟨hshown, hkind⟩ := List.mem_filter.1 he
  have hposted := request?_of_mem_localRequests hshown
  refine ⟨hposted, serves_of_request? hb hposted, fun t ht => .inl ?_⟩
  unfold localRequests at hshown
  cases hd : b.providers.desks.find? service with
  | none => simp [hd] at hshown
  | some d =>
    simp only [hd, Option.map_some, Option.getD_some] at hshown
    obtain ⟨x, hx, hsome⟩ := List.mem_filterMap.1 hshown
    obtain ⟨s, hs, hsome⟩ := Option.bind_eq_some_iff.1 hsome
    obtain ⟨kind, hkind', hsome⟩ := Option.bind_eq_some_iff.1 hsome
    obtain rfl := Option.some.inj hsome
    have hsession : t.session = s := by simpa [session?, ht] using hs
    obtain rfl : kind = .close := by
      cases kind with
      | close => rfl
      | create | upgrade => cases hkind
    rw [hsession]
    exact Session.phase_of_close hkind'

/-! ### The close wins -/

/-- The answers of its provider, and the loss of it, that complete the session of an id: a child answers the request
in any way but that it applied an upgrade, local code says that it closed the session, or the child goes away. -/
inductive Op.Completes (b : Broker) (id : ServerId) : Op → Prop
  | answered {k : ChildKey} {request : ClientId} {r : Response} :
      b.provider? id = some k.provider → (b.session? id).bind Session.downstream = some request → r ≠ .upgradeDone →
      Completes b id (.childAnswer k request r)
  | closed {service : String} {callback : Nat → Request → Bool} {n : Nat} {r : Request} :
      (b.closing service)[n]? = some (id, r) → callback n r = true → Completes b id (.answerClosing service callback)
  | removed {child service : String} :
      b.provider? id = some (.child child service) → Completes b id (.removeChild child)

/-- The session of an id was completed by a close, and everything it held was given back. -/
structure Completed (b b' : Broker) (id : ServerId) : Prop where
  session : ∃ s, b'.session? id = some s ∧ s.phase = .closed ∧ s.handle = none ∧ s.downstream = none ∧ s.donated = 0
  told : b'.env.told id = b.env.told id ++ [.answered .sessionClosed]
  /-- The id of its request is free again. -/
  released : ∀ p i, b.provider? id = some p → (b.session? id).bind Session.downstream = some i →
    b.providers.request? p i = some id ∧ b'.providers.request? p i = none
  /-- All that was donated for it was requested back, once, as for any other session that ended with it. -/
  refunded : ∃ ids, Ended b b' ids ∧ id ∈ ids

/-- Sessions end, and with them the session that was given up. -/
theorem Endings.completed (h : Endings b c) (hb : b.Sound) (hfound : b.sessions.find? id = some ⟨s, some p⟩)
    (hs : s.stage = .givenUp) (hholds : b.Holds p id s) (hlost : c.Lost p id) : Completed b c id := by
  have hphase := Session.phase_of_givenUp hs
  have hc := h.sound hb
  obtain ⟨ids, hids⟩ := h.ended hb
  have hmem : id ∈ ids := by
    by_contra hid
    have hended := hlost ⟨s, some p⟩ (by rw [hids.others id hid, hfound]) rfl
    rw [hphase] at hended
    cases hended
  obtain ⟨t, ht, hended⟩ := (hids.ended id hmem).2
  obtain ⟨hhandle, hdown, hdonated⟩ := (hc.slots id t ht).ended hended
  have hchanges : Changes (fun _ => False) b c := h.changes
  have hgiven : GivenUp (b.env.told id) ⟨s, some p⟩ id c :=
    hchanges.givenUp hb (by simp) hs (.inl ⟨rfl, hfound⟩)
  rcases hgiven with ⟨-, hsame⟩ | ⟨htold, hover⟩
  · obtain rfl := Option.some.inj (hsame.symm.trans ht)
    rw [hphase] at hended
    cases hended
  · rw [stage_of_find? ht] at hover
    refine ⟨⟨t.session, by simp [session?, ht], Session.phase_of_over hover, hhandle, hdown, hdonated⟩, htold,
      fun q i hq hi => ?_, ids, hids, hmem⟩
    obtain rfl : p = q := by simpa [provider?, hfound] using hq
    have hposted := hholds i (by simpa [session?, hfound] using hi)
    refine ⟨hposted, ?_⟩
    -- nothing was posted, so the request could only be that of the session itself
    cases hj : c.providers.request? p i with
    | none => rfl
    | some j =>
      obtain rfl : id = j := Option.some.inj (hposted.symm.trans (hids.requests p i j hj))
      obtain ⟨u, hu, -, hui⟩ := hc.posted p i id hj
      obtain rfl := Option.some.inj (ht.symm.trans hu)
      rw [hdown] at hui
      cases hui

/-- The next answer of its provider closes a session that was given up, and so does the loss of it. -/
theorem Op.Completes.completed {op : Op} (h : op.Completes b id) (hb : b.Sound) (hfound : b.sessions.find? id = some t)
    (ht : t.session.stage = .givenUp) : (b.step op).1 = .ok () ∧ Completed b (b.step op).2 id := by
  obtain ⟨s, provider⟩ := t
  cases h with
  | @answered k request r hp hdown hr =>
    obtain rfl : provider = some k.provider := by simpa [provider?, hfound] using hp
    have hdown : s.downstream = some request := by simpa [session?, hfound] using hdown
    obtain ⟨hok, hends, hlost⟩ := childAnswer_givenUp hb hfound ht hdown hr
    exact ⟨hok, hends.completed hb hfound ht (holds_child hb hfound) hlost⟩
  | @closed service callback n r hn hcallback =>
    have hmem : (id, r) ∈ b.closing service := List.mem_of_getElem? hn
    obtain ⟨hposted, hserves, -⟩ := of_mem_closing hb hmem
    obtain ⟨rfl, hholds⟩ := hserves _ hfound
    obtain ⟨hends, hlost⟩ := endings_applyLocal service _ b hb fun e he => by
      obtain ⟨m, u, hu, -, hr⟩ := mem_collect_closed.1 he
      exact ⟨hr, (of_mem_closing hb (List.mem_of_getElem? hu)).2⟩
    exact ⟨rfl, hends.completed hb hfound ht hholds
      (hlost (id, .closed) (mem_collect_closed.2 ⟨n, r, hn, hcallback, rfl⟩))⟩
  | @removed child service hp =>
    obtain rfl : provider = some (.child child service) := by simpa [provider?, hfound] using hp
    refine ⟨rfl, (endings_removeChild hb child).completed hb hfound ht (holds_child hb hfound) ?_⟩
    refine lost_removeChild (k := ⟨child, service⟩) hb ?_ id
    have hlive : s.phase.isEnded = false := by rw [Session.phase_of_givenUp ht]; rfl
    obtain ⟨i, hi⟩ := Option.isSome_iff_exists.1 ((hb.slots id _ hfound).async _ rfl rfl hlive)
    have hposted : b.providers.request? (ChildKey.mk child service).provider i = some id :=
      hb.listed id _ child service i hfound rfl hi
    rw [Registry.request?_child] at hposted
    obtain ⟨v, hv, -⟩ := Option.bind_eq_some_iff.1 hposted
    exact List.mem_filter.2 ⟨Table.mem_keys.2 ⟨v, hv⟩, by simp⟩

/-- What a session has come to that the parent closed in `b`, where its create was pending at slot `t`. -/
structure CloseWins (b : Broker) (t : Slot) (id : ServerId) (c : Broker) : Prop where
  /-- Nothing was said since, or that the session is closed.  No capability was delivered. -/
  told : c.env.told id = b.env.told id ∨ c.env.told id = b.env.told id ++ [.answered .sessionClosed]
  /-- Until the parent is told, the request is posted and the whole donation is on record.  Whatever completes the
  session closes it then. -/
  pending : c.env.told id = b.env.told id → ∃ p i, t.provider = some p ∧ t.session.downstream = some i ∧
    c.sessions.find? id = some ⟨givenUp t.session, some p⟩ ∧
    ∀ op, op.Completes c id → (c.step op).1 = .ok () ∧ Completed c (c.step op).2 id
  /-- Once it is told, there is nothing left to be answered or to be moved back. -/
  finished : c.env.told id ≠ b.env.told id → ∀ s, c.session? id = some s → s.phase = .closed ∧ s.donated = 0

theorem GivenUp.closeWins (h : GivenUp (b.env.told id) ⟨givenUp t.session, t.provider⟩ id c) (hc : c.Sound)
    (hphase : t.session.phase = .createRequested) (hsync : ∀ p, t.provider = some p → p.isAsync = true) :
    CloseWins b t id c where
  told := h.imp And.left And.left
  pending hsilent := by
    rcases h with ⟨-, hfound⟩ | ⟨htold, -⟩
    · obtain ⟨s, provider⟩ := t
      have hslot := hc.slots id _ hfound
      cases provider with
      | none => rcases (hslot.unrouted rfl).2 with h | h <;> cases h
      | some p =>
        obtain ⟨i, hi⟩ := Option.isSome_iff_exists.1 (hslot.async p rfl (hsync p rfl) rfl)
        exact ⟨p, i, rfl, hi, hfound, fun op hop => hop.completed hc hfound (stage_givenUp hphase)⟩
    · rw [htold] at hsilent
      simp at hsilent
  finished hsaid s hs := by
    rcases h with ⟨htold, -⟩ | ⟨-, hover⟩
    · exact absurd htold hsaid
    · obtain ⟨u, hu, rfl⟩ := Option.map_eq_some_iff.1 hs
      have hclosed := (phase_of_stage_over hs).1 hover
      exact ⟨hclosed, ((hc.slots id u hu).ended (Phase.isEnded_iff.2 (.inl hclosed))).2.2⟩

/-- A close that comes while a create is pending is accepted, and it wins, whatever comes next and in whatever order. -/
theorem close_wins {env : Env} {config : RuntimeConfig}
    (hb : Reaches (fun _ _ => True) (fun _ _ => True) (start env config) b) (hfound : b.sessions.find? id = some t)
    (hphase : t.session.phase = .createRequested)
    (h : Reaches (Env.SilentOn id) (InTurn id) (b.close id).2 c) :
    (b.close id).1 = .ok () ∧ CloseWins b t id c := by
  have hsound := hb.sound (sound_start env config)
  obtain ⟨hok, hclosed, hgiven⟩ := close_givesUp hsound hfound hphase
  obtain ⟨hc, hgiven⟩ := h.givenUp hclosed (stage_givenUp hphase) hgiven
  refine ⟨hok, hgiven.closeWins hc hphase fun p hp => ?_⟩
  cases hsync : p.isAsync with
  | true => rfl
  | false =>
    rcases (hsound.slots id t hfound).sync p hp hsync with h | h | ⟨h, -⟩ <;> (rw [hphase] at h; cases h)

/-- The parent closes a session whose create is pending, and its capability comes too late. -/
theorem close_wins_over_delivery : ∃ t c, requestedOnce.sessions.find? ⟨1⟩ = some t ∧ CloseWins requestedOnce t ⟨1⟩ c ∧
    c.env.told ⟨1⟩ = [.answered .sessionClosed] ∧ (c.env.bank.available .ram 0).val = 64 := by
  obtain ⟨t, ht, hphase⟩ :
      ∃ t, requestedOnce.sessions.find? ⟨1⟩ = some t ∧ t.session.phase = .createRequested := ⟨_, rfl, rfl⟩
  obtain ⟨-, h⟩ := close_wins reaches_requestedOnce ht hphase
    (reaches_run [.childAnswer ⟨"fs", "log"⟩ ⟨0⟩ (.deliver (.mint "log" 0))] .refl
      (by simp [Op.IsBuiltIn, InTurn, Op.Opens]))
  exact ⟨t, _, ht, h, by decide +kernel, by decide +kernel⟩

end Broker

end SessionBroker
