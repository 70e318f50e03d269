import SessionBroker.Proofs.Custody

/-!
# SessionBroker.Proofs.DeskSessions — the sessions of services of this component that answer later

Such a service gets its sessions from the broker, and no other service gets at them.  So what is done to them is known,
whatever the other services are.

* `Broker.Tending b b' id`: what is done to session `id`, as far as these services are concerned (`tending_route`,
  `tending_upgrade`, `tending_close`, `tending_applyResponse`, `tending_dismiss`).
* `Broker.Tended`: each of their sessions refers to a request for as long as it is not over.
* `Broker.Backed b id`: the request that session `id` refers to is posted for it.
* `Broker.Stranded b n id i`: session `id` refers to request `i` at service `n`, and nothing is posted for it.
-/

namespace SessionBroker

/-- A session that refers to a request for as long as it is not over, and that was not given up unless it is closing. -/
structure Session.Tended (s : Session) : Prop where
  downstream : s.downstream.isSome = !s.phase.isEnded
  abandoned : s.abandoned = true → s.phase = .closeRequested ∨ s.phase.isEnded = true

namespace Session.Tended

variable {s s' : Session} {i : ClientId}

theorem of_ended (hended : s.phase.isEnded = true) (hdown : s.downstream = none) : s.Tended where
  downstream := by
    rw [hended, hdown]
    rfl
  abandoned _ := .inr hended

theorem not_ended (h : s.Tended) (hdown : s.downstream = some i) : s.phase.isEnded = false := by
  have hsome := h.downstream
  rw [hdown] at hsome
  cases hended : s.phase.isEnded with
  | false => rfl
  | true =>
    rw [hended] at hsome
    cases hsome

theorem exists_downstream (h : s.Tended) (hlive : s.phase.isEnded = false) : ∃ i, s.downstream = some i := by
  refine Option.isSome_iff_exists.1 ?_
  rw [h.downstream, hlive]
  rfl

/-- A session that is established, or about to be, was not given up. -/
theorem not_abandoned (h : s.Tended) (hlive : s.phase.isEnded = false) (hphase : s.phase ≠ .closeRequested) :
    s.abandoned = false := by
  cases hab : s.abandoned with
  | false => rfl
  | true =>
    rcases h.abandoned hab with hclosing | hended
    · exact absurd hclosing hphase
    · cases hlive.symm.trans hended

/-- A session that was given up is closing, or it ended before. -/
theorem not_established (h : s.Tended) (hab : s.abandoned = true) : s.phase.isEstablished = false := by
  rcases h.abandoned hab with hclosing | hended
  · rw [hclosing]
    rfl
  · cases hphase : s.phase <;> rw [hphase] at hended <;> first | rfl | cases hended

/-- A session that was not given up stays, and it keeps its request. -/
theorem of_live (h : s.Tended) (hdown : s'.downstream = s.downstream) (hab : s'.abandoned = s.abandoned)
    (hlive : s.phase.isEnded = false) (hphase : s.phase ≠ .closeRequested) (hlive' : s'.phase.isEnded = false) :
    s'.Tended where
  downstream := by rw [hdown, h.downstream, hlive, hlive']
  abandoned hab' := by
    rw [hab, h.not_abandoned hlive hphase] at hab'
    cases hab'

/-- A session that is to be closed keeps its request. -/
theorem of_closing (hdown : s'.downstream = some i) (hphase : s'.phase = .closeRequested) : s'.Tended where
  downstream := by
    rw [hdown, hphase]
    rfl
  abandoned _ := .inl hphase

end Session.Tended

namespace Broker

variable {b b' c : Broker} {id j : ServerId} {s s' : Session} {p : Provider} {provider provider' : Option Provider}
  {n : String} {i : ClientId}

/-- The request that session `id` refers to is posted for it. -/
def Backed (b : Broker) (id : ServerId) : Prop :=
  ∀ s n, b.sessions.find? id = some ⟨s, some (.later n)⟩ → b.Holds (.later n) id s

/-- What is done to session `id`, as far as services of this component that answer later are concerned. -/
inductive Tending (b b' : Broker) (id : ServerId) : Prop
  /-- It is not a session of such a service. -/
  | aside (before : ∀ n, ¬b.Owns (.later n) id) (after : ∀ n, ¬b'.Owns (.later n) id)
      (requests : ∀ n i, b'.providers.request? (.later n) i = b.providers.request? (.later n) i)
  /-- A create is refused before the service sees it. -/
  | refused (n : String) (s' : Session) (before : ∀ n, ¬b.Owns (.later n) id)
      (found : b'.sessions.find? id = some ⟨s', some (.later n)⟩) (tended : s'.Tended)
      (downstream : s'.downstream = none)
      (there : b'.providers.contains (.later n) = true)
      (requests : ∀ n i, b'.providers.request? (.later n) i = b.providers.request? (.later n) i)
  /-- A create is posted under an id that was free. -/
  | posted (n : String) (i : ClientId) (s' : Session) (before : ∀ n, ¬b.Owns (.later n) id)
      (found : b'.sessions.find? id = some ⟨s', some (.later n)⟩) (tended : s'.Tended)
      (downstream : s'.downstream = some i) (there : b'.providers.contains (.later n) = true)
      (free : b.providers.request? (.later n) i = none)
      (requests : ∀ m k, b'.providers.request? (.later m) k =
        if m = n ∧ k = i then some id else b.providers.request? (.later m) k)
  /-- The session keeps its request. -/
  | kept (n : String) (s s' : Session) (before : b.sessions.find? id = some ⟨s, some (.later n)⟩)
      (found : b'.sessions.find? id = some ⟨s', some (.later n)⟩) (tended : s.Tended → s'.Tended)
      (downstream : s'.downstream = s.downstream)
      (requests : ∀ n i, b'.providers.request? (.later n) i = b.providers.request? (.later n) i)
  /-- The service is gone, and the session ends with it. -/
  | lost (n : String) (s' : Session) (before : b.Owns (.later n) id)
      (gone : b.providers.contains (.later n) = false)
      (found : b'.sessions.find? id = some ⟨s', some (.later n)⟩) (downstream : s'.downstream = none)
      (requests : ∀ n i, b'.providers.request? (.later n) i = b.providers.request? (.later n) i)
  /-- The session ends, and its request is forgotten. -/
  | released (n : String) (s s' : Session) (before : b.sessions.find? id = some ⟨s, some (.later n)⟩)
      (holds : b.Holds (.later n) id s) (found : b'.sessions.find? id = some ⟨s', some (.later n)⟩)
      (tended : s.Tended → s'.Tended) (downstream : s'.downstream = none)
      (requests : ∀ m k, b'.providers.request? (.later m) k =
        if m = n ∧ s.downstream = some k then none else b.providers.request? (.later m) k)

theorem not_owns_later (hfound : b.sessions.find? id = some ⟨s, provider⟩) (hp : ∀ n, provider ≠ some (.later n))
    (n : String) : ¬b.Owns (.later n) id := by
  rintro ⟨u, hu⟩
  obtain ⟨-, hprovider⟩ := Slot.mk.inj (Option.some.inj (hfound.symm.trans hu))
  exact hp n hprovider

theorem ne_later (hp : ¬∃ n, p = .later n) (n : String) : some p ≠ some (.later n) :=
  fun h => hp ⟨n, Option.some.inj h⟩

namespace Tending

theorem refl (b : Broker) (id : ServerId) : Tending b b id := by
  by_cases howns : ∃ n, b.Owns (.later n) id
  · obtain ⟨n, s, hs⟩ := howns
    exact .kept n s s hs hs (fun h => h) rfl fun _ _ => rfl
  · have hnot : ∀ n, ¬b.Owns (.later n) id := fun n h => howns ⟨n, h⟩
    exact .aside hnot hnot fun _ _ => rfl

/-- A session of another kind of provider is stored anew. -/
theorem of_stored (hfound : b.sessions.find? id = some ⟨s, provider⟩) (hp : ∀ n, provider ≠ some (.later n))
    (hfound' : b'.sessions.find? id = some ⟨s', provider'⟩) (hp' : ∀ n, provider' ≠ some (.later n))
    (hrequests : ∀ n i, b'.providers.request? (.later n) i = b.providers.request? (.later n) i) : Tending b b' id :=
  .aside (not_owns_later hfound hp) (not_owns_later hfound' hp') hrequests

end Tending

/-! ### Creates -/

theorem tending_refuse (hw : b.Waits id s) (next : Phase) : Tending b (b.refuse id s next) id := by
  have hstores := stores_refuse b id s next
  refine .of_stored hw.found (fun _ h => by cases h) (hstores.find?_self hw.found) (fun _ h => by cases h) fun n i => ?_
  rw [hstores.providers]

/-- A session that waits is given to its provider. -/
theorem tending_initiateCreate (hb : b.Orderly) (hw : b.Waits id s) {u : Session} (hu : u.phase = .createRequested)
    (hserver : u.serverId = s.serverId) (hdown : u.downstream = s.downstream) (hab : u.abandoned = s.abandoned)
    (hsessions : c.sessions = b.sessions.modify id fun _ => ⟨u, some p⟩)
    (hdesk : ∀ q, c.providers.desk? q = b.providers.desk? q) (hthere : c.providers.contains p = true) :
    Tending b (c.initiateCreate id p u) id := by
  have hbefore : ∀ n, ¬b.Owns (.later n) id := fun n => hw.not_owned _
  have hthere' := (chores_initiateCreate c id p u).stands.contains hthere
  obtain ⟨s', hstored, hentrusted⟩ := entrusted_initiateCreate hb hw hu hserver hdown hsessions hdesk
  have hself : (c.initiateCreate id p u).sessions.find? id = some ⟨s', some p⟩ := by
    rw [hstored, Table.find?_modify_of _ hw.found]
  by_cases hp : ∃ n, p = .later n
  · obtain ⟨n, rfl⟩ := hp
    cases hentrusted with
    | unposted hrequests hcases =>
      rcases hcases with hnone | ⟨hended, hdown'⟩
      · rw [← hdesk] at hnone
        obtain ⟨d, hd⟩ := Table.contains_eq_true.1 hthere
        cases hnone.symm.trans hd
      · exact .refused n s' hbefore hself (.of_ended hended hdown') hdown' hthere' fun _ _ => hrequests _ _
    | posted d hd hphase hab' hdown' hrequests =>
      have hfree : b.providers.request? (.later n) d.requests.nextFree = none :=
        Registry.request?_nextFree hd (fun _ _ _ hk hl => hb.posted_inj hk hl)
          (hb.request?_ne hw.found (fun _ h => by cases h) _)
      have hnotgiven : s'.abandoned = false := (hab'.trans hab).trans (hb.waiting id s hw).2.2
      refine .posted n d.requests.nextFree s' hbefore hself ⟨?_, fun hgiven => ?_⟩ hdown' hthere' hfree fun m k => ?_
      · rw [hdown', hphase]
        rfl
      · cases hnotgiven.symm.trans hgiven
      · rw [hrequests]
        simp
  · refine .of_stored hw.found (fun _ h => by cases h) hself (ne_later hp) fun n i => ?_
    cases hentrusted with
    | unposted hrequests => exact hrequests _ _
    | posted d _ _ _ _ hrequests => rw [hrequests, if_neg fun h => hp ⟨n, h.1.symm⟩]

theorem tending_routeSession (hb : b.Orderly) (hw : b.Waits id s) : Tending b (b.routeSession id s) id := by
  unfold routeSession
  split
  · exact tending_refuse hw _
  · rename_i route _
    have hdesk := Registry.desk?_find b.providers b.config.retryLimit route.service route.target
    split
    · exact .refl b id
    · exact tending_refuse hw _
    · rename_i p providers heq
      rw [heq] at hdesk
      refine tending_initiateCreate hb hw ?_ ?_ ?_ ?_ rfl hdesk (Registry.contains_of_find heq)
      · split <;> exact hw.phase
      · split <;> rfl
      · split <;> rfl
      · split <;> rfl

theorem tending_route (hb : b.Orderly) (id : ServerId) : Tending b (b.route id) id := by
  unfold route
  split
  · rename_i t hfound
    split
    · rename_i hwaiting
      obtain ⟨s, provider⟩ := t
      obtain ⟨rfl, hphase, -⟩ := Slot.isWaiting_iff.1 hwaiting
      exact tending_routeSession hb ⟨hfound, hphase⟩
    · exact .refl b id
  · exact .refl b id

/-! ### Upgrades -/

/-- An established session is given to its provider to be upgraded. -/
theorem tending_initiateUpgrade (hfound : b.sessions.find? id = some ⟨s, some p⟩)
    (hest : s.phase.isEstablished = true) (q : Quota) : Tending b (b.initiateUpgrade id p s q).2 id := by
  have hrequest := s.requestUpgrade_eq hest q
  have hpending : (s.requestUpgrade q).phase = .upgradeRequested := by rw [hrequest]
  rcases initiateUpgrade_cases b id p s q with hsame | ⟨o, s', hworks, hphase⟩
  · rw [hsame]
    exact .refl b id
  · obtain ⟨env, -, ho⟩ := hworks.given
    have hsame : ∀ n i, (b.initiateUpgrade id p s q).2.providers.request? (.later n) i =
        b.providers.request? (.later n) i := by
      intro n i
      rw [hworks.providers]
      exact Registry.request?_initiate? ho (fun d _ => by rw [Desk.initiate_pending env (.inl hpending)]) _ i
    have hself : (b.initiateUpgrade id p s q).2.sessions.find? id = some ⟨s', some p⟩ := by
      rw [hworks.sessions, Table.find?_modify_of _ hfound]
    by_cases hp : ∃ n, p = .later n
    · obtain ⟨n, rfl⟩ := hp
      obtain ⟨d, hd, -⟩ := Option.map_eq_some_iff.1 ho
      have hd : b.providers.desk? (.later n) = some d := hd
      obtain ⟨herror, hsession⟩ := Registry.initiate?_of_desk? ho hd
      rw [Desk.initiate_pending env (.inl hpending)] at herror hsession
      have hsession : o.session = s.requestUpgrade q := hsession
      obtain ⟨hphase', hab⟩ := hphase herror
      rw [hsession] at hphase' hab
      have hdown : s'.downstream = s.downstream := by rw [hworks.downstream, hsession, hrequest]
      have hab : s'.abandoned = s.abandoned := by rw [hab, hrequest]
      refine .kept n s s' hfound hself (fun h => h.of_live hdown hab (Phase.isEnded_of_established hest) ?_ ?_) hdown
        hsame
      · rintro hclosing
        rw [hclosing] at hest
        cases hest
      · rw [hphase', hpending]
        rfl
    · exact .of_stored hfound (ne_later hp) hself (ne_later hp) hsame

theorem tending_upgrade (b : Broker) (id : ServerId) (q : Quota) : Tending b (b.upgrade id q).2 id := by
  unfold upgrade
  split
  · exact .refl b id
  · rename_i t hfound
    obtain ⟨s, provider⟩ := t
    dsimp only
    split
    · exact .refl b id
    · cases provider with
      | none => exact .refl b id
      | some p =>
        dsimp only
        split
        · rename_i hready
          exact tending_initiateUpgrade hfound (Bool.and_eq_true_iff.1 hready).1 q
        · exact .refl b id

/-! ### Closes -/

/-- A session is given to its provider to be closed. -/
theorem tending_initiateClose (hfound : b.sessions.find? id = some ⟨s, some p⟩) {u : Session}
    (hphase : u.phase = .closeRequested) (hdown : u.downstream = s.downstream) :
    Tending b (b.initiateClose id p u) id := by
  rcases initiateClose_cases b id p u with ⟨hgone, s', hstores, hnone⟩ | ⟨o, s', hworks, ho, hstored⟩
  · have hself := hstores.find?_self hfound
    have hsame : ∀ n i, (b.initiateClose id p u).providers.request? (.later n) i =
        b.providers.request? (.later n) i := by
      intro n i
      rw [hstores.providers]
    by_cases hp : ∃ n, p = .later n
    · obtain ⟨n, rfl⟩ := hp
      exact .lost n s' ⟨s, hfound⟩ (Registry.contains_of_initiate?_none hgone) hself hnone hsame
    · exact .of_stored hfound (ne_later hp) hself (ne_later hp) hsame
  · have hsame : ∀ n i, (b.initiateClose id p u).providers.request? (.later n) i =
        b.providers.request? (.later n) i := by
      intro n i
      rw [hworks.providers]
      exact Registry.request?_initiate? ho (fun d _ => Desk.service_initiate_close b.env hphase) _ i
    have hself : (b.initiateClose id p u).sessions.find? id = some ⟨s', some p⟩ := by
      rw [hworks.sessions, Table.find?_modify_of _ hfound]
    by_cases hp : ∃ n, p = .later n
    · obtain ⟨n, rfl⟩ := hp
      obtain ⟨d, hd, -⟩ := Option.map_eq_some_iff.1 ho
      obtain ⟨-, hsession⟩ := Registry.initiate?_of_desk? (p := .later n) ho hd
      cases hnone : u.downstream with
      | none =>
        -- a session that was never posted is closed at once
        rw [Desk.initiate_unposted b.env hphase hnone] at hsession
        have hsession : o.session = u.closed := hsession
        have hdown' : s'.downstream = none := by
          rw [hworks.downstream, hsession]
          rfl
        refine .kept n s s' hfound hself (fun _ => .of_ended ?_ hdown') (hdown'.trans (hnone.symm.trans hdown)) hsame
        rw [hstored, hsession]
        rfl
      | some i =>
        rw [Desk.initiate_pending b.env (.inr ⟨hphase, by rw [hnone]; rfl⟩)] at hsession
        have hsession : o.session = u := hsession
        have hdown' : s'.downstream = s.downstream := by rw [hworks.downstream, hsession, hdown]
        have hphase' : s'.phase = .closeRequested := by rw [hstored, hsession, hphase]
        exact .kept n s s' hfound hself (fun _ => .of_closing (hdown'.trans (hdown.symm.trans hnone)) hphase') hdown'
          hsame
    · exact .of_stored hfound (ne_later hp) hself (ne_later hp) hsame

theorem tending_close (b : Broker) (id : ServerId) : Tending b (b.close id).2 id := by
  unfold close
  split
  · exact .refl b id
  · rename_i t hfound
    obtain ⟨s, provider⟩ := t
    dsimp only
    split
    · exact .refl b id
    · rename_i hopen
      have hclosed : s.phase ≠ .closed := fun h => hopen (.inl h)
      cases provider with
      | none =>
        exact .of_stored hfound (fun _ h => by cases h) (Table.find?_modify_of _ hfound) (fun _ h => by cases h)
          fun _ _ => rfl
      | some p =>
        simp only [advance_givenUp hclosed]
        exact tending_initiateClose hfound rfl rfl

/-! ### Answers of providers -/

/-- A session that its provider no longer holds is ended. -/
theorem tending_finish (hfound : b.sessions.find? id = some ⟨s, some p⟩)
    (hholds : ∀ n, p = .later n → b.Holds p id s) {u : Session} (hdown : u.downstream = s.downstream) {next : Phase}
    (hended : s.Tended → ({ u with downstream := none }.advance next).phase.isEnded = true) (a : Answer) :
    Tending b (b.finish p id u next a) id := by
  have hself := find?_finish_self hfound u next a
  by_cases hp : ∃ n, p = .later n
  · obtain ⟨n, rfl⟩ := hp
    have hnone : ({ { u with downstream := none }.advance next with donated := 0 } : Session).downstream = none :=
      Session.downstream_advance _ _
    refine .released n s _ hfound (hholds n rfl) hself (fun h => .of_ended (hended h) hnone) hnone fun m k => ?_
    rw [request?_finish hdown]
    simp
  · refine .of_stored hfound (ne_later hp) hself (ne_later hp) fun n i => ?_
    rw [request?_finish hdown, if_neg fun h => hp ⟨n, h.1.symm⟩]

/-- A session that its provider established, or upgraded. -/
theorem tending_established (hfound : b.sessions.find? id = some ⟨s, some p⟩)
    (hphase : s.phase = .createRequested ∨ s.phase = .upgradeRequested) (hdown : s'.downstream = s.downstream) (hab : s'.abandoned = s.abandoned)
    (hphase' : s'.phase = .capHandedOut) (hproviders : c.providers = b.providers)
    (hsessions : c.sessions = b.sessions.modify id fun t => { t with session := s' }) : Tending b c id := by
  have hself : c.sessions.find? id = some ⟨s', some p⟩ := by rw [hsessions, Table.find?_modify_of _ hfound]
  have hsame : ∀ n i, c.providers.request? (.later n) i = b.providers.request? (.later n) i := by
    intro n i
    rw [hproviders]
  obtain ⟨hlive, hopen⟩ : s.phase.isEnded = false ∧ s.phase ≠ .closeRequested := by
    rcases hphase with hphase | hphase <;> rw [hphase] <;> exact ⟨rfl, Phase.noConfusion⟩
  by_cases hp : ∃ n, p = .later n
  · obtain ⟨n, rfl⟩ := hp
    refine .kept n s s' hfound hself (fun h => h.of_live hdown hab hlive hopen ?_) hdown hsame
    rw [hphase']
    rfl
  · exact .of_stored hfound (ne_later hp) hself (ne_later hp) hsame

/-- An answer that fits a session. -/
theorem tending_settle (hfound : b.sessions.find? id = some ⟨s, some p⟩) (hholds : ∀ n, p = .later n → b.Holds p id s)
    {r : Response} (h : b.settle p id s r = some b') : Tending b b' id := by
  unfold settle at h
  dsimp only at h
  split at h
  · rename_i hgiven
    obtain rfl := Option.some.inj h
    obtain ⟨⟨-, hab⟩, halive⟩ : (r.endsCreate = true ∧ s.abandoned = true) ∧ s.isAlive = true := by
      simpa [Bool.and_eq_true] using hgiven
    refine tending_finish hfound hholds ?_ (fun htended => ?_) _
    · rfl
    · rw [Session.advance_closed (s := { s with handle := none, downstream := none }) (htended.not_established hab)]
      rfl
  · cases r with
    | deliver cap =>
      obtain ⟨hphase, h⟩ := Option.ite_none_right_eq_some.1 h
      obtain rfl := Option.some.inj h
      rw [handOut_responded (p := p) hphase, responded_of_live rfl]
      refine tending_established hfound (.inl hphase) ?_ ?_ ?_ rfl rfl
      · rfl
      · rfl
      · rfl
    | upgradeDone =>
      obtain ⟨hphase, h⟩ := Option.ite_none_right_eq_some.1 h
      obtain rfl := Option.some.inj h
      rw [confirm_responded (p := p) hphase, responded_of_live rfl]
      refine tending_established hfound (.inr hphase) ?_ ?_ ?_ rfl rfl
      · rfl
      · rfl
      · rfl
    | denied | insufficientRam | insufficientCaps =>
      obtain ⟨hphase, h⟩ := Option.ite_none_right_eq_some.1 h
      obtain rfl := Option.some.inj h
      refine tending_finish hfound hholds ?_ (fun _ => ?_) _
      · rfl
      · exact isEnded_advance_createFailure (s := { s with notify := false, downstream := none }) hphase rfl
    | closed =>
      obtain ⟨halive, h⟩ := Option.ite_none_right_eq_some.1 h
      obtain rfl := Option.some.inj h
      refine tending_finish hfound hholds ?_ (fun _ => ?_) _
      · split
        · rfl
        · exact Session.downstream_advance _ _
      · rw [advance_closed_of_alive (s := { s with handle := none }) halive]
        rfl

/-- An answer of a provider to a session of it. -/
theorem tending_applyResponse (hown : b.Owns p id) (hbacked : ∀ n, p = .later n → b.Backed id) (r : Response) :
    Tending b (b.applyResponse p id r).2 id := by
  obtain ⟨s, hfound⟩ := hown
  have hholds : ∀ n, p = .later n → b.Holds p id s := by
    rintro n rfl
    exact hbacked n rfl s n hfound
  unfold applyResponse session?
  rw [hfound]
  cases hsettle : b.settle p id s r with
  | none =>
    simp only [Option.map_some, hsettle]
    exact .refl b id
  | some b' =>
    simp only [Option.map_some, hsettle]
    exact tending_settle hfound hholds hsettle

/-- The loss of a service of a child. -/
theorem tending_dismiss (b : Broker) (k : ChildKey) (id : ServerId) : Tending b (b.dismiss k id) id := by
  unfold dismiss
  split
  · exact .refl b id
  · rename_i t hfound
    obtain ⟨s, provider⟩ := t
    split
    · rename_i hlive
      obtain ⟨hprovider, -, -⟩ := hlive
      obtain rfl : provider = some k.provider := hprovider
      have hchild : ∀ n, some k.provider ≠ some (.later n) := fun n h => by cases h
      have hfinish : ∀ {u : Session}, u.downstream = s.downstream → ∀ next a,
          Tending b (b.finish k.provider id u next a) id := by
        intro u hdown next a
        refine .of_stored hfound hchild (find?_finish_self hfound u next a) hchild fun n i => ?_
        rw [request?_finish hdown, if_neg fun h => by cases h.1]
      dsimp only
      split
      · refine hfinish ?_ _ _
        rfl
      · refine hfinish ?_ _ _
        split
        · rfl
        · exact Session.downstream_advance _ _
    · exact .refl b id

/-! ### What is kept -/

/-- Sessions of services that answer later are in order, and their services are there. -/
def Tended (b : Broker) : Prop :=
  ∀ id s n, b.sessions.find? id = some ⟨s, some (.later n)⟩ → s.Tended ∧ b.providers.contains (.later n) = true

/-- Session `id` refers to request `i` at service `n`, but nothing is posted there for it. -/
structure Stranded (b : Broker) (n : String) (id : ServerId) (i : ClientId) : Prop where
  refers : ∃ s, b.sessions.find? id = some ⟨s, some (.later n)⟩ ∧ s.downstream = some i
  unposted : ∀ k, b.providers.request? (.later n) k ≠ some id

namespace Tending

theorem tended (h : Tending b b' id) (hhandles : Handles b b' id) (hb : b.Tended) : b'.Tended := by
  intro j u m hu
  by_cases hj : j = id
  · subst hj
    have hself : ∀ {s' : Session} {n : String}, b'.sessions.find? j = some ⟨s', some (.later n)⟩ → s' = u ∧ n = m := by
      intro s' n hs'
      obtain ⟨hs, hn⟩ := Slot.mk.inj (Option.some.inj (hs'.symm.trans hu))
      exact ⟨hs, Provider.later.inj (Option.some.inj hn)⟩
    cases h with
    | aside _ hafter => exact absurd ⟨u, hu⟩ (hafter m)
    | refused n s' _ hfound htended _ hthere | posted n i s' _ hfound htended _ hthere =>
      obtain ⟨rfl, rfl⟩ := hself hfound
      exact ⟨htended, hthere⟩
    | kept n s s' hbefore hfound htended =>
      obtain ⟨rfl, rfl⟩ := hself hfound
      obtain ⟨hs, hthere⟩ := hb j s n hbefore
      exact ⟨htended hs, hhandles.stands.contains hthere⟩
    | lost n s' hbefore hgone =>
      obtain ⟨s, hs⟩ := hbefore
      cases hgone.symm.trans (hb j s n hs).2
    | released n s s' hbefore _ hfound htended =>
      obtain ⟨rfl, rfl⟩ := hself hfound
      obtain ⟨hs, hthere⟩ := hb j s n hbefore
      exact ⟨htended hs, hhandles.stands.contains hthere⟩
  · rw [hhandles.others j hj] at hu
    obtain ⟨hs, hthere⟩ := hb j u m hu
    exact ⟨hs, hhandles.stands.contains hthere⟩

/-- A request that is posted for another session stays. -/
theorem request?_of_ne (h : Tending b b' id) (hj : j ≠ id) (hi : b.providers.request? (.later n) i = some j) :
    b'.providers.request? (.later n) i = some j := by
  cases h with
  | aside _ _ hrequests | refused _ _ _ _ _ _ _ hrequests | kept _ _ _ _ _ _ _ hrequests | lost _ _ _ _ _ _ hrequests =>
    rw [hrequests, hi]
  | posted m k _ _ _ _ _ _ hfree hrequests =>
    rw [hrequests, if_neg, hi]
    rintro ⟨rfl, rfl⟩
    cases hfree.symm.trans hi
  | released m s _ _ hholds _ _ _ hrequests =>
    rw [hrequests, if_neg, hi]
    rintro ⟨rfl, hdown⟩
    exact hj (Option.some.inj (hi.symm.trans (hholds i hdown)))

theorem backed (h : Tending b b' id) (hhandles : Handles b b' id) (hj : b.Backed j) : b'.Backed j := by
  intro u m hu k hk
  by_cases hid : j = id
  · subst hid
    have hself : ∀ {s' : Session} {n : String}, b'.sessions.find? j = some ⟨s', some (.later n)⟩ → s' = u ∧ n = m := by
      intro s' n hs'
      obtain ⟨hs, hn⟩ := Slot.mk.inj (Option.some.inj (hs'.symm.trans hu))
      exact ⟨hs, Provider.later.inj (Option.some.inj hn)⟩
    cases h with
    | aside _ hafter => exact absurd ⟨u, hu⟩ (hafter m)
    | refused n s' _ hfound _ hnone | lost n s' _ _ hfound hnone | released n s s' _ _ hfound _ hnone =>
      obtain ⟨rfl, rfl⟩ := hself hfound
      cases hnone.symm.trans hk
    | posted n i s' _ hfound _ hdown _ _ hrequests =>
      obtain ⟨rfl, rfl⟩ := hself hfound
      obtain rfl := Option.some.inj (hdown.symm.trans hk)
      rw [hrequests, if_pos ⟨rfl, rfl⟩]
    | kept n s s' hbefore hfound _ hdown hrequests =>
      obtain ⟨rfl, rfl⟩ := hself hfound
      rw [hrequests]
      exact hj s n hbefore k (hdown.symm.trans hk)
  · rw [hhandles.others j hid] at hu
    exact h.request?_of_ne hid (hj u m hu k hk)

theorem stranded (h : Tending b b' id) (hhandles : Handles b b' id) (hb : b.Tended) (hj : b.Stranded n j i) :
    b'.Stranded n j i := by
  obtain ⟨⟨u, hu, hdown⟩, hunposted⟩ := hj
  by_cases hid : j = id
  · subst hid
    cases h with
    | aside hbefore => exact absurd ⟨u, hu⟩ (hbefore n)
    | refused _ _ hbefore => exact absurd ⟨u, hu⟩ (hbefore n)
    | posted _ _ _ hbefore => exact absurd ⟨u, hu⟩ (hbefore n)
    | kept m s s' hbefore hfound _ hsame hrequests =>
      obtain ⟨rfl, hm⟩ := Slot.mk.inj (Option.some.inj (hu.symm.trans hbefore))
      obtain rfl := Provider.later.inj (Option.some.inj hm)
      refine ⟨⟨s', hfound, hsame.trans hdown⟩, fun k => ?_⟩
      rw [hrequests]
      exact hunposted k
    | lost m _ hbefore hgone =>
      obtain ⟨s, hs⟩ := hbefore
      cases hgone.symm.trans (hb j s m hs).2
    | released m s s' hbefore hholds =>
      obtain ⟨rfl, hm⟩ := Slot.mk.inj (Option.some.inj (hu.symm.trans hbefore))
      obtain rfl := Provider.later.inj (Option.some.inj hm)
      exact absurd (hholds i hdown) (hunposted i)
  · refine ⟨⟨u, (hhandles.others j hid).trans hu, hdown⟩, fun k hk => ?_⟩
    exact hunposted k (hhandles.requests _ k j hid hk)

end Tending

end Broker

end SessionBroker
