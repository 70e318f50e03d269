import SessionBroker.Proofs.Histories
import SessionBroker.Proofs.Standing
import SessionBroker.Proofs.Workings

/-!
# SessionBroker.Proofs.Custody — what is done to one session, whatever its provider does

A service of this component may have a behaviour of its own: it may do to a session whatever a session allows.  What is
said here holds whatever the services are.

* `Broker.Orderly`: a posted request belongs to a live session of its provider that refers to it, and a session that
  waits for a provider is untouched.
* `Broker.Handles b b' id`: something is done to session `id`, and to no other one.
* `handles_route`, `handles_upgrade`, `handles_close`, `handles_applyResponse`, `handles_dismiss`: the functions that
  operations are made of do something to one session.
-/

namespace SessionBroker

namespace Registry

variable {r : Registry} {s : Session} {env : Env} {o : Outcome Registry} {p : Provider} {d : Desk}

/-- A provider that works on a session posts requests at its own desk only. -/
theorem desk?_initiate? (h : r.initiate? s env p = some o) (q : Provider) :
    o.service.desk? q = if q = p then (r.desk? p).map fun d => (d.initiate s env).service else r.desk? q := by
  cases p with
  | here n =>
    obtain ⟨v, -, rfl⟩ := Option.map_eq_some_iff.1 h
    cases q with
    | here m => exact (ite_self none).symm
    | later m | parent m | child c m => rfl
  | parent n =>
    obtain ⟨v, -, rfl⟩ := Option.map_eq_some_iff.1 h
    cases q with
    | parent m => exact (ite_self none).symm
    | here m | later m | child c m => rfl
  | later n =>
    obtain ⟨d, hd, rfl⟩ := Option.map_eq_some_iff.1 h
    refine (r.desk?_insert_later n (d.initiate s env).service q).trans ?_
    show _ = if q = .later n then (r.desks.find? n).map _ else _
    rw [hd]
    rfl
  | child c n =>
    obtain ⟨v, hv, rfl⟩ := Option.map_eq_some_iff.1 h
    refine (r.desk?_insert_child c n (v.initiate s env).service q).trans ?_
    show _ = if q = .child c n then ((r.children.find? ⟨c, n⟩).map _).map _ else _
    rw [hv]
    rfl

/-- A provider with a desk does what its desk does. -/
theorem initiate?_of_desk? (h : r.initiate? s env p = some o) (hd : r.desk? p = some d) :
    o.error = (d.initiate s env).error ∧ o.session = (d.initiate s env).session := by
  cases p with
  | here n | parent n => cases hd
  | later n =>
    obtain ⟨d', hd', rfl⟩ := Option.map_eq_some_iff.1 h
    obtain rfl := Option.some.inj (hd'.symm.trans hd)
    exact ⟨rfl, rfl⟩
  | child c n =>
    obtain ⟨v, hv, rfl⟩ := Option.map_eq_some_iff.1 h
    obtain rfl : v.desk = d := by simpa [desk?, hv] using hd
    exact ⟨rfl, rfl⟩

/-- A provider that is not there has no desk. -/
theorem desk?_of_initiate?_none (h : r.initiate? s env p = none) : r.desk? p = none := by
  cases p with
  | here n | parent n => rfl
  | later n => exact Option.map_eq_none_iff.1 h
  | child c n =>
    show (r.children.find? ⟨c, n⟩).map _ = none
    rw [Option.map_eq_none_iff.1 h]
    rfl

/-- Looking a provider up posts nothing. -/
theorem desk?_find (r : Registry) (limit : Word) (service : String) (target : Target) (q : Provider) :
    (r.find limit service target).2.desk? q = r.desk? q := by
  unfold find
  split
  · rfl
  · unfold findParent
    split
    · rfl
    · cases q <;> rfl
  · rfl

/-- A desk that is given a create posts it under its next free id, and nothing else. -/
theorem request?_initiate?_create {id : ServerId} (h : r.initiate? s env p = some o) (hd : r.desk? p = some d)
    (hs : s.phase = .createRequested) (hdown : s.downstream = none) (hid : s.serverId = some id) (q : Provider)
    (i : ClientId) :
    o.service.request? q i = if q = p ∧ i = d.requests.nextFree then some id else r.request? q i := by
  unfold request?
  rw [desk?_initiate? h, hd, Option.map_some, Desk.initiate_create env hs hdown hid]
  by_cases hq : q = p
  · subst hq
    rw [if_pos rfl, hd]
    show (d.requests.alloc id).2.find? i = _
    rw [IdSpace.find?_alloc]
    simp only [true_and]
    rfl
  · rw [if_neg hq, if_neg fun h => hq h.1]

/-- Where the desk of a provider is left as it was, no request appears or goes. -/
theorem request?_initiate? (h : r.initiate? s env p = some o)
    (hsame : ∀ d, r.desk? p = some d → (d.initiate s env).service = d) (q : Provider) (i : ClientId) :
    o.service.request? q i = r.request? q i := by
  unfold request?
  rw [desk?_initiate? h]
  by_cases hq : q = p
  · subst hq
    rw [if_pos rfl]
    cases hd : r.desk? q with
    | none => rfl
    | some d => rw [Option.map_some, hsame d hd]
  · rw [if_neg hq]

end Registry

namespace Broker

variable {new : ServerId → Prop} {b b' b'' c : Broker} {id : ServerId} {s : Session} {p : Provider} {k : ChildKey}

/-- Session `id` waits for a provider. -/
structure Waits (b : Broker) (id : ServerId) (s : Session) : Prop where
  found : b.sessions.find? id = some ⟨s, none⟩
  phase : s.phase = .createRequested

/-- Session `id` was routed to a provider. -/
def Owns (b : Broker) (p : Provider) (id : ServerId) : Prop := ∃ s, b.sessions.find? id = some ⟨s, some p⟩

theorem Owns.eq {q : Provider} (h : b.Owns q id) (hfound : b.sessions.find? id = some ⟨s, some p⟩) : q = p := by
  obtain ⟨u, hu⟩ := h
  obtain ⟨-, hp⟩ := Slot.mk.inj (Option.some.inj (hu.symm.trans hfound))
  exact Option.some.inj hp

/-- Whether posted requests belong to live sessions of their providers, and sessions that wait are untouched. -/
structure Orderly (b : Broker) : Prop where
  posted : ∀ p i id, b.providers.request? p i = some id →
    ∃ s, b.sessions.find? id = some ⟨s, some p⟩ ∧ s.downstream = some i ∧ s.isAlive = true
  waiting : ∀ id s, b.Waits id s → s.serverId = some id ∧ s.downstream = none ∧ s.abandoned = false

/-- Something is done to session `id`, and to no other one. -/
structure Handles (b b' : Broker) (id : ServerId) : Prop where
  stands : b.Stands b'
  others : ∀ j, j ≠ id → b'.sessions.find? j = b.sessions.find? j
  /-- A session that was routed stays with its provider. -/
  routed : ∀ p, b.Owns p id → b'.Owns p id
  requests : ∀ p i j, j ≠ id → b'.providers.request? p i = some j → b.providers.request? p i = some j
  posted : ∀ p i, b'.providers.request? p i = some id →
    ∃ s, b'.sessions.find? id = some ⟨s, some p⟩ ∧ s.downstream = some i ∧ s.isAlive = true
  /-- A session that waits after it has waited before. -/
  waits : ∀ s, b'.Waits id s → b.Waits id s

/-! ### What is posted for a session -/

namespace Orderly

variable {provider : Option Provider}

theorem request?_ne (hb : b.Orderly) (hfound : b.sessions.find? id = some ⟨s, provider⟩)
    (h : ∀ p, provider = some p → s.downstream = none ∨ b.providers.desk? p = none) (p : Provider) (i : ClientId) :
    b.providers.request? p i ≠ some id := by
  intro hi
  obtain ⟨u, hu, hdown, -⟩ := hb.posted p i id hi
  obtain ⟨rfl, rfl⟩ := Slot.mk.inj (Option.some.inj (hfound.symm.trans hu))
  rcases h p rfl with hnone | hnone
  · cases hnone.symm.trans hdown
  · simp [Registry.request?, hnone] at hi

/-- A request of a session is the one that it refers to. -/
theorem request?_eq (hb : b.Orderly) (hfound : b.sessions.find? id = some ⟨s, some p⟩) {q : Provider} {i : ClientId}
    (hi : b.providers.request? q i = some id) : q = p ∧ s.downstream = some i ∧ s.isAlive = true := by
  obtain ⟨u, hu, hdown, halive⟩ := hb.posted q i id hi
  obtain ⟨rfl, hp⟩ := Slot.mk.inj (Option.some.inj (hfound.symm.trans hu))
  exact ⟨(Option.some.inj hp).symm, hdown, halive⟩

/-- Two requests posted at one provider belong to two sessions. -/
theorem posted_inj (hb : b.Orderly) {i j : ClientId} (hi : b.providers.request? p i = some id)
    (hj : b.providers.request? p j = some id) : i = j := by
  obtain ⟨u, hu, hdown, -⟩ := hb.posted p i id hi
  obtain ⟨u', hu', hdown', -⟩ := hb.posted p j id hj
  obtain ⟨rfl, -⟩ := Slot.mk.inj (Option.some.inj (hu.symm.trans hu'))
  exact Option.some.inj (hdown.symm.trans hdown')

end Orderly

namespace Handles

theorem refl (hb : b.Orderly) (id : ServerId) : Handles b b id where
  stands := .refl b
  others _ _ := rfl
  routed _ h := h
  requests _ _ _ _ h := h
  posted p i := hb.posted p i id
  waits _ h := h

/-- Something is done to a session for which nothing is posted. -/
theorem of_unposted (stands : b.Stands b') (others : ∀ j, j ≠ id → b'.sessions.find? j = b.sessions.find? j)
    (routed : ∀ p, b.Owns p id → b'.Owns p id)
    (requests : ∀ p i j, b'.providers.request? p i = some j → b.providers.request? p i = some j)
    (unposted : ∀ p i, b.providers.request? p i ≠ some id) (waits : ∀ s, b'.Waits id s → b.Waits id s) :
    Handles b b' id where
  stands := stands
  others := others
  routed := routed
  requests p i j _ := requests p i j
  posted p i hi := absurd (requests p i id hi) (unposted p i)
  waits := waits

/-- A session that was routed, but for which nothing is posted, is stored anew. -/
theorem of_stored (hfound : b.sessions.find? id = some ⟨s, some p⟩) (stands : b.Stands b') {s' : Session}
    (hsessions : b'.sessions = b.sessions.modify id fun t => { t with session := s' })
    (requests : ∀ p i j, b'.providers.request? p i = some j → b.providers.request? p i = some j)
    (unposted : ∀ p i, b.providers.request? p i ≠ some id) : Handles b b' id := by
  have hself : b'.sessions.find? id = some ⟨s', some p⟩ := by
    rw [hsessions, Table.find?_modify_of _ hfound]
  refine .of_unposted stands (fun j hj => ?_) (fun q hq => ?_) requests unposted fun u hu => ?_
  · rw [hsessions, Table.find?_modify_of_ne _ _ hj]
  · obtain rfl := hq.eq hfound
    exact ⟨s', hself⟩
  · cases hself.symm.trans hu.found

/-- A session that was routed is stored anew, with the request that it refers to. -/
theorem of_kept (hb : b.Orderly) (hfound : b.sessions.find? id = some ⟨s, some p⟩) (stands : b.Stands b') {s' : Session}
    (hsessions : b'.sessions = b.sessions.modify id fun t => { t with session := s' })
    (hrequests : ∀ q i, b'.providers.request? q i = b.providers.request? q i)
    (hdown : s'.downstream = s.downstream) (halive : s'.isAlive = true) : Handles b b' id := by
  have hself : b'.sessions.find? id = some ⟨s', some p⟩ := by
    rw [hsessions, Table.find?_modify_of _ hfound]
  refine
    { stands := stands
      others := fun j hj => by rw [hsessions, Table.find?_modify_of_ne _ _ hj]
      routed := fun q hq => ?_
      requests := fun q i j _ hi => by rwa [hrequests] at hi
      posted := fun q i hi => ?_
      waits := fun u hu => by cases hself.symm.trans hu.found }
  · obtain rfl := hq.eq hfound
    exact ⟨s', hself⟩
  · rw [hrequests] at hi
    obtain ⟨rfl, hi, -⟩ := hb.request?_eq hfound hi
    exact ⟨s', hself, hdown.trans hi, halive⟩

end Handles

/-! ### Creating sessions -/

theorem Waits.not_owned (hw : b.Waits id s) (p : Provider) : ¬b.Owns p id := by
  rintro ⟨u, hu⟩
  cases hw.found.symm.trans hu

/-- A session that is refused waits no longer. -/
theorem not_waits_refuse (hw : b.Waits id s) {next : Phase} (hnext : next.isCreateFailure = true) (u : Session) :
    ¬(b.refuse id s next).Waits id u := by
  intro hu
  have hself : (b.refuse id s next).sessions.find? id = some ⟨{ s with phase := next }, none⟩ := by
    rw [(stores_refuse b id s next).find?_self hw.found, Session.advance_createFailure hw.phase hnext]
  obtain ⟨rfl, -⟩ := Slot.mk.inj (Option.some.inj (hself.symm.trans hu.found))
  have hphase : next = .createRequested := hu.phase
  rw [hphase] at hnext
  cases hnext

theorem handles_refuse (hb : b.Orderly) (hw : b.Waits id s) {next : Phase} (hnext : next.isCreateFailure = true) :
    Handles b (b.refuse id s next) id := by
  have hstores := stores_refuse b id s next
  exact .of_unposted (chores_refuse b id s next).stands (fun _ hj => hstores.find?_of_ne hj)
    (fun p hp => absurd hp (hw.not_owned p)) (fun _ _ _ hi => by rwa [hstores.providers] at hi)
    (hb.request?_ne hw.found fun _ h => by cases h) fun u hu => absurd hu (not_waits_refuse hw hnext u)

/-- A session that was given to a provider stays with it. -/
theorem owns_initiateCreate (hown : c.Owns p id) (u : Session) : (c.initiateCreate id p u).Owns p id := by
  obtain ⟨t, ht⟩ := hown
  rcases initiateCreate_cases c id p u with ⟨u', hstores, -⟩ | ⟨o, u', hworks, -⟩
  · exact ⟨u', hstores.find?_self ht⟩
  · refine ⟨u', ?_⟩
    rw [hworks.sessions, Table.find?_modify_of _ ht]

/-- What comes of session `id`, which waited, when it is given to provider `p` as `u` and stored as `s'`. -/
inductive Entrusted (b b' : Broker) (id : ServerId) (p : Provider) (u s' : Session) : Prop
  /-- It is refused, or the provider answers at once. -/
  | unposted (requests : ∀ q i, b'.providers.request? q i = b.providers.request? q i)
      (ended : b.providers.desk? p = none ∨ s'.phase.isEnded = true ∧ s'.downstream = none)
  /-- The provider posts a request for it under its next free id. -/
  | posted (d : Desk) (desk : b.providers.desk? p = some d) (phase : s'.phase = .createRequested)
      (abandoned : s'.abandoned = u.abandoned) (downstream : s'.downstream = some d.requests.nextFree)
      (requests : ∀ q i, b'.providers.request? q i =
        if q = p ∧ i = d.requests.nextFree then some id else b.providers.request? q i)

variable {u : Session}

/-- A session that waits is given to its provider. -/
theorem entrusted_initiateCreate (hb : b.Orderly) (hw : b.Waits id s) (hu : u.phase = .createRequested)
    (hserver : u.serverId = s.serverId) (hdown : u.downstream = s.downstream)
    (hsessions : c.sessions = b.sessions.modify id fun _ => ⟨u, some p⟩)
    (hdesk : ∀ q, c.providers.desk? q = b.providers.desk? q) :
    ∃ s', (c.initiateCreate id p u).sessions = b.sessions.modify id (fun _ => ⟨s', some p⟩) ∧
      Entrusted b (c.initiateCreate id p u) id p u s' := by
  obtain ⟨hid, hnone, -⟩ := hb.waiting id s hw
  have hrequests : ∀ q i, c.providers.request? q i = b.providers.request? q i := by
    intro q i
    unfold Registry.request?
    rw [hdesk]
  have hstored : ∀ s' : Session, (c.sessions.modify id fun t => { t with session := s' }) =
      b.sessions.modify id fun _ => ⟨s', some p⟩ := by
    intro s'
    rw [hsessions, Table.modify_modify]
  rcases initiateCreate_cases c id p u with ⟨s', hstores, -, hdown', hended⟩ | ⟨o, s', hworks, hpending⟩
  · refine ⟨s', hstores.sessions.trans (hstored s'), .unposted (fun q i => ?_) (.inr ⟨hended hu, ?_⟩)⟩
    · rw [hstores.providers, hrequests]
    · rw [hdown', hdown, hnone]
  · obtain ⟨env, -, ho⟩ := hworks.given
    refine ⟨s', hworks.sessions.trans (hstored s'), ?_⟩
    cases hd : c.providers.desk? p with
    | none =>
      have hsame : ∀ d, c.providers.desk? p = some d → (d.initiate u env).service = d := by
        intro d hd'
        cases hd.symm.trans hd'
      refine .unposted (fun q i => ?_) (.inl ((hdesk p).symm.trans hd))
      rw [hworks.providers, Registry.request?_initiate? ho hsame, hrequests]
    | some d =>
      obtain ⟨herror, hsession⟩ := Registry.initiate?_of_desk? ho hd
      rw [Desk.initiate_create env hu (hdown.trans hnone) (hserver.trans hid)] at herror hsession
      obtain ⟨hphase, hab⟩ := hpending (by rw [hsession]; exact hu) herror
      refine .posted d ((hdesk p).symm.trans hd) hphase ?_ ?_ fun q i => ?_
      · rw [hab, hsession]
      · rw [hworks.downstream, hsession]
      · rw [hworks.providers, Registry.request?_initiate?_create ho hd hu (hdown.trans hnone) (hserver.trans hid),
          hrequests]

/-- A session that waits is handled by its provider. -/
theorem handles_initiateCreate (hb : b.Orderly) (hw : b.Waits id s) (hu : u.phase = .createRequested)
    (hserver : u.serverId = s.serverId) (hdown : u.downstream = s.downstream) (hstands : b.Stands c)
    (hsessions : c.sessions = b.sessions.modify id fun _ => ⟨u, some p⟩)
    (hdesk : ∀ q, c.providers.desk? q = b.providers.desk? q) : Handles b (c.initiateCreate id p u) id := by
  have hunposted := hb.request?_ne hw.found fun _ h => by cases h
  have hall := hstands.trans (chores_initiateCreate c id p u).stands
  have hrouted : ∀ q, b.Owns q id → (c.initiateCreate id p u).Owns q id := fun q hq => absurd hq (hw.not_owned q)
  obtain ⟨s', hstored, hentrusted⟩ := entrusted_initiateCreate hb hw hu hserver hdown hsessions hdesk
  have hself : (c.initiateCreate id p u).sessions.find? id = some ⟨s', some p⟩ := by
    rw [hstored, Table.find?_modify_of _ hw.found]
  have hothers : ∀ j, j ≠ id → (c.initiateCreate id p u).sessions.find? j = b.sessions.find? j := by
    intro j hj
    rw [hstored, Table.find?_modify_of_ne _ _ hj]
  have hwaits : ∀ v, (c.initiateCreate id p u).Waits id v → b.Waits id v := by
    intro v hv
    cases hself.symm.trans hv.found
  cases hentrusted with
  | unposted hrequests =>
    exact .of_unposted hall hothers hrouted (fun q i j hi => by rwa [hrequests] at hi) hunposted hwaits
  | posted d _ hphase _ hdown' hrequests =>
    have hposts : ∀ q i j, (c.initiateCreate id p u).providers.request? q i = some j →
        (q = p ∧ i = d.requests.nextFree ∧ j = id) ∨ b.providers.request? q i = some j := by
      intro q i j hi
      rw [hrequests] at hi
      split at hi
      · rename_i hfree
        exact .inl ⟨hfree.1, hfree.2, (Option.some.inj hi).symm⟩
      · exact .inr hi
    refine
      { stands := hall
        others := hothers
        routed := hrouted
        requests := fun q i j hj hi => ?_
        posted := fun q i hi => ?_
        waits := hwaits }
    · rcases hposts q i j hi with ⟨-, -, rfl⟩ | hi
      · exact absurd rfl hj
      · exact hi
    · rcases hposts q i id hi with ⟨rfl, rfl, -⟩ | hi
      · exact ⟨s', hself, hdown', Session.isAlive_of_ne_closed (by rw [hphase]; exact Phase.noConfusion)⟩
      · exact absurd hi (hunposted q i)

theorem handles_routeSession (hb : b.Orderly) (hw : b.Waits id s) : Handles b (b.routeSession id s) id := by
  unfold routeSession
  split
  · exact handles_refuse hb hw rfl
  · rename_i route _
    have hstands := Registry.stands_find b.providers b.config.retryLimit route.service route.target
    have hdesk := Registry.desk?_find b.providers b.config.retryLimit route.service route.target
    split
    · exact .refl hb id
    · exact handles_refuse hb hw rfl
    · rename_i p providers heq
      rw [heq] at hstands hdesk
      refine handles_initiateCreate hb hw ?_ ?_ ?_ ⟨rfl, rfl, hstands⟩ rfl hdesk
      · split <;> exact hw.phase
      · split <;> rfl
      · split <;> rfl

/-- A session that waits although it was routed waits for a provider that may still appear. -/
theorem absent_of_waits (hw : b.Waits id s) {u : Session} (hu : (b.routeSession id s).Waits id u) :
    ∃ route, resolve b.rules s.service s.label = .ok route ∧
      (b.providers.find b.config.retryLimit route.service route.target).1 = .absent := by
  unfold routeSession at hu
  split at hu
  · exact absurd hu (not_waits_refuse hw rfl u)
  · rename_i route hroute
    split at hu
    · rename_i heq
      exact ⟨route, hroute, by rw [heq]⟩
    · exact absurd hu (not_waits_refuse hw rfl u)
    · refine absurd (owns_initiateCreate ?_ _) (hu.not_owned _)
      refine ⟨if route.relabels s.label then s.relabel route.label else s, ?_⟩
      exact Table.find?_modify_of _ hw.found

theorem handles_route (hb : b.Orderly) (id : ServerId) : Handles b (b.route id) id := by
  unfold route
  split
  · rename_i t hfound
    split
    · rename_i hwaiting
      obtain ⟨s, provider⟩ := t
      obtain ⟨rfl, hphase, -⟩ := Slot.isWaiting_iff.1 hwaiting
      exact handles_routeSession hb ⟨hfound, hphase⟩
    · exact .refl hb id
  · exact .refl hb id

/-! ### Upgrades -/

/-- An established session is given to its provider to be upgraded. -/
theorem handles_initiateUpgrade (hb : b.Orderly) (hfound : b.sessions.find? id = some ⟨s, some p⟩)
    (hest : s.phase.isEstablished = true) (q : Quota) : Handles b (b.initiateUpgrade id p s q).2 id := by
  have hrequest := s.requestUpgrade_eq hest q
  have hpending : (s.requestUpgrade q).phase = .upgradeRequested := by rw [hrequest]
  rcases initiateUpgrade_cases b id p s q with hsame | ⟨o, s', hworks, hphase⟩
  · rw [hsame]
    exact .refl hb id
  · obtain ⟨env, -, ho⟩ := hworks.given
    have hrequests : ∀ q i, o.service.request? q i = b.providers.request? q i :=
      Registry.request?_initiate? ho fun d _ => by rw [Desk.initiate_pending env (.inl hpending)]
    cases hd : b.providers.desk? p with
    | none =>
      have hunposted := hb.request?_ne hfound fun p' hp' => by
        obtain rfl := Option.some.inj hp'
        exact .inr hd
      exact .of_stored hfound hworks.chores.stands hworks.sessions
        (fun q i j hi => by rwa [hworks.providers, hrequests] at hi) hunposted
    | some d =>
      obtain ⟨herror, hsession⟩ := Registry.initiate?_of_desk? ho hd
      rw [Desk.initiate_pending env (.inl hpending)] at herror hsession
      have hsession : o.session = s.requestUpgrade q := hsession
      refine .of_kept hb hfound hworks.chores.stands hworks.sessions
        (fun q i => by rw [hworks.providers]; exact hrequests q i) ?_ (Session.isAlive_of_ne_closed ?_)
      · rw [hworks.downstream, hsession, hrequest]
      · rw [(hphase herror).1, hsession, hpending]
        exact Phase.noConfusion

theorem handles_upgrade (hb : b.Orderly) (id : ServerId) (q : Quota) : Handles b (b.upgrade id q).2 id := by
  unfold upgrade
  split
  · exact .refl hb id
  · rename_i t hfound
    obtain ⟨s, provider⟩ := t
    dsimp only
    split
    · exact .refl hb id
    · cases provider with
      | none => exact .refl hb id
      | some p =>
        dsimp only
        split
        · rename_i hready
          exact handles_initiateUpgrade hb hfound (Bool.and_eq_true_iff.1 hready).1 q
        · exact .refl hb id

/-! ### Closes -/

/-- A session is given to its provider to be closed. -/
theorem handles_initiateClose (hb : b.Orderly) (hfound : b.sessions.find? id = some ⟨s, some p⟩) {u : Session}
    (hphase : u.phase = .closeRequested) (hdown : u.downstream = s.downstream) :
    Handles b (b.initiateClose id p u) id := by
  rcases initiateClose_cases b id p u with ⟨hgone, s', hstores, -⟩ | ⟨o, s', hworks, ho, hstored⟩
  · refine .of_stored hfound hstores.chores.stands hstores.sessions
      (fun _ _ _ hi => by rwa [hstores.providers] at hi) (hb.request?_ne hfound fun p' hp' => ?_)
    obtain rfl := Option.some.inj hp'
    exact .inr (Registry.desk?_of_initiate?_none hgone)
  · have hrequests : ∀ q i, o.service.request? q i = b.providers.request? q i :=
      Registry.request?_initiate? ho fun d _ => Desk.service_initiate_close b.env hphase
    by_cases hkept : ∃ d i, b.providers.desk? p = some d ∧ s.downstream = some i
    · obtain ⟨d, i, hd, hi⟩ := hkept
      obtain ⟨-, hsession⟩ := Registry.initiate?_of_desk? ho hd
      rw [Desk.initiate_pending b.env (.inr ⟨hphase, by rw [hdown, hi]; rfl⟩)] at hsession
      have hsession : o.session = u := hsession
      refine .of_kept hb hfound hworks.chores.stands hworks.sessions
        (fun q i => by rw [hworks.providers]; exact hrequests q i) ?_ (Session.isAlive_of_ne_closed ?_)
      · rw [hworks.downstream, hsession, hdown]
      · rw [hstored, hsession, hphase]
        exact Phase.noConfusion
    · have hunposted := hb.request?_ne hfound fun p' hp' => by
        obtain rfl := Option.some.inj hp'
        cases hd : b.providers.desk? p with
        | none => exact .inr rfl
        | some d =>
          refine .inl ?_
          cases hi : s.downstream with
          | none => rfl
          | some i => exact absurd ⟨d, i, hd, hi⟩ hkept
      exact .of_stored hfound hworks.chores.stands hworks.sessions
        (fun _ _ _ hi => by rwa [hworks.providers, hrequests] at hi) hunposted

theorem handles_close (hb : b.Orderly) (id : ServerId) : Handles b (b.close id).2 id := by
  have hstands := (chores_close b id).stands
  unfold close at hstands ⊢
  split
  · exact .refl hb id
  · rename_i t hfound
    obtain ⟨s, provider⟩ := t
    rw [hfound] at hstands
    dsimp only at hstands ⊢
    split
    · exact .refl hb id
    · rename_i hopen
      have hclosed : s.phase ≠ .closed := fun h => hopen (.inl h)
      rw [if_neg hopen] at hstands
      cases provider with
      | none =>
        have hrouted : ∀ p, ¬b.Owns p id := by
          rintro p ⟨u, hu⟩
          cases hfound.symm.trans hu
        refine .of_unposted hstands (fun _ hj => Table.find?_modify_of_ne _ _ hj) (fun p hp => absurd hp (hrouted p))
          (fun _ _ _ hi => hi) (hb.request?_ne hfound fun _ h => by cases h) fun u hu => ?_
        have hself := hu.found
        simp only [answer, setSession, Table.find?_modify_self, hfound, Option.map_some] at hself
        obtain ⟨rfl, -⟩ := Slot.mk.inj (Option.some.inj hself)
        -- what waits may be closed at once
        by_cases hphase : s.phase = .createRequested
        · have hu := hu.phase
          simp [hphase, Session.perform, Session.advance, Session.permits, Phase.canReach, Phase.next] at hu
        · have hu := hu.phase
          rw [if_neg hphase] at hu
          unfold Session.advance at hu
          split at hu
          · cases hu
          · exact absurd hu hphase
      | some p =>
        simp only [advance_givenUp hclosed]
        exact handles_initiateClose hb hfound rfl rfl

/-! ### Answers of providers -/

theorem request?_finish {u : Session} (hdown : u.downstream = s.downstream) (next : Phase) (a : Answer) (q : Provider)
    (i : ClientId) :
    (b.finish p id u next a).providers.request? q i =
      if q = p ∧ s.downstream = some i then none else b.providers.request? q i := by
  rw [finish_eq]
  show (b.release p u).providers.request? q i = _
  unfold release
  rw [hdown]
  cases s.downstream with
  | none => simp
  | some j =>
    refine (Registry.request?_release b.providers j i p q).trans ?_
    simp [eq_comm]

theorem find?_finish_self (hfound : b.sessions.find? id = some ⟨s, some p⟩) (u : Session) (next : Phase) (a : Answer) :
    (b.finish p id u next a).sessions.find? id =
      some ⟨{ { u with downstream := none }.advance next with donated := 0 }, some p⟩ := by
  rw [finish_eq]
  exact Table.find?_modify_of _ hfound

/-- A session that its provider no longer holds is ended, and its request is forgotten. -/
theorem handles_finish (hb : b.Orderly) (hfound : b.sessions.find? id = some ⟨s, some p⟩) {u : Session}
    (hdown : u.downstream = s.downstream) (next : Phase) (a : Answer) : Handles b (b.finish p id u next a) id := by
  have hrequests : ∀ q i, (b.finish p id u next a).providers.request? q i =
      if q = p ∧ s.downstream = some i then none else b.providers.request? q i := request?_finish hdown next a
  have hself := find?_finish_self hfound u next a
  refine
    { stands := (chores_finish b id p u next a).stands
      others := fun j hj => by rw [finish_eq]; exact Table.find?_modify_of_ne _ _ hj
      routed := fun q hq => ?_
      requests := fun q i j _ hi => ?_
      posted := fun q i hi => ?_
      waits := fun v hv => by cases hself.symm.trans hv.found }
  · obtain rfl := hq.eq hfound
    exact ⟨_, hself⟩
  · rw [hrequests] at hi
    split at hi
    · cases hi
    · exact hi
  · rw [hrequests] at hi
    split at hi
    · cases hi
    · rename_i hother
      obtain ⟨rfl, hi, -⟩ := hb.request?_eq hfound hi
      exact absurd ⟨rfl, hi⟩ hother

theorem handles_settle (hb : b.Orderly) (hfound : b.sessions.find? id = some ⟨s, some p⟩) {r : Response}
    (h : b.settle p id s r = some b') : Handles b b' id := by
  have hstands := (chores_settle b id p s h).stands
  unfold settle at h
  dsimp only at h
  split at h
  · obtain rfl := Option.some.inj h
    refine handles_finish hb hfound ?_ _ _
    rfl
  · cases r with
    | deliver cap =>
      obtain ⟨hphase, h⟩ := Option.ite_none_right_eq_some.1 h
      obtain rfl := Option.some.inj h
      rw [handOut_responded (p := p) hphase, responded_of_live rfl] at hstands ⊢
      exact .of_kept hb hfound hstands rfl (fun _ _ => rfl) rfl rfl
    | upgradeDone =>
      obtain ⟨hphase, h⟩ := Option.ite_none_right_eq_some.1 h
      obtain rfl := Option.some.inj h
      rw [confirm_responded (p := p) hphase, responded_of_live rfl] at hstands ⊢
      exact .of_kept hb hfound hstands rfl (fun _ _ => rfl) rfl rfl
    | denied | insufficientRam | insufficientCaps =>
      obtain ⟨-, h⟩ := Option.ite_none_right_eq_some.1 h
      obtain rfl := Option.some.inj h
      refine handles_finish hb hfound ?_ _ _
      rfl
    | closed =>
      obtain ⟨-, h⟩ := Option.ite_none_right_eq_some.1 h
      obtain rfl := Option.some.inj h
      refine handles_finish hb hfound ?_ _ _
      split
      · rfl
      · exact Session.downstream_advance _ _

/-- An answer of a provider to a session of it. -/
theorem handles_applyResponse (hb : b.Orderly) (hown : b.Owns p id) (r : Response) :
    Handles b (b.applyResponse p id r).2 id := by
  obtain ⟨s, hfound⟩ := hown
  unfold applyResponse session?
  rw [hfound]
  cases hsettle : b.settle p id s r with
  | none =>
    simp only [Option.map_some, hsettle]
    exact .refl hb id
  | some b' =>
    simp only [Option.map_some, hsettle]
    exact handles_settle hb hfound hsettle

theorem handles_dismiss (hb : b.Orderly) (k : ChildKey) (id : ServerId) : Handles b (b.dismiss k id) id := by
  unfold dismiss
  split
  · exact .refl hb id
  · rename_i t hfound
    obtain ⟨s, provider⟩ := t
    split
    · rename_i hlive
      obtain ⟨hprovider, -, -⟩ := hlive
      obtain rfl : provider = some k.provider := hprovider
      dsimp only
      split
      · refine handles_finish hb hfound ?_ _ _
        rfl
      · refine handles_finish hb hfound ?_ _ _
        split
        · rfl
        · exact Session.downstream_advance _ _
    · exact .refl hb id

end Broker

end SessionBroker
