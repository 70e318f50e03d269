import SessionBroker.Proofs.ParentRequests

/-!
# SessionBroker.Proofs.Announcing — a service that is announced before or after a create

A session whose provider is not there waits for it, and is routed when the provider comes.  So it does not matter
whether a service is announced before or after a session of it is created.

* `Broker.withService b k v`: the broker with a service of a child put in place.
* `initiateCreate_withService`, `routeSession_withService`: a session of any other provider is created as before.
* `Broker.RoutedApart b b' id k`: routing a session leaves the other sessions and the service alone.
* `Broker.announceWith`: an announcement of a service with any bell.
* `create_announce_comm`: a create and an announcement may be done in either order.
-/

namespace SessionBroker

namespace Registry

/-- The providers with a service of a child put in place. -/
def withService (r : Registry) (k : ChildKey) (v : ChildService) : Registry :=
  { r with children := r.children.insert k v }

variable {r : Registry} {k : ChildKey} {v : ChildService} {p : Provider} {s : Session} {env : Env}

theorem find?_withService_of_ne {c n : String} (h : .child c n ≠ k.provider) :
    (r.withService k v).children.find? ⟨c, n⟩ = r.children.find? ⟨c, n⟩ :=
  Table.find?_insert_of_ne r.children v fun hk => h (congrArg ChildKey.provider hk)

theorem account_withService (h : p ≠ k.provider) : (r.withService k v).account p = r.account p := by
  cases p with
  | here n | later n | parent n => rfl
  | child c n => exact congrArg (Option.map (·.account)) (find?_withService_of_ne h)

theorem isAsync_withService (p : Provider) : (r.withService k v).isAsync p = r.isAsync p := by
  cases p <;> rfl

theorem wake_withService (h : p ≠ k.provider) (env : Env) : (r.withService k v).wake env p = r.wake env p := by
  cases p with
  | here n | later n | parent n => rfl
  | child c n => exact congrArg (fun o => (Option.map (fun v => v.desk.wake env) o).getD env) (find?_withService_of_ne h)

/-- Any other provider works on a session as before. -/
theorem initiate?_withService (h : p ≠ k.provider) (s : Session) (env : Env) :
    (r.withService k v).initiate? s env p = (r.initiate? s env p).map (Outcome.map (·.withService k v)) := by
  cases p with
  | here n | later n | parent n =>
    simp only [initiate?, Option.map_map]
    rfl
  | child c n =>
    have hkey : ChildKey.mk c n ≠ k := fun hk => h (congrArg ChildKey.provider hk)
    simp only [initiate?, Option.map_map, find?_withService_of_ne h]
    refine congrArg (Option.map · (r.children.find? ⟨c, n⟩)) ?_
    funext u
    simp only [Function.comp, Outcome.map, withService, Table.insert_comm _ hkey]

/-- Any other provider is found as before. -/
theorem find_withService {limit : Word} {service : String} {target : Target}
    (habsent : (r.find limit service target).1 ≠ .absent)
    (hother : (r.find limit service target).1 ≠ .found k.provider) :
    (r.withService k v).find limit service target =
      ((r.find limit service target).1, (r.find limit service target).2.withService k v) := by
  cases target with
  | here n => rfl
  | parent n =>
    simp only [find, findParent]
    have hparents : (r.withService k v).parents = r.parents := rfl
    rw [hparents]
    split <;> rfl
  | child c =>
    have hne : Provider.child c service ≠ k.provider := by
      intro hk
      simp only [find, findChild] at habsent hother
      split at hother
      · exact hother (congrArg Lookup.found hk)
      · rename_i hclosed
        exact habsent (if_neg hclosed)
    simp only [find, findChild, find?_withService_of_ne hne]

theorem children_find (r : Registry) (limit : Word) (service : String) (target : Target) :
    (r.find limit service target).2.children = r.children := by
  unfold find
  split
  · rfl
  · unfold findParent
    split <;> rfl
  · rfl

/-- A provider that works on a session leaves the services of the others alone. -/
theorem children_initiate?_of_ne {o : Outcome Registry} (h : r.initiate? s env p = some o) (hp : p ≠ k.provider) :
    o.service.children.find? k = r.children.find? k := by
  cases p with
  | here n | later n | parent n =>
    obtain ⟨u, -, rfl⟩ := Option.map_eq_some_iff.1 h
    rfl
  | child c n =>
    obtain ⟨u, -, rfl⟩ := Option.map_eq_some_iff.1 h
    exact Table.find?_insert_of_ne r.children _ fun hk => hp (congrArg ChildKey.provider hk.symm)

end Registry

/-- A service that a child announces, with a bell of its own choice or none. -/
def ChildService.announcedWith (k : ChildKey) (account : AccountId) (bell : Option String) : ChildService where
  child := k.child
  desk := { name := k.service, bell }
  account := account

namespace Broker

variable {b b' : Broker} {k : ChildKey} {v : ChildService} {id : ServerId} {p : Provider} {s : Session}

/-! ### Creating a session of another provider -/

/-- The broker with a service of a child put in place. -/
def withService (b : Broker) (k : ChildKey) (v : ChildService) : Broker :=
  { b with providers := b.providers.withService k v }

@[simp] theorem withService_env (b : Broker) (k : ChildKey) (v : ChildService) : (b.withService k v).env = b.env := rfl

@[simp] theorem withService_config (b : Broker) (k : ChildKey) (v : ChildService) :
    (b.withService k v).config = b.config := rfl

@[simp] theorem withService_rules (b : Broker) (k : ChildKey) (v : ChildService) :
    (b.withService k v).rules = b.rules := rfl

@[simp] theorem withService_sessions (b : Broker) (k : ChildKey) (v : ChildService) :
    (b.withService k v).sessions = b.sessions := rfl

@[simp] theorem withService_providers (b : Broker) (k : ChildKey) (v : ChildService) :
    (b.withService k v).providers = b.providers.withService k v := rfl

theorem refuse_withService (b : Broker) (id : ServerId) (s : Session) (next : Phase) :
    (b.withService k v).refuse id s next = (b.refuse id s next).withService k v := by
  unfold refuse
  dsimp only
  split <;> rfl

theorem requestsFor_withService (h : p ≠ k.provider) (b : Broker) :
    (b.withService k v).requestsFor p = b.requestsFor p := by
  cases p with
  | here n | later n | parent n => rfl
  | child c n =>
    simp only [requestsFor, withService_providers, Registry.find?_withService_of_ne h]
    rfl

theorem wakeIfAsync_withService (h : p ≠ k.provider) (b : Broker) :
    (b.withService k v).wakeIfAsync p = (b.wakeIfAsync p).withService k v := by
  unfold wakeIfAsync
  rw [requestsFor_withService h, withService_providers, Registry.isAsync_withService, withService_env,
    Registry.wake_withService h]
  split <;> rfl

theorem handOut_withService (b : Broker) (id : ServerId) (s : Session) :
    (b.withService k v).handOut id s = (b.handOut id s).withService k v := by
  unfold handOut
  split <;> rfl

theorem concludeCreate_withService (h : p ≠ k.provider) (b : Broker) (id : ServerId) (s : Session)
    (error : Option SessionError) :
    (b.withService k v).concludeCreate id p s error = (b.concludeCreate id p s error).withService k v := by
  unfold concludeCreate
  split
  · exact handOut_withService b id s
  · exact wakeIfAsync_withService h (b.setSession id s)
  · exact refuse_withService b id s _
  · rfl
  · exact refuse_withService b id s _

theorem donate_withService (b : Broker) (payee : AccountRef) (q : Quota) :
    (b.withService k v).donate payee q = (b.donate payee q).map (·.withService k v) := by
  unfold donate ownAccount
  rw [withService_env]
  split <;> rfl

/-- A session of any other provider is created as before. -/
theorem initiateCreate_withService (h : p ≠ k.provider) (b : Broker) (id : ServerId) (s : Session) :
    (b.withService k v).initiateCreate id p s = (b.initiateCreate id p s).withService k v := by
  unfold initiateCreate
  dsimp only
  rw [donate_withService, withService_providers, Registry.account_withService h]
  cases b.donate (b.providers.account p) s.resources with
  | error e => exact refuse_withService b id s _
  | ok paid =>
    simp only [Except.map, withService_env, Registry.initiate?_withService h]
    cases b.providers.initiate? s paid.env p with
    | none => exact refuse_withService b id s _
    | some o =>
      simp only [Option.map_some, Outcome.map]
      split
      · exact concludeCreate_withService h { b with env := o.env, providers := o.service } id _ _
      · exact concludeCreate_withService h (takeBack { b with env := o.env, providers := o.service } _ _) id _ _

/-- Routing does not send a session to service `k`, and does not let it wait. -/
def RoutesElsewhere (b : Broker) (s : Session) (k : ChildKey) : Prop :=
  ∀ route, resolve b.rules s.service s.label = .ok route →
    (b.providers.find b.config.retryLimit route.service route.target).1 ≠ .absent ∧
      (b.providers.find b.config.retryLimit route.service route.target).1 ≠ .found k.provider

/-- A session that is not for the service is routed as before. -/
theorem routeSession_withService (h : b.RoutesElsewhere s k) (id : ServerId) :
    (b.withService k v).routeSession id s = (b.routeSession id s).withService k v := by
  unfold routeSession
  rw [withService_rules, withService_providers, withService_config]
  split
  · exact refuse_withService b id s _
  · rename_i route hresolve
    obtain ⟨habsent, hother⟩ := h route hresolve
    rw [Registry.find_withService habsent hother]
    cases hlookup : b.providers.find b.config.retryLimit route.service route.target with
    | mk found providers =>
      rw [hlookup] at habsent hother
      cases found with
      | absent => exact absurd rfl habsent
      | missing => exact refuse_withService b id s _
      | found p =>
        have hp : p ≠ k.provider := fun hp => hother (congrArg Lookup.found hp)
        exact initiateCreate_withService hp { b with providers, sessions := b.sessions.modify id fun _ => _ } id _

/-! ### What routing a session leaves alone -/

/-- A create is concluded in the slot of its session, and the services of other providers are left alone. -/
theorem sessions_initiateCreate (b : Broker) (id : ServerId) (p : Provider) (s : Session) :
    (∃ s', (b.initiateCreate id p s).sessions = b.sessions.modify id fun t => { t with session := s' }) ∧
      ∀ k : ChildKey, p ≠ k.provider →
        (b.initiateCreate id p s).providers.children.find? k = b.providers.children.find? k := by
  rcases initiateCreate_cases b id p s with ⟨s', hstores, -⟩ | ⟨o, s', hworks, -⟩
  · exact ⟨⟨s', hstores.sessions⟩, fun k _ => by rw [hstores.providers]⟩
  · obtain ⟨env, -, hgiven⟩ := hworks.given
    refine ⟨⟨s', hworks.sessions⟩, fun k hp => ?_⟩
    rw [hworks.providers]
    exact Registry.children_initiate?_of_ne hgiven hp

/-- What routing session `id` leaves alone: the other sessions, and service `k`. -/
structure RoutedApart (b b' : Broker) (id : ServerId) (k : ChildKey) : Prop where
  others : ∀ j, j ≠ id → b'.sessions.find? j = b.sessions.find? j
  service : b'.providers.children.find? k = b.providers.children.find? k
  /-- The session waits no longer. -/
  settled : ∀ t, b'.sessions.find? id = some t → t.isWaiting = false

theorem routedApart_routeSession (hfound : b.sessions.find? id = some ⟨s, none⟩) (hs : s.phase = .createRequested)
    (h : b.RoutesElsewhere s k) : RoutedApart b (b.routeSession id s) id k := by
  have hrefuse : RoutedApart b (b.refuse id s .serviceDenied) id k := by
    have hstores := stores_refuse b id s .serviceDenied
    refine ⟨fun j hj => hstores.find?_of_ne hj, by rw [hstores.providers], fun t ht => ?_⟩
    obtain rfl := Option.some.inj ((hstores.find?_self hfound).symm.trans ht)
    have hdenied : (s.advance .serviceDenied).phase = .serviceDenied := by rw [Session.advance_createFailure hs rfl]
    simp [Slot.isWaiting, hdenied]
  unfold routeSession
  split
  · exact hrefuse
  · rename_i route hresolve
    obtain ⟨habsent, hother⟩ := h route hresolve
    have hchildren := Registry.children_find b.providers b.config.retryLimit route.service route.target
    cases hlookup : b.providers.find b.config.retryLimit route.service route.target with
    | mk found providers =>
      rw [hlookup] at habsent hother hchildren
      cases found with
      | absent => exact absurd rfl habsent
      | missing => exact hrefuse
      | found p =>
        have hp : p ≠ k.provider := fun hp => hother (congrArg Lookup.found hp)
        dsimp only
        generalize (if route.relabels s.label then s.relabel route.label else s) = u
        obtain ⟨⟨s', hsessions⟩, hservice⟩ := sessions_initiateCreate
          { b with providers, sessions := b.sessions.modify id fun _ => ⟨u, some p⟩ } id p u
        refine ⟨fun j hj => ?_, (hservice k hp).trans ?_, fun t ht => ?_⟩
        · rw [hsessions, Table.find?_modify_of_ne _ _ hj, Table.find?_modify_of_ne _ _ hj]
        · exact congrArg (·.find? k) hchildren
        · rw [hsessions, Table.modify_modify, Table.find?_modify_of _ hfound] at ht
          obtain rfl := Option.some.inj ht
          rfl

/-! ### Announcements -/

/-- Register a service announced by a child, with a bell of its own choice or none. -/
def announceWith (b : Broker) (k : ChildKey) (account : AccountId) (bell : Option String) : Broker :=
  if b.isTaken k then b
  else (b.withService k (.announcedWith k account bell)).retryWaiting

/-- A child is woken under its own name and that of the service. -/
theorem announce_eq (b : Broker) (k : ChildKey) (account : AccountId) :
    b.announce k account = b.announceWith k account (some (k.child ++ "/" ++ k.service)) := rfl

/-- No session waits for a provider. -/
def NoneWaits (b : Broker) : Prop := ∀ id t, b.sessions.find? id = some t → t.isWaiting = false

theorem retryWaiting_of_noneWaits (h : b.NoneWaits) : b.retryWaiting = b := by
  have hnone : b.sessions.filter (fun _ t => t.isWaiting) = ∅ := by
    refine Table.ext_find? fun id => ?_
    rw [Table.find?_filter]
    cases ht : b.sessions.find? id with
    | none => rfl
    | some t => simp [h id t ht]
  unfold retryWaiting
  rw [hnone]
  rfl

/-- If one session alone waits, it alone is routed again. -/
theorem retryWaiting_of_one {t : Slot} (ht : b.sessions.find? id = some t) (hwaits : t.isWaiting = true)
    (hothers : ∀ j u, j ≠ id → b.sessions.find? j = some u → u.isWaiting = false) : b.retryWaiting = b.route id := by
  have hone : b.sessions.filter (fun _ t => t.isWaiting) = (∅ : Table ServerId Slot).insert id t := by
    refine Table.ext_find? fun j => ?_
    rw [Table.find?_filter]
    by_cases hj : j = id
    · subst hj
      simp [ht, hwaits]
    · rw [Table.find?_insert_of_ne _ _ hj]
      cases hu : b.sessions.find? j with
      | none => rfl
      | some u => simp [hothers j u hj hu]
  unfold retryWaiting
  rw [hone]
  rfl

theorem isTaken_congr (h : b'.providers.children.find? k = b.providers.children.find? k) :
    b'.isTaken k = b.isTaken k := by
  unfold isTaken
  rw [h]

theorem announceWith_of_isTaken (h : b.isTaken k = true) (account : AccountId) (bell : Option String) :
    b.announceWith k account bell = b := if_pos h

theorem announceWith_of_not_isTaken (h : b.isTaken k = false) (account : AccountId) (bell : Option String) :
    b.announceWith k account bell =
      (b.withService k (.announcedWith k account bell)).retryWaiting := by
  unfold announceWith
  rw [h]
  rfl

/-- Where no session waits, a service that is announced is put in place. -/
theorem announceWith_of_noneWaits (h : b.isTaken k = false) (hnone : b.NoneWaits) (account : AccountId)
    (bell : Option String) :
    b.announceWith k account bell =
      b.withService k (.announcedWith k account bell) := by
  rw [announceWith_of_not_isTaken h]
  exact retryWaiting_of_noneWaits hnone

/-! ### Creates and announcements -/

/-- A service that takes no sessions is not found. -/
theorem find_ne_found (h : ¬b.IsOpen k) (limit : Word) (service : String) (target : Target) :
    (b.providers.find limit service target).1 ≠ .found k.provider := by
  unfold Registry.find
  split
  · unfold Registry.findLocal
    split
    · exact fun heq => by cases Lookup.found.inj heq
    · split
      · exact fun heq => by cases Lookup.found.inj heq
      · exact fun heq => by cases heq
  · unfold Registry.findParent
    split
    · dsimp only
      split
      · exact fun heq => by cases heq
      · exact fun heq => by cases Lookup.found.inj heq
    · exact fun heq => by cases Lookup.found.inj heq
  · rename_i child
    unfold Registry.findChild
    dsimp only
    split
    · rename_i hany
      intro heq
      obtain ⟨hchild, hservice⟩ := Provider.child.inj (Lookup.found.inj heq)
      obtain rfl : (⟨child, service⟩ : ChildKey) = k := ChildKey.ext hchild hservice
      obtain ⟨u, hu, hopen⟩ := (Option.any_eq_true _ _).1 hany
      exact h ⟨u, hu, by simpa using hopen⟩
    · exact fun heq => by cases heq

/-- A session is to wait, or it is routed elsewhere, while a service takes no sessions. -/
theorem absent_or_routesElsewhere (h : ¬b.IsOpen k) (s : Session) :
    (∃ route, resolve b.rules s.service s.label = .ok route ∧
        (b.providers.find b.config.retryLimit route.service route.target).1 = .absent) ∨
      b.RoutesElsewhere s k := by
  by_cases habsent : ∃ route, resolve b.rules s.service s.label = .ok route ∧
      (b.providers.find b.config.retryLimit route.service route.target).1 = .absent
  · exact .inl habsent
  · exact .inr fun route hroute => ⟨fun hfind => habsent ⟨route, hroute, hfind⟩, find_ne_found h _ _ _⟩

theorem routeSession_of_absent {route : Route} (hresolve : resolve b.rules s.service s.label = .ok route)
    (habsent : (b.providers.find b.config.retryLimit route.service route.target).1 = .absent) :
    b.routeSession id s = b := by
  unfold routeSession
  rw [hresolve]
  cases hlookup : b.providers.find b.config.retryLimit route.service route.target with
  | mk found providers =>
    rw [hlookup] at habsent
    obtain rfl : found = .absent := habsent
    dsimp only
    rw [hlookup]

theorem isTaken_of_isOpen (h : b.IsOpen k) : b.isTaken k = true := by
  obtain ⟨u, hu, hopen⟩ := h
  simp [isTaken, hu, hopen]

/-- A service that is taken stays taken. -/
theorem isTaken_routeSession (h : b.isTaken k = true) (hfound : b.sessions.find? id = some ⟨s, none⟩)
    (hs : s.phase = .createRequested) : (b.routeSession id s).isTaken k = true := by
  by_cases hopen : b.IsOpen k
  · obtain ⟨u, hu, htakes⟩ := isOpen_iff.1 hopen
    have hstands := (chores_routeSession b id s).stands.providers.kept _ u hu
    exact isTaken_of_isOpen (isOpen_iff.2 ⟨u, hstands, htakes⟩)
  · obtain ⟨route, hresolve, habsent⟩ | helsewhere := absent_or_routesElsewhere hopen s
    · rw [routeSession_of_absent hresolve habsent]
      exact h
    · rw [isTaken_congr (routedApart_routeSession hfound hs helsewhere).service]
      exact h

theorem create_of_isLive (h : b.isLive id = true) (service args : String) (affinity : Affinity) :
    b.create id service args affinity = (.error (.protocol (.conflictingId id.num)), b) := if_pos h

theorem create_of_malformed (hlive : b.isLive id = false) {service args : String} {affinity : Affinity} {e : ArgsError}
    (he : b.config.newSession service args affinity = .error e) :
    b.create id service args affinity =
      (.error (.args e), { b with sessions := b.sessions.erase id }.answer id .serviceDenied) := by
  unfold create
  simp only [hlive, Bool.false_eq_true, if_false, he]

/-- A service that is taken stays taken. -/
theorem isTaken_create (h : b.isTaken k = true) (id : ServerId) (service args : String) (affinity : Affinity) :
    (b.create id service args affinity).2.isTaken k = true := by
  cases hlive : b.isLive id with
  | true =>
    rw [create_of_isLive hlive]
    exact h
  | false =>
    cases hs : b.config.newSession service args affinity with
    | error e =>
      rw [create_of_malformed hlive hs]
      exact h
    | ok s =>
      obtain ⟨c, hcreate, hc⟩ := create_eq_route hlive hs
      rw [hcreate]
      subst hc
      exact isTaken_routeSession h (Table.find?_insert_self _ _ _) (RuntimeConfig.isFresh_newSession hs).phase

/-- A new session in the table, the only one that may wait, is routed before or after a service comes. -/
theorem routeSession_announce_comm (htaken : b.isTaken k = false)
    (hfound : b.sessions.find? id = some ⟨s, none⟩) (hs : s.phase = .createRequested) (habandoned : s.abandoned = false)
    (hothers : ∀ j t, j ≠ id → b.sessions.find? j = some t → t.isWaiting = false) (account : AccountId)
    (bell : Option String) :
    (b.withService k (.announcedWith k account bell)).routeSession id s =
      (b.routeSession id s).announceWith k account bell := by
  have hopen : ¬b.IsOpen k := fun hopen => by cases htaken.symm.trans (isTaken_of_isOpen hopen)
  have hwaits : Slot.isWaiting ⟨s, none⟩ = true := Slot.isWaiting_iff.2 ⟨rfl, hs, habandoned⟩
  obtain ⟨route, hresolve, habsent⟩ | helsewhere := absent_or_routesElsewhere hopen s
  · -- the session waits, and it alone is routed when the service comes
    rw [routeSession_of_absent hresolve habsent, announceWith_of_not_isTaken htaken,
      retryWaiting_of_one (b := b.withService k _) hfound hwaits hothers]
    unfold Broker.route
    simp only [withService_sessions, hfound, hwaits, if_true]
  · -- the session is not for the service
    have happart := routedApart_routeSession hfound hs helsewhere
    rw [routeSession_withService helsewhere, announceWith_of_noneWaits]
    · rw [isTaken_congr happart.service]
      exact htaken
    · intro j t ht
      by_cases hj : j = id
      · subst hj
        exact happart.settled t ht
      · rw [happart.others j hj] at ht
        exact hothers j t hj ht

/-- If a create and an announcement are made where no session waits, it does not matter which of the two comes first:
the result of the create is the same, and so is all that is left of both. -/
theorem create_announce_comm (hnone : b.NoneWaits) (k : ChildKey) (account : AccountId) (bell : Option String)
    (id : ServerId) (service args : String) (affinity : Affinity) :
    (b.announceWith k account bell).create id service args affinity =
      ((b.create id service args affinity).1, (b.create id service args affinity).2.announceWith k account bell) := by
  cases htaken : b.isTaken k with
  | true => rw [announceWith_of_isTaken htaken, announceWith_of_isTaken (isTaken_create htaken id service args affinity)]
  | false =>
    have hannounced := announceWith_of_noneWaits htaken hnone account bell
    rw [hannounced]
    cases hlive : b.isLive id with
    | true =>
      rw [create_of_isLive hlive, create_of_isLive (b := b.withService k _) hlive]
      exact congrArg (Prod.mk _) hannounced.symm
    | false =>
      have hrest : ∀ j t, (b.sessions.erase id).find? j = some t → t.isWaiting = false := fun j t ht =>
        hnone j t (Table.find?_of_filter ht)
      cases hs : b.config.newSession service args affinity with
      | error e =>
        rw [create_of_malformed hlive hs, create_of_malformed (b := b.withService k _) hlive hs]
        have hrefused : NoneWaits ({ b with sessions := b.sessions.erase id }.answer id .serviceDenied) := hrest
        have hfree : isTaken ({ b with sessions := b.sessions.erase id }.answer id .serviceDenied) k = false := htaken
        exact congrArg (Prod.mk _) (announceWith_of_noneWaits hfree hrefused account bell).symm
      | ok s =>
        have hfresh := RuntimeConfig.isFresh_newSession hs
        obtain ⟨c, hcreate, hc⟩ := create_eq_route hlive hs
        obtain ⟨c', hcreate', hc'⟩ := create_eq_route (b := b.withService k _) hlive hs
        rw [hcreate, hcreate']
        refine congrArg (Prod.mk _) ?_
        subst hc hc'
        refine routeSession_announce_comm
          (b := { b with sessions := (b.sessions.erase id).insert id { session := s.perform (.setServerId id) } }) htaken
          (Table.find?_insert_self _ _ _) hfresh.phase hfresh.abandoned ?_ account bell
        intro j t hj ht
        rw [Table.find?_insert_of_ne _ _ hj] at ht
        exact hrest j t ht

/-- A session that is requested before its provider comes is as if it had been requested after. -/
theorem requestedOnce_of_early : NoneWaits (start sampleEnv sampleConfig) ∧
    requestedEarly.announce ⟨"fs", "log"⟩ 1 = requestedOnce ∧
    (requestedOnce.session? ⟨1⟩).map (·.downstream) = some (some ⟨0⟩) := by
  have hnone : NoneWaits (start sampleEnv sampleConfig) := fun _ _ hfound => by cases hfound
  have hcomm := create_announce_comm hnone ⟨"fs", "log"⟩ 1 (some ("fs" ++ "/" ++ "log")) ⟨1⟩ "log" "ram_quota=5" {}
  refine ⟨hnone, ?_, by decide +kernel⟩
  rw [announce_eq]
  exact (congrArg Prod.snd hcomm).symm

end Broker

end SessionBroker
