import SessionBroker.Proofs.AnyServices

/-!
# SessionBroker.Proofs.Waiting — what a session without a provider waits for

* `Broker.IsOpen b k`: a service of a child takes new sessions: it was announced and not withdrawn.
* `Broker.Parked b service l`: the rules send a request to a service of a child that is not open.
* `Broker.Narrows b b'`: the rules stay, and no service opens.  What is parked stays parked.
* `waiting_parked`: in every state that is reached, a session that waits is parked under the label of its request.
-/

namespace SessionBroker

namespace RuntimeConfig

theorem service_newSession {c : RuntimeConfig} {service args : String} {affinity : Affinity} {s : Session}
    (h : c.newSession service args affinity = .ok s) : s.service = service := by
  unfold newSession Session.create at h
  split at h
  · cases h
  · split at h
    · cases h
    · obtain rfl := Except.ok.inj h
      rfl

end RuntimeConfig

namespace Broker

variable {new : ServerId → Prop} {b b' b'' : Broker} {id : ServerId} {k : ChildKey} {s : Session} {service : String}
  {l : Label}

/-- A service of a child takes new sessions: it was announced and not withdrawn. -/
def IsOpen (b : Broker) (k : ChildKey) : Prop := ∃ c, b.providers.children.find? k = some c ∧ c.abandoned = false

/-- The rules in force send a request to a service of a child that takes no new sessions. -/
def Parked (b : Broker) (service : String) (l : Label) : Prop :=
  ∃ route child, resolve b.rules service l = .ok route ∧ route.target = .child child ∧ ¬b.IsOpen ⟨child, route.service⟩

/-- Every session that waits is parked. -/
def AllParked (b : Broker) : Prop := ∀ id s, b.Waits id s → b.Parked s.service s.label

/-! ### Services that open -/

theorem isOpen_iff : b.IsOpen k ↔ ∃ u, b.providers.standing? k.provider = some u ∧ u.withdrawn = false := by
  rw [Registry.standing?_child]
  constructor
  · rintro ⟨c, hc, hopen⟩
    exact ⟨_, by rw [hc]; rfl, hopen⟩
  · rintro ⟨u, hu, hopen⟩
    obtain ⟨c, hc, rfl⟩ := Option.map_eq_some_iff.1 hu
    exact ⟨c, hc, hopen⟩

/-- The provider of a request that is to wait is a service of a child that is not open. -/
theorem parked_of_absent {route : Route} (hroute : resolve b.rules service l = .ok route)
    (habsent : (b.providers.find b.config.retryLimit route.service route.target).1 = .absent) :
    b.Parked service l := by
  unfold Registry.find at habsent
  split at habsent
  · unfold Registry.findLocal at habsent
    split at habsent
    · cases habsent
    · split at habsent <;> cases habsent
  · unfold Registry.findParent at habsent
    split at habsent
    · split at habsent <;> cases habsent
    · cases habsent
  · rename_i child htarget
    refine ⟨route, child, hroute, htarget, ?_⟩
    rintro ⟨c, hc, hopen⟩
    simp [Registry.findChild, hc, hopen] at habsent

/-- The rules stay in force, and no service opens. -/
structure Narrows (b b' : Broker) : Prop where
  rules : b'.rules = b.rules
  isOpen : ∀ k, b'.IsOpen k → b.IsOpen k

namespace Narrows

theorem refl (b : Broker) : Narrows b b := ⟨rfl, fun _ h => h⟩

theorem trans (h : Narrows b b') (h' : Narrows b' b'') : Narrows b b'' :=
  ⟨h'.rules.trans h.rules, fun k hk => h.isOpen k (h'.isOpen k hk)⟩

theorem of_stands (h : b.Stands b') : Narrows b b' := by
  refine ⟨h.rules, fun k hk => ?_⟩
  rw [isOpen_iff] at hk ⊢
  rwa [h.providers.standing?_eq fun n hn => by cases hn] at hk

/-- What was parked stays parked. -/
theorem parked (h : Narrows b b') (hparked : b.Parked service l) : b'.Parked service l := by
  obtain ⟨route, child, hroute, htarget, hclosed⟩ := hparked
  refine ⟨route, child, ?_, htarget, fun hopen => hclosed (h.isOpen _ hopen)⟩
  rw [h.rules]
  exact hroute

/-- Where the sessions that wait are those that waited, all stay parked. -/
theorem allParked (h : Narrows b b') (hwaits : ∀ id s, b'.Waits id s → b.Waits id s) (hb : b.AllParked) :
    b'.AllParked := fun id s hw => h.parked (hb id s (hwaits id s hw))

theorem foldl {α : Type} {f : Broker → α → Broker} (h : ∀ b x, Narrows b (f b x)) :
    ∀ (l : List α) (b : Broker), Narrows b (l.foldl f b)
  | [], b => refl b
  | x :: l, b => (h b x).trans (foldl h l (f b x))

end Narrows

theorem narrows_sweep (b : Broker) : Narrows b b.sweep := by
  refine ⟨rfl, fun k hk => ?_⟩
  rw [isOpen_iff] at hk ⊢
  obtain ⟨u, hu, hopen⟩ := hk
  rw [sweep, Registry.standing?_sweep] at hu
  exact ⟨u, Option.eq_some_of_filter_eq_some hu, hopen⟩

theorem narrows_withdraw (b : Broker) (k : ChildKey) : Narrows b (b.withdraw k) := by
  refine Narrows.trans ?_ (narrows_sweep _)
  refine ⟨rfl, fun k' hk => ?_⟩
  rw [isOpen_iff] at hk ⊢
  obtain ⟨u, hu, hopen⟩ := hk
  rw [Registry.standing?_withdrawn] at hu
  split at hu
  · obtain ⟨v, -, rfl⟩ := Option.map_eq_some_iff.1 hu
    cases hopen
  · exact ⟨u, hu, hopen⟩

theorem narrows_forget (b : Broker) (k : ChildKey) :
    Narrows b { b with providers.children := b.providers.children.erase k } := by
  refine ⟨rfl, fun k' hk => ?_⟩
  rw [isOpen_iff] at hk ⊢
  obtain ⟨u, hu, hopen⟩ := hk
  rw [Registry.standing?_forgotten] at hu
  split at hu
  · cases hu
  · exact ⟨u, hu, hopen⟩

theorem narrows_removeService (b : Broker) (k : ChildKey) : Narrows b (b.removeService k) :=
  (Narrows.foldl (fun b id => .of_stands (chores_dismiss b id k).stands) b.sessions.keys b).trans (narrows_forget _ k)

theorem narrows_childAnswer (b : Broker) (k : ChildKey) (request : ClientId) (r : Response) :
    Narrows b (b.childAnswer k request r).2 := by
  rcases childAnswer_cases b k request r with ⟨-, heq⟩ | ⟨-, c, hchores, heq⟩
  · rw [heq]
    exact .refl b
  · rw [heq]
    exact (Narrows.of_stands hchores.stands).trans (narrows_sweep c)

/-! ### Routing -/

theorem Waits.isWaiting (h : b.Waits id s) (hb : b.Orderly) : Slot.isWaiting ⟨s, none⟩ = true :=
  Slot.isWaiting_iff.2 ⟨rfl, h.phase, (hb.waiting id s h).2.2⟩

/-- A session that waits although it was just routed is parked. -/
theorem parked_of_route (hb : b.Orderly) (hw : (b.route id).Waits id s) : b.Parked s.service s.label := by
  have hwaited : b.Waits id s := (handles_route hb id).waits s hw
  have hroute : b.route id = b.routeSession id s := by
    unfold route
    rw [hwaited.found]
    exact if_pos (hwaited.isWaiting hb)
  rw [hroute] at hw
  obtain ⟨route, hresolve, habsent⟩ := absent_of_waits hwaited hw
  exact parked_of_absent hresolve habsent

/-- Once all sessions that are not parked were routed, all are parked. -/
theorem allParked_routes : ∀ (ids : List ServerId) (b : Broker), b.Orderly →
    (∀ id s, b.Waits id s → b.Parked s.service s.label ∨ id ∈ ids) → (ids.foldl route b).AllParked
  | [], _, _, h => fun id s hw => (h id s hw).resolve_right (by simp)
  | j :: ids, b, hb, h => by
    have hshift : Shift (fun _ => False) .reap b (b.route j) := .session hb (.routed j)
    have hnarrows : Narrows b (b.route j) := .of_stands (chores_route b j).stands
    refine allParked_routes ids (b.route j) (hshift.orderly hb) fun id s hw => ?_
    by_cases hj : id = j
    · subst hj
      exact .inl (hnarrows.parked (parked_of_route hb hw))
    · rcases h id s (hshift.waits (fun h => h) hw) with hparked | hmem
      · exact .inl (hnarrows.parked hparked)
      · exact .inr ((List.mem_cons.1 hmem).resolve_left hj)

/-- Sessions that wait are routed again, all of them. -/
theorem allParked_retryWaiting (hb : b.Orderly) : b.retryWaiting.AllParked := by
  refine allParked_routes _ b hb fun id s hw => .inr (Table.mem_keys.2 ⟨⟨s, none⟩, ?_⟩)
  exact Table.find?_filter_of hw.found (hw.isWaiting hb)

/-- Providers come, and the sessions that wait are routed again. -/
theorem allParked_provided (hb : b.Orderly) (op : Op) (h : Shift (fun _ => False) op b b') : b'.retryWaiting.AllParked :=
  allParked_retryWaiting (h.orderly hb)

/-- A new session that waits is the one that was requested. -/
theorem waits_create (hb : b.Orderly) {args : String} {affinity : Affinity} (hlive : b.isLive id = false)
    (hw : (b.create id service args affinity).2.Waits id s) :
    ∃ r, b.config.newSession service args affinity = .ok r ∧ s = r.perform (.setServerId id) ∧
      (b.create id service args affinity).2.Parked s.service s.label := by
  have herase : Shifts (fun j => j = id) .reap b { b with sessions := b.sessions.erase id } :=
    .single (shift_erase hlive)
  have habsent : (b.sessions.erase id).find? id = none := Table.find?_erase_self _ _
  rcases create_taken b id service args affinity with ⟨huse, -⟩ | ⟨-, taken, rfl, ⟨e, -, heq⟩ | ⟨r, hr, heq⟩⟩
  · rw [hlive] at huse
    cases huse
  · rw [heq] at hw
    cases habsent.symm.trans hw.found
  · have hadmitted := herase.trans (.single (.admitted rfl habsent (RuntimeConfig.isFresh_newSession hr)))
    have hsound := hadmitted.orderly hb
    rw [heq] at hw ⊢
    have hwaited := (handles_route hsound id).waits s hw
    obtain ⟨rfl, -⟩ := Slot.mk.inj (Option.some.inj (hwaited.found.symm.trans (Table.find?_insert_self _ _ _)))
    exact ⟨r, hr, rfl, (Narrows.of_stands (chores_route _ id).stands).parked (parked_of_route hsound hw)⟩

/-! ### The operations -/

/-- Every operation leaves the sessions that wait parked. -/
theorem allParked_step (hb : b.Orderly) {op : Op} (hop : op.StartsEmpty) (hI : b.AllParked) :
    (b.step op).2.AllParked := by
  have hstays : Narrows b (b.step op).2 → (∀ id, ¬op.Opens b id) → (b.step op).2.AllParked := fun hnarrows hid =>
    hnarrows.allParked (fun id s hw => waits_step hb hop (hid id) hw) hI
  cases op with
  | create i service args affinity =>
    intro id s hw
    by_cases hid : (Op.create i service args affinity).Opens b id
    · obtain ⟨rfl, hlive⟩ := hid
      obtain ⟨r, -, -, hparked⟩ := waits_create hb hlive hw
      exact hparked
    · have hnarrows := Narrows.of_stands (chores_create b i service args affinity).stands
      exact hnarrows.parked (hI id s (waits_step hb hop hid hw))
  | announce k account =>
    show (b.announce k account).AllParked
    unfold announce
    split
    · exact hI
    · exact allParked_provided hb (.announce k account) (shift_announced b k account)
  | applyRouting rules => exact allParked_provided hb (.applyRouting rules) (shift_rerouted b rules _)
  | registerLocal service => exact allParked_provided hb (.registerLocal service) (shift_registerLocal b service)
  | registerDesk d => exact allParked_provided hb (.registerDesk d) (.opened d rfl hop)
  | childAnswer k request r => exact hstays (narrows_childAnswer b k request r) fun _ h => h
  | withdraw k => exact hstays (narrows_withdraw b k) fun _ h => h
  | removeChild child => exact hstays (.foldl narrows_removeService _ b) fun _ h => h
  | upgrade | close | answerRequested | answerUpgraded | answerClosing | reap =>
    exact hstays (.of_stands (Chores.stands (chores_step b fun h => h))) fun _ h => h

/-- In every state that is reached, the sessions that wait are parked. -/
theorem Leads.allParked {allowed : Broker → Op → Prop} {env : Env} {config : RuntimeConfig}
    (h : Leads allowed (start env config) b) : b.AllParked := by
  induction h with
  | refl => exact fun id s hw => by cases hw.found
  | op op hreach hop _ ih => exact allParked_step (hreach.orderly (orderly_start env config)) hop ih
  | around _ _ ih => exact fun id s hw => ih id s ⟨hw.found, hw.phase⟩

/-- A session that waits is the one that was last requested under its id. -/
theorem Leads.requested {allowed : Broker → Op → Prop} {env : Env} {config : RuntimeConfig}
    (h : Leads allowed (start env config) b) (hw : b.Waits id s) :
    ∃ c service args affinity r, Leads allowed (start env config) c ∧ c.isLive id = false ∧
      c.config.newSession service args affinity = .ok r ∧ s = r.perform (.setServerId id) ∧
      Leads (fun d op => ¬op.Opens d id) (c.create id service args affinity).2 b := by
  induction h with
  | refl => cases hw.found
  | @op d op hreach hop _ ih =>
    have hd := hreach.orderly (orderly_start env config)
    by_cases hid : op.Opens d id
    · cases op with
      | create i service args affinity =>
        obtain ⟨rfl, hlive⟩ := hid
        obtain ⟨r, hr, hs, -⟩ := waits_create hd hlive hw
        exact ⟨d, service, args, affinity, r, hreach, hlive, hr, hs, .refl⟩
      | _ => exact hid.elim
    · obtain ⟨c, service, args, affinity, r, hc, hlive, hr, hs, hrest⟩ := ih (waits_step hd hop hid hw)
      exact ⟨c, service, args, affinity, r, hc, hlive, hr, hs, .op op hrest hop hid⟩
  | around env _ ih =>
    obtain ⟨c, service, args, affinity, r, hc, hlive, hr, hs, hrest⟩ := ih ⟨hw.found, hw.phase⟩
    exact ⟨c, service, args, affinity, r, hc, hlive, hr, hs, .around env hrest⟩

/-- In every state that is reached, a session that waits for a provider is the one that was last requested under its
id, and the rules in force send that request, under the label of its requester, to a service of a child that was not
announced, or that was withdrawn. -/
theorem waiting_parked {env : Env} {config : RuntimeConfig}
    (h : Leads (fun _ _ => True) (start env config) b) {t : Slot}
    (hfound : b.sessions.find? id = some t) (hprovider : t.provider = none)
    (hphase : t.session.phase = .createRequested) :
    ∃ c service args affinity r, Leads (fun _ _ => True) (start env config) c ∧
      c.isLive id = false ∧ c.config.newSession service args affinity = .ok r ∧
      t.session = r.perform (.setServerId id) ∧
      Leads (fun d op => ¬op.Opens d id) (c.create id service args affinity).2 b ∧
      b.Parked service r.label := by
  obtain ⟨s, provider⟩ := t
  obtain rfl : provider = none := hprovider
  have hw : b.Waits id s := ⟨hfound, hphase⟩
  obtain ⟨c, service, args, affinity, r, hc, hlive, hr, rfl, hrest⟩ := h.requested hw
  have hparked : b.Parked r.service r.label := h.allParked id (r.perform (.setServerId id)) hw
  rw [RuntimeConfig.service_newSession hr] at hparked
  exact ⟨c, service, args, affinity, r, hc, hlive, hr, rfl, hrest, hparked⟩

/-- The parent requests a session before the child announced its service. -/
def requestedEarly : Broker := ((start sampleEnv sampleConfig).create ⟨1⟩ "log" "ram_quota=5" {}).2

/-- A session that was requested too early waits for the service of the child. -/
theorem parked_requestedEarly : ∃ t, requestedEarly.sessions.find? ⟨1⟩ = some t ∧ t.provider = none ∧
    t.session.phase = .createRequested ∧ requestedEarly.Parked "log" t.session.label := by
  have hreach : Leads (fun _ _ => True) (start sampleEnv sampleConfig) requestedEarly :=
    .op (.create ⟨1⟩ "log" "ram_quota=5" {}) .refl trivial trivial
  obtain ⟨t, hfound, hprovider, hphase, hservice⟩ : ∃ t, requestedEarly.sessions.find? ⟨1⟩ = some t ∧
      t.provider = none ∧ t.session.phase = .createRequested ∧ t.session.service = "log" :=
    ⟨_, rfl, by decide +kernel, by decide +kernel, by decide +kernel⟩
  obtain ⟨_, service, _, _, r, -, -, hr, hs, -, hparked⟩ := waiting_parked hreach hfound hprovider hphase
  have hname : service = "log" := by
    rw [← RuntimeConfig.service_newSession hr, ← hservice, hs]
    rfl
  refine ⟨t, hfound, hprovider, hphase, ?_⟩
  rw [hs, ← hname]
  exact hparked

end Broker

end SessionBroker
