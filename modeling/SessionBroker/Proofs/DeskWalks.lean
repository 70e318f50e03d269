import SessionBroker.Proofs.AnyServices
import SessionBroker.Proofs.ChildRequests

/-!
# SessionBroker.Proofs.DeskWalks — the walks of local code over the requests of its service

Local code finds its sessions by the requests that are posted at its service.  A session is found for as long as the
service under the name stays the same: a service that is registered anew starts without requests, though sessions refer
to requests of the one before.

* `Broker.visits`: how often a walk over requests comes to a session.
* `Broker.Superseded b c n id`: between `b` and `c`, service `n` was replaced while session `id` referred to a request
  of it.
* `Broker.WalkedOnce`: the walks come to a session once, each if the session waits for what the walk is about.
* `Broker.NeverWalked`: no walk comes to a session any more, and it never ends.
* `desk_walks`: a session that was not superseded is walked once; one that was is never walked again.  Two sessions that
  share a downstream id were not both spared.
-/

namespace SessionBroker

/-- The phase of a session that makes a request of the kind. -/
def RequestKind.phase : RequestKind → Phase
  | .create _ _ _ => .createRequested
  | .upgrade _ => .upgradeRequested
  | .close => .closeRequested

namespace Session

variable {s : Session} {kind : RequestKind}

theorem phase_of_requestKind? (h : s.requestKind? = some kind) : s.phase = kind.phase := by
  unfold requestKind? at h
  split at h
  · rename_i hphase
    obtain ⟨-, h⟩ := Option.ite_none_left_eq_some.1 h
    obtain rfl := Option.some.inj h
    exact hphase
  · rename_i hphase
    obtain rfl := Option.some.inj h
    exact hphase
  · rename_i hphase
    obtain rfl := Option.some.inj h
    exact hphase
  · cases h

/-- A session in a phase that makes requests makes one of that kind. -/
theorem Tended.exists_requestKind (h : s.Tended) (hphase : s.phase = kind.phase) :
    ∃ k, s.requestKind? = some k ∧ k.phase = kind.phase := by
  unfold requestKind?
  cases kind with
  | create label args resources =>
    have hphase : s.phase = .createRequested := hphase
    have hab : s.abandoned = false := h.not_abandoned (by rw [hphase]; rfl) (by rw [hphase]; exact Phase.noConfusion)
    rw [hphase, hab]
    exact ⟨_, rfl, rfl⟩
  | upgrade delta =>
    have hphase : s.phase = .upgradeRequested := hphase
    rw [hphase]
    exact ⟨_, rfl, rfl⟩
  | close =>
    have hphase : s.phase = .closeRequested := hphase
    rw [hphase]
    exact ⟨_, rfl, rfl⟩

end Session

namespace Broker

variable {new : ServerId → Prop} {op : Op} {b b' c : Broker} {id j : ServerId} {s : Session} {n : String} {i : ClientId}

/-! ### What a walk comes to -/

/-- How often a walk over requests comes to session `id`. -/
def visits (requests : List (ServerId × Request)) (id : ServerId) : Nat := (requests.map Prod.fst).count id

theorem mem_localRequests {e : ServerId × Request} :
    e ∈ b.localRequests n ↔ e.2.service = n ∧ b.providers.request? (.later n) e.2.id = some e.1 ∧
      ∃ s, b.session? e.1 = some s ∧ s.requestKind? = some e.2.kind := by
  unfold localRequests
  cases hd : b.providers.desks.find? n with
  | none =>
    have hnone : b.providers.request? (.later n) e.2.id = none := by
      simp [Registry.request?, Registry.desk?, hd]
    simp [hnone]
  | some d =>
    have hlookup : b.providers.request? (.later n) e.2.id = some e.1 ↔ (e.2.id, e.1) ∈ d.posted := by
      have hfind : b.providers.request? (.later n) e.2.id = d.requests.find? e.2.id :=
        Registry.request?_of_desk? (p := .later n) hd e.2.id
      rw [hfind]
      exact Table.find?_eq_some_iff
    rw [hlookup]
    exact mem_requestsAt

/-- No session is listed twice. -/
theorem nodup_localRequests (hb : b.Orderly) (n : String) : ((b.localRequests n).map Prod.fst).Nodup := by
  have hnodup : (b.localRequests n).Nodup := by
    unfold localRequests
    cases b.providers.desks.find? n with
    | none => exact List.nodup_nil
    | some d => exact nodup_requestsAt b n d
  refine List.Nodup.map_on (fun e he e' he' hid => ?_) hnodup
  obtain ⟨hservice, hposted, s, hs, hkind⟩ := mem_localRequests.1 he
  obtain ⟨hservice', hposted', s', hs', hkind'⟩ := mem_localRequests.1 he'
  rw [← hid] at hposted' hs'
  have hrequest : e.2.id = e'.2.id := hb.posted_inj hposted hposted'
  obtain rfl := Option.some.inj (hs.symm.trans hs')
  have hsame : e.2.kind = e'.2.kind := Option.some.inj (hkind.symm.trans hkind')
  obtain ⟨id, service, i, kind⟩ := e
  obtain ⟨id', service', i', kind'⟩ := e'
  simp_all

/-- A walk comes to a session once, if the session waits for what the walk is about. -/
theorem visits_of_backed (hb : b.Orderly) (hfound : b.sessions.find? id = some ⟨s, some (.later n)⟩) (hs : s.Tended)
    (hbacked : b.Backed id) (kind : RequestKind) (about : ServerId × Request → Bool)
    (habout : ∀ e, about e = true ↔ e.2.kind.phase = kind.phase) :
    visits ((b.localRequests n).filter about) id = if s.phase = kind.phase then 1 else 0 := by
  have hnodup : (((b.localRequests n).filter about).map Prod.fst).Nodup :=
    (nodup_localRequests hb n).sublist (List.filter_sublist.map Prod.fst)
  have hsession : b.session? id = some s := by
    unfold session?
    rw [hfound]
    rfl
  have hmem : id ∈ ((b.localRequests n).filter about).map Prod.fst ↔ s.phase = kind.phase := by
    rw [List.mem_map]
    constructor
    · rintro ⟨e, he, rfl⟩
      obtain ⟨hlisted, hkind⟩ := List.mem_filter.1 he
      obtain ⟨-, -, u, hu, hrequest⟩ := mem_localRequests.1 hlisted
      obtain rfl := Option.some.inj (hsession.symm.trans hu)
      exact (Session.phase_of_requestKind? hrequest).trans ((habout _).1 hkind)
    · intro hphase
      have hlive : s.phase.isEnded = false := by
        rw [hphase]
        cases kind <;> rfl
      obtain ⟨i, hi⟩ := hs.exists_downstream hlive
      obtain ⟨k, hk, hsame⟩ := hs.exists_requestKind hphase
      refine ⟨(id, ⟨n, i, k⟩), List.mem_filter.2 ⟨?_, (habout _).2 hsame⟩, rfl⟩
      exact mem_localRequests.2 ⟨rfl, hbacked s n hfound i hi, s, hsession, hk⟩
  unfold visits
  rw [hnodup.count]
  by_cases hphase : s.phase = kind.phase
  · rw [if_pos hphase, if_pos (hmem.2 hphase)]
  · rw [if_neg hphase, if_neg fun h => hphase (hmem.1 h)]

/-- No walk comes to a session for which nothing is posted. -/
theorem visits_of_unposted (hunposted : ∀ k, b.providers.request? (.later n) k ≠ some id)
    (about : ServerId × Request → Bool) : visits ((b.localRequests n).filter about) id = 0 := by
  unfold visits
  rw [List.count_eq_zero, List.mem_map]
  rintro ⟨e, he, rfl⟩
  obtain ⟨-, hposted, -⟩ := mem_localRequests.1 (List.mem_filter.1 he).1
  exact hunposted e.2.id hposted

/-! ### Operations -/

theorem request?_of_desks (h : b'.providers.desks = b.providers.desks) (n : String) (i : ClientId) :
    b'.providers.request? (.later n) i = b.providers.request? (.later n) i := by
  unfold Registry.request? Registry.desk?
  rw [h]

theorem tended_shift (h : Shift new op b b') (hb : b.Tended) : b'.Tended := by
  cases h with
  | session hord h => exact (h.tending hord).tended (h.handles hord) hb
  | providers hsessions _ hdesks =>
    intro j u m hu
    rw [hsessions] at hu
    obtain ⟨hs, hthere⟩ := hb j u m hu
    refine ⟨hs, ?_⟩
    show b'.providers.desks.contains m = true
    rw [hdesks]
    exact hthere
  | opened d =>
    intro j u m hu
    obtain ⟨hs, hthere⟩ := hb j u m hu
    refine ⟨hs, Table.contains_eq_true.2 ?_⟩
    by_cases hm : m = d.name
    · exact ⟨d, by rw [hm, Table.find?_insert_self]⟩
    · rw [Table.find?_insert_of_ne _ _ hm]
      exact Table.contains_eq_true.1 hthere
  | forgotten keep =>
    intro j u m hu
    exact hb j u m (Table.find?_of_filter hu)
  | @admitted k r _ _ _ =>
    intro j u m hu
    by_cases hj : j = k
    · subst hj
      cases (Table.find?_insert_self _ _ _).symm.trans hu
    · exact hb j u m ((Table.find?_insert_of_ne _ _ hj).symm.trans hu)

/-- What is stranded stays stranded: the session cannot end, as nobody answers it. -/
theorem stranded_shift (h : Shift new op b b') (hb : b.Tended) (hs : b.Stranded n id i) : b'.Stranded n id i := by
  cases h with
  | session hord h => exact (h.tending hord).stranded (h.handles hord) hb hs
  | providers hsessions hrequests =>
    obtain ⟨⟨u, hu, hdown⟩, hunposted⟩ := hs
    refine ⟨⟨u, ?_, hdown⟩, fun k hk => hunposted k (hrequests _ k id hk)⟩
    rw [hsessions]
    exact hu
  | opened d _ hidle => exact ⟨hs.refers, fun k hk => hs.unposted k (request?_of_registerDesk hidle hk)⟩
  | forgotten keep hkeep =>
    obtain ⟨⟨u, hu, hdown⟩, hunposted⟩ := hs
    refine ⟨⟨u, Table.find?_filter_of hu ?_, hdown⟩, hunposted⟩
    have hlive : u.phase.isEnded = false := (hb id u n hu).1.not_ended hdown
    cases hk : keep id ⟨u, some (.later n)⟩ with
    | true => rfl
    | false =>
      have hended := Session.isEnded_of_not_alive (hkeep id _ hu hk)
      cases hlive.symm.trans hended
  | @admitted k r _ habsent _ =>
    obtain ⟨⟨u, hu, hdown⟩, hunposted⟩ := hs
    have hne : id ≠ k := by
      rintro rfl
      cases habsent.symm.trans hu
    exact ⟨⟨u, (Table.find?_insert_of_ne _ _ hne).trans hu, hdown⟩, hunposted⟩

/-- A request stays posted for its session, while no service that answers later is registered. -/
theorem backed_shift (h : Shift new op b b') (hop : ∀ d, op ≠ .registerDesk d) (hb : b.Backed id) : b'.Backed id := by
  cases h with
  | session hord h => exact (h.tending hord).backed (h.handles hord) hb
  | providers hsessions _ hdesks =>
    intro u m hu k hk
    rw [hsessions] at hu
    rw [request?_of_desks hdesks]
    exact hb u m hu k hk
  | opened d hd => exact absurd hd (hop d)
  | forgotten keep =>
    intro u m hu
    exact hb u m (Table.find?_of_filter hu)
  | @admitted k r _ _ _ =>
    intro u m hu
    by_cases hid : id = k
    · subst hid
      cases (Table.find?_insert_self _ _ _).symm.trans hu
    · exact hb u m ((Table.find?_insert_of_ne _ _ hid).symm.trans hu)

theorem tended_shifts (h : Shifts new op b b') (hb : b.Tended) : b'.Tended := by
  induction h with
  | refl => exact hb
  | tail _ hshift ih => exact tended_shift hshift ih

theorem stranded_shifts (h : Shifts new op b b') (hb : b.Tended) (hs : b.Stranded n id i) : b'.Stranded n id i := by
  induction h with
  | refl => exact hs
  | tail hshifts hshift ih => exact stranded_shift hshift (tended_shifts hshifts hb) ih

theorem backed_shifts (h : Shifts new op b b') (hop : ∀ d, op ≠ .registerDesk d) (hb : b.Backed id) : b'.Backed id := by
  induction h with
  | refl => exact hb
  | tail _ hshift ih => exact backed_shift hshift hop ih

/-- Session `id` refers to a request of service `n`. -/
def AsksLater (b : Broker) (n : String) (id : ServerId) : Prop :=
  ∃ s i, b.sessions.find? id = some ⟨s, some (.later n)⟩ ∧ s.downstream = some i

/-- The broker with a new service that answers later, before the sessions that wait are routed again. -/
def opened (b : Broker) (d : Desk) : Broker := { b with providers.desks := b.providers.desks.insert d.name d }

theorem shift_opened {d : Desk} (hidle : d.isIdle = true) : Shift (fun _ => False) (.registerDesk d) b (b.opened d) :=
  .opened d rfl hidle

/-- The sessions are routed again by an operation that registers nothing. -/
theorem shifts_reopened (hb : b.Orderly) {d : Desk} (hidle : d.isIdle = true) :
    Shifts (fun _ => False) .reap (b.opened d) (b.step (.registerDesk d)).2 :=
  shifts_retryWaiting ((shift_opened hidle).orderly hb)

/-- A session that refers to a request of a service is stranded when another one takes the name of the service. -/
theorem stranded_registerDesk (hb : b.Orderly) (ht : b.Tended) {d : Desk} (hidle : d.isIdle = true)
    (hasks : b.AsksLater d.name id) : ∃ i, (b.step (.registerDesk d)).2.Stranded d.name id i := by
  obtain ⟨s, i, hfound, hdown⟩ := hasks
  have hunposted : ∀ k, (b.opened d).providers.request? (.later d.name) k ≠ some id := by
    intro k hk
    have hdesk : (b.opened d).providers.desk? (.later d.name) = some d := Table.find?_insert_self _ _ _
    rw [Registry.request?_of_desk? hdesk] at hk
    cases (lookup?_of_isIdle hidle k).symm.trans hk
  have hstranded : (b.opened d).Stranded d.name id i := ⟨⟨s, hfound, hdown⟩, hunposted⟩
  exact ⟨i, stranded_shifts (shifts_reopened hb hidle) (tended_shift (shift_opened hidle) ht) hstranded⟩

/-- Any other session keeps its request then. -/
theorem backed_registerDesk (hb : b.Orderly) {d : Desk} (hidle : d.isIdle = true) (hbacked : b.Backed id)
    (hasks : ¬b.AsksLater d.name id) : (b.step (.registerDesk d)).2.Backed id := by
  have hstill : (b.opened d).Backed id := by
    intro s n hfound k hk
    have hne : Provider.later n ≠ .later d.name := by
      intro hname
      obtain rfl := Provider.later.inj hname
      exact hasks ⟨s, k, hfound, hk⟩
    unfold opened Registry.request?
    rw [Registry.desk?_insert_later, if_neg hne]
    exact hbacked s n hfound k hk
  exact backed_shifts (shifts_reopened hb hidle) (fun _ h => by cases h) hstill

/-! ### Histories -/

variable {allowed : Broker → Op → Prop}

theorem tended_start (env : Env) (config : RuntimeConfig) : (start env config).Tended := fun _ _ _ h => by cases h

theorem Leads.tended (h : Leads allowed b c) (hb : b.Orderly) (ht : b.Tended) : c.Tended := by
  induction h with
  | refl => exact ht
  | op op hreach hop _ ih => exact tended_shifts (shifts_step (hreach.orderly hb) hop) ih
  | around env _ ih => exact ih

theorem Leads.stranded (h : Leads allowed b c) (hb : b.Orderly) (ht : b.Tended) (hs : b.Stranded n id i) :
    c.Stranded n id i := by
  induction h with
  | refl => exact hs
  | op op hreach hop _ ih => exact stranded_shifts (shifts_step (hreach.orderly hb) hop) (hreach.tended hb ht) ih
  | around env _ ih => exact ⟨ih.refers, ih.unposted⟩

/-- Between `b` and `c`, service `n` was replaced while session `id` referred to a request of it. -/
def Superseded (b c : Broker) (n : String) (id : ServerId) : Prop :=
  ∃ (e : Broker) (d : Desk), Leads (fun _ _ => True) b e ∧ e.AsksLater n id ∧ d.name = n ∧ d.isIdle = true ∧
    Leads (fun _ _ => True) (e.step (.registerDesk d)).2 c

theorem Superseded.stranded (h : Superseded b c n id) (hb : b.Orderly) (ht : b.Tended) : ∃ i, c.Stranded n id i := by
  obtain ⟨e, d, hreach, hasks, rfl, hidle, hlater⟩ := h
  have he := hreach.orderly hb
  have hte := hreach.tended hb ht
  obtain ⟨i, hstranded⟩ := stranded_registerDesk he hte hidle hasks
  have hempty : (Op.registerDesk d).StartsEmpty := hidle
  have hshifts := shifts_step he hempty
  exact ⟨i, hlater.stranded (hshifts.orderly he) (tended_shifts hshifts hte) hstranded⟩

/-- The request that a session refers to is posted for it, unless its service was replaced. -/
theorem backed_or_superseded (h : Leads (fun _ _ => True) b c) (hb : b.Orderly) (hbacked : b.Backed id) :
    c.Backed id ∨ ∃ n, Superseded b c n id := by
  induction h with
  | refl => exact .inl hbacked
  | @op e op hreach hop _ ih =>
    rcases ih with hstill | ⟨n, e', d, hreach', hasks, hname, hidle, hlater⟩
    · have hother : (∀ d, op ≠ .registerDesk d) → (e.step op).2.Backed id := fun hnot =>
        backed_shifts (shifts_step (hreach.orderly hb) hop) hnot hstill
      cases op with
      | registerDesk d =>
        by_cases hasks : e.AsksLater d.name id
        · exact .inr ⟨d.name, e, d, hreach, hasks, rfl, hop, .refl⟩
        · exact .inl (backed_registerDesk (hreach.orderly hb) hop hstill hasks)
      | create | upgrade | close | childAnswer | announce | withdraw | removeChild | applyRouting | registerLocal
      | answerRequested | answerUpgraded | answerClosing | reap => exact .inl (hother fun _ => Op.noConfusion)
    · exact .inr ⟨n, e', d, hreach', hasks, hname, hidle, .op op hlater hop trivial⟩
  | around env _ ih =>
    rcases ih with hstill | ⟨n, e', d, hreach', hasks, hname, hidle, hlater⟩
    · exact .inl hstill
    · exact .inr ⟨n, e', d, hreach', hasks, hname, hidle, .around env hlater⟩

/-- Each of the walks over the requests of service `n` comes to session `id` once, if the session waits for what the
walk is about. -/
structure WalkedOnce (b : Broker) (n : String) (id : ServerId) (s : Session) : Prop where
  requested : visits (b.requested n) id = if s.phase = .createRequested then 1 else 0
  upgraded : visits (b.upgraded n) id = if s.phase = .upgradeRequested then 1 else 0
  closing : visits (b.closing n) id = if s.phase = .closeRequested then 1 else 0

/-- None of the walks over the requests of service `n` comes to session `id`, which is not over. -/
structure Unwalked (b : Broker) (n : String) (id : ServerId) (i : ClientId) : Prop where
  pending : ∃ s, b.sessions.find? id = some ⟨s, some (.later n)⟩ ∧ s.downstream = some i ∧ s.phase.isEnded = false
  requested : visits (b.requested n) id = 0
  upgraded : visits (b.upgraded n) id = 0
  closing : visits (b.closing n) id = 0

/-- Whatever happens, no walk comes to session `id` any more; it is never over, and it keeps its downstream id. -/
def NeverWalked (b : Broker) (n : String) (id : ServerId) (i : ClientId) : Prop :=
  ∀ c, Leads (fun _ _ => True) b c → c.Unwalked n id i

theorem walkedOnce_of_backed (hb : b.Orderly) (ht : b.Tended)
    (hfound : b.sessions.find? id = some ⟨s, some (.later n)⟩) (hbacked : b.Backed id) : b.WalkedOnce n id s := by
  have hs := (ht id s n hfound).1
  refine ⟨?_, ?_, ?_⟩
  · refine visits_of_backed hb hfound hs hbacked (.create default default 0) _ fun e => ?_
    cases e.2.kind <;> simp [RequestKind.phase]
  · refine visits_of_backed hb hfound hs hbacked (.upgrade 0) _ fun e => ?_
    cases e.2.kind <;> simp [RequestKind.phase]
  · refine visits_of_backed hb hfound hs hbacked .close _ fun e => ?_
    cases e.2.kind <;> simp [RequestKind.phase]

theorem neverWalked_of_stranded (hb : b.Orderly) (ht : b.Tended) (h : b.Stranded n id i) : b.NeverWalked n id i := by
  intro c hreach
  obtain ⟨⟨s, hfound, hdown⟩, hunposted⟩ := hreach.stranded hb ht h
  have hlive := ((hreach.tended hb ht) id s n hfound).1.not_ended hdown
  exact ⟨⟨s, hfound, hdown, hlive⟩, visits_of_unposted hunposted _, visits_of_unposted hunposted _,
    visits_of_unposted hunposted _⟩

/-- The request that a session of a service refers to is posted for it, unless that service was replaced. -/
theorem Leads.backed_or_superseded {env : Env} {config : RuntimeConfig}
    (h : Leads (fun _ _ => True) (start env config) c) (hfound : c.sessions.find? id = some ⟨s, some (.later n)⟩) :
    c.Backed id ∨ Superseded (start env config) c n id := by
  have hstart := orderly_start env config
  have hbacked : (start env config).Backed id := fun _ _ hnone => by cases hnone
  rcases Broker.backed_or_superseded h hstart hbacked with hstill | ⟨m, hsuperseded⟩
  · exact .inl hstill
  · obtain ⟨i, ⟨u, hu, -⟩, -⟩ := hsuperseded.stranded hstart (tended_start env config)
    obtain ⟨-, hm⟩ := Slot.mk.inj (Option.some.inj (hu.symm.trans hfound))
    obtain rfl := Provider.later.inj (Option.some.inj hm)
    exact .inr hsuperseded

/-- In every state that is reached, whatever services there are and however often they are registered: a session of a
service of this component that answers later is walked once, each walk coming to it if it waits for what the walk is
about, unless the service was replaced while the session referred to a request of it.  Then the session is never walked
again and never over.  Two sessions of a service have two downstream ids, unless one of them was superseded. -/
theorem desk_walks {env : Env} {config : RuntimeConfig} (h : Leads (fun _ _ => True) (start env config) c) (n : String) :
    (∀ id s, c.sessions.find? id = some ⟨s, some (.later n)⟩ →
      ¬Superseded (start env config) c n id ∧ c.WalkedOnce n id s ∨
        Superseded (start env config) c n id ∧ ∃ i, s.downstream = some i ∧ c.NeverWalked n id i) ∧
      ∀ id id' s s' i, c.sessions.find? id = some ⟨s, some (.later n)⟩ →
        c.sessions.find? id' = some ⟨s', some (.later n)⟩ → s.downstream = some i → s'.downstream = some i →
        id = id' ∨ Superseded (start env config) c n id ∨ Superseded (start env config) c n id' := by
  have hstart := orderly_start env config
  have htstart := tended_start env config
  have hc := h.orderly hstart
  have htc := h.tended hstart htstart
  refine ⟨fun id s hfound => ?_, fun id id' s s' i hfound hfound' hdown hdown' => ?_⟩
  · rcases h.backed_or_superseded hfound with hbacked | hsuperseded
    · refine .inl ⟨fun hsuperseded => ?_, walkedOnce_of_backed hc htc hfound hbacked⟩
      obtain ⟨i, ⟨u, hu, hdown⟩, hunposted⟩ := hsuperseded.stranded hstart htstart
      exact hunposted i (hbacked u n hu i hdown)
    · obtain ⟨i, hstranded⟩ := hsuperseded.stranded hstart htstart
      obtain ⟨u, hu, hdown⟩ := hstranded.refers
      obtain ⟨rfl, -⟩ := Slot.mk.inj (Option.some.inj (hu.symm.trans hfound))
      exact .inr ⟨hsuperseded, i, hdown, neverWalked_of_stranded hc htc hstranded⟩
  · rcases h.backed_or_superseded hfound with hbacked | hsuperseded
    · rcases h.backed_or_superseded hfound' with hbacked' | hsuperseded'
      · exact .inl (Option.some.inj ((hbacked s n hfound i hdown).symm.trans (hbacked' s' n hfound' i hdown')))
      · exact .inr (.inr hsuperseded')
    · exact .inr (.inl hsuperseded)

/-- All sessions are for a service of this component. -/
def deskConfig : RuntimeConfig := { rules := [{ target := .here "disk" }] }

/-- The service is registered anew while its first session waits, and another session is created. -/
def deskReplaced : Broker := (start sampleEnv deskConfig).run
  [.registerDesk { name := "disk" }, .create ⟨0⟩ "disk" "ram_quota=4" {}, .registerDesk { name := "disk" },
    .create ⟨1⟩ "disk" "ram_quota=4" {}]

theorem leads_deskReplaced : Leads (fun _ _ => True) (start sampleEnv deskConfig) deskReplaced := by
  refine leads_run _ .refl fun op hop => ⟨?_, fun _ => trivial⟩
  simp only [List.mem_cons, List.not_mem_nil, or_false] at hop
  rcases hop with rfl | rfl | rfl | rfl <;> trivial

/-- The session that was there before the service was replaced is never walked, and the other one is walked once. -/
theorem deskReplaced_walks :
    (Superseded (start sampleEnv deskConfig) deskReplaced "disk" ⟨0⟩ ∧ deskReplaced.NeverWalked "disk" ⟨0⟩ ⟨0⟩) ∧
      ∃ s, deskReplaced.sessions.find? ⟨1⟩ = some ⟨s, some (.later "disk")⟩ ∧
        ¬Superseded (start sampleEnv deskConfig) deskReplaced "disk" ⟨1⟩ ∧ deskReplaced.WalkedOnce "disk" ⟨1⟩ s := by
  obtain ⟨hwalks, -⟩ := desk_walks leads_deskReplaced "disk"
  obtain ⟨s, hs, hphase, hdown⟩ : ∃ s, deskReplaced.sessions.find? ⟨0⟩ = some ⟨s, some (.later "disk")⟩ ∧
      s.phase = .createRequested ∧ s.downstream = some ⟨0⟩ := ⟨_, rfl, rfl, rfl⟩
  obtain ⟨s', hs'⟩ : ∃ s', deskReplaced.sessions.find? ⟨1⟩ = some ⟨s', some (.later "disk")⟩ := ⟨_, rfl⟩
  have hmissed : visits (deskReplaced.requested "disk") ⟨0⟩ = 0 := by decide +kernel
  have hseen : visits (deskReplaced.requested "disk") ⟨1⟩ = 1 := by decide +kernel
  refine ⟨?_, s', hs', ?_⟩
  · rcases hwalks ⟨0⟩ s hs with ⟨-, hwalked⟩ | ⟨hsuperseded, i, hi, hnever⟩
    · have hone := hwalked.requested
      rw [if_pos hphase, hmissed] at hone
      cases hone
    · obtain rfl := Option.some.inj (hdown.symm.trans hi)
      exact ⟨hsuperseded, hnever⟩
  · rcases hwalks ⟨1⟩ s' hs' with hwalked | ⟨-, i, -, hnever⟩
    · exact hwalked
    · have hnone := (hnever deskReplaced .refl).requested
      rw [hseen] at hnone
      cases hnone

/-- A service that is registered under a name in use drops the requests of the service before: a session that waits for
it is not walked, and the next one gets its downstream id. -/
theorem request_dropped :
    Leads (fun _ _ => True) (start sampleEnv deskConfig) deskReplaced ∧
      ¬(∀ id s, deskReplaced.sessions.find? id = some ⟨s, some (.later "disk")⟩ → deskReplaced.WalkedOnce "disk" id s) ∧
      ¬∀ id id' s s' i, deskReplaced.sessions.find? id = some ⟨s, some (.later "disk")⟩ →
        deskReplaced.sessions.find? id' = some ⟨s', some (.later "disk")⟩ → s.downstream = some i →
        s'.downstream = some i → id = id' := by
  obtain ⟨s, hs, hphase, hdown⟩ : ∃ s, deskReplaced.sessions.find? ⟨0⟩ = some ⟨s, some (.later "disk")⟩ ∧
      s.phase = .createRequested ∧ s.downstream = some ⟨0⟩ := ⟨_, rfl, rfl, rfl⟩
  obtain ⟨s', hs', hdown'⟩ : ∃ s', deskReplaced.sessions.find? ⟨1⟩ = some ⟨s', some (.later "disk")⟩ ∧
      s'.downstream = some ⟨0⟩ := ⟨_, rfl, rfl⟩
  refine ⟨leads_deskReplaced, fun hwalked => ?_, fun hapart => ?_⟩
  · have hone := (hwalked ⟨0⟩ s hs).requested
    have hmissed : visits (deskReplaced.requested "disk") ⟨0⟩ = 0 := by decide +kernel
    rw [if_pos hphase, hmissed] at hone
    cases hone
  · have hsame := hapart ⟨0⟩ ⟨1⟩ s s' ⟨0⟩ hs hs' hdown hdown'
    cases hsame

end Broker

end SessionBroker
