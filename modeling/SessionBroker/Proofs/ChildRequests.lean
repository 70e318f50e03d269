import SessionBroker.Proofs.Responding

/-!
# SessionBroker.Proofs.ChildRequests — what a child is asked to do, and what its answers do

* `Session.due?`: the work that a session in its phase needs from a provider that answers later.
* `RequestKind.outcome?`: the answers that match a request, with the phase in which each leaves the session.
* `Broker.Awaits b id child request`: session `id` waits for the child to do what the request says.
* `mem_listing_iff`: a child is asked for what its sessions wait for.
* `mem_requestsFor_child_iff`: a service of a child finds posted what the child is asked for at the service.
* `childRequests_answerable`: one request is listed for each session that waits, and the child can answer each of them;
  what it answers is listed no longer.
-/

namespace SessionBroker

/-- The work that a session in its phase needs from a provider that answers later. -/
def Session.due? (s : Session) : Option RequestKind :=
  match s.phase with
  | .createRequested => some (.create s.label s.args s.resources)
  | .upgradeRequested => some (.upgrade s.pendingUpgrade)
  | .closeRequested => some .close
  | _ => none

/-- The phase in which an answer that matches a request leaves the session. -/
def RequestKind.outcome? : RequestKind → Response → Option Phase
  | .create _ _ _, .deliver _ => some .capHandedOut
  | .create _ _ _, r => r.refusalPhase?
  | .upgrade _, .upgradeDone => some .capHandedOut
  | .close, .closed => some .closed
  | _, _ => none

theorem Session.due?_eq_none {s : Session} (h : s.phase = .capHandedOut ∨ s.phase.isEnded = true) : s.due? = none := by
  unfold due?
  rcases h with h | h
  · rw [h]
  · cases hp : s.phase <;> first | rfl | (rw [hp] at h; cases h)

theorem Session.due?_eq_close_iff {s : Session} : s.due? = some .close ↔ s.phase = .closeRequested := by
  unfold due?
  cases s.phase <;> simp

/-- What the requester is told when the answer to a request is applied. -/
def Response.notice : Response → Notice
  | .deliver cap => .delivered cap
  | .denied => .answered .serviceDenied
  | .insufficientRam => .answered .insufficientRam
  | .insufficientCaps => .answered .insufficientCaps
  | .upgradeDone => .answered .sessionOk
  | .closed => .answered .sessionClosed

/-- What the answer to a request makes of the session. -/
def Session.answered (s : Session) : Response → Session
  | .deliver cap => { s with notify := false, handle := some ⟨cap, none⟩, phase := .capHandedOut }
  | .denied => s.refused .serviceDenied
  | .insufficientRam => s.refused .insufficientRam
  | .insufficientCaps => s.refused .insufficientCaps
  | .upgradeDone => s.upgraded
  | .closed => s.released

/-- An answer that matches what a session asks for fits it. -/
theorem Session.responds_answered {s : Session} {kind : RequestKind} {r : Response} {next : Phase}
    (hkind : s.requestKind? = some kind) (hr : kind.outcome? r = some next) :
    s.Responds r (s.answered r) r.notice ∧ (s.answered r).phase = next := by
  unfold requestKind? at hkind
  split at hkind
  · rename_i hphase
    obtain ⟨hab, hkind⟩ := Option.ite_none_left_eq_some.1 hkind
    obtain rfl := Option.some.inj hkind
    have hab : s.abandoned = false := Bool.eq_false_iff.2 hab
    cases r with
    | deliver cap => exact ⟨.delivered hphase hab, Option.some.inj hr⟩
    | denied | insufficientRam | insufficientCaps =>
      obtain rfl := Option.some.inj hr
      exact ⟨.refused hphase hab rfl rfl, rfl⟩
    | upgradeDone | closed => cases hr
  · rename_i hphase
    obtain rfl := Option.some.inj hkind
    cases r with
    | upgradeDone => exact ⟨.upgraded hphase, Option.some.inj hr⟩
    | deliver | denied | insufficientRam | insufficientCaps | closed => cases hr
  · rename_i hphase
    obtain rfl := Option.some.inj hkind
    have halive : s.isAlive = true := Session.isAlive_of_ne_closed (by rw [hphase]; exact Phase.noConfusion)
    cases r with
    | closed => exact ⟨.closed halive, Option.some.inj hr⟩
    | deliver | denied | insufficientRam | insufficientCaps | upgradeDone => cases hr
  · cases hkind

namespace Slot.Sound

variable {id : ServerId} {s : Session} {p : Option Provider} {q : Provider} {kind : RequestKind} {r : Response}
  {next : Phase}

/-- A create that is pending was not given up, so the phase says what is to be done. -/
theorem requestKind?_eq (h : Slot.Sound id ⟨s, p⟩) : s.requestKind? = s.due? := by
  unfold Session.requestKind? Session.due?
  cases hphase : s.phase with
  | createRequested =>
    have hab : s.abandoned = false := (h.waiting hphase).2
    rw [hab]
    rfl
  | _ => rfl

/-- A session that waits for a provider that answers later has a request there. -/
theorem exists_downstream (h : Slot.Sound id ⟨s, some q⟩) (hq : q.isAsync = true) (hdue : s.due? = some kind) :
    ∃ i, s.downstream = some i := by
  have hlive : s.phase.isEnded = false := by
    cases hended : s.phase.isEnded with
    | false => rfl
    | true =>
      rw [Session.due?_eq_none (.inr hended)] at hdue
      cases hdue
  exact Option.isSome_iff_exists.1 (h.async q rfl hq hlive)

/-- An answer that matches what a session waits for fits it. -/
theorem exists_responds (h : Slot.Sound id ⟨s, p⟩) (hdue : s.due? = some kind) (hr : kind.outcome? r = some next) :
    ∃ s' n, s.Responds r s' n ∧ s'.phase = next :=
  ⟨_, _, Session.responds_answered (h.requestKind?_eq.trans hdue) hr⟩

end Slot.Sound

/-- An answer that matches leaves nothing to be done. -/
theorem RequestKind.due?_of_outcome {kind : RequestKind} {r : Response} {s : Session}
    (h : kind.outcome? r = some s.phase) : s.due? = none := by
  refine Session.due?_eq_none ?_
  cases kind <;> cases r <;> cases hp : s.phase <;> rw [hp] at h <;> first | exact .inl rfl | exact .inr rfl | cases h

namespace Broker

variable {b : Broker} {id : ServerId} {child : String} {request : Request} {r : Response} {next : Phase}

/-- What a child is asked to do, with the sessions that it is asked for. -/
def listing (b : Broker) (child : String) : List (ServerId × Request) :=
  b.providers.children.entries.flatMap fun e => if e.1.child = child then b.requestsAt e.1.service e.2.desk else []

/-- Session `id` waits for the child to do what the request says. -/
def Awaits (b : Broker) (id : ServerId) (child : String) (request : Request) : Prop :=
  ∃ s, b.sessions.find? id = some ⟨s, some (.child child request.service)⟩ ∧ s.downstream = some request.id ∧
    s.due? = some request.kind

theorem childRequests_eq (b : Broker) (child : String) : b.childRequests child = (b.listing child).map Prod.snd := by
  unfold childRequests listing
  rw [List.map_flatMap]
  congr
  funext e
  split <;> rfl

theorem mem_requestsAt {service : String} {d : Desk} {e : ServerId × Request} :
    e ∈ b.requestsAt service d ↔ e.2.service = service ∧ (e.2.id, e.1) ∈ d.posted ∧
      ∃ s, b.session? e.1 = some s ∧ s.requestKind? = some e.2.kind := by
  unfold requestsAt
  rw [List.mem_filterMap]
  constructor
  · rintro ⟨x, hx, hsome⟩
    obtain ⟨s, hs, hrest⟩ := Option.bind_eq_some_iff.1 hsome
    obtain ⟨kind, hkind, heq⟩ := Option.bind_eq_some_iff.1 hrest
    obtain rfl := Option.some.inj heq
    exact ⟨rfl, hx, s, hs, hkind⟩
  · obtain ⟨id, service', i, kind⟩ := e
    rintro ⟨rfl, hx, s, hs, hkind⟩
    refine ⟨(i, id), hx, ?_⟩
    show (b.session? id).bind _ = _
    rw [hs]
    show s.requestKind?.bind _ = _
    rw [hkind]
    rfl

/-- What a service of a child finds posted is what the child is asked for at the service. -/
theorem mem_requestsFor_child_iff {service : String} {e : ServerId × Request} :
    e ∈ b.requestsFor (.child child service) ↔ e ∈ b.listing child ∧ e.2.service = service := by
  simp only [requestsFor, listing, List.mem_flatMap]
  constructor
  · intro he
    cases hv : b.providers.children.find? ⟨child, service⟩ with
    | none =>
      rw [hv] at he
      cases he
    | some v =>
      rw [hv] at he
      have he : e ∈ b.requestsAt service v.desk := he
      refine ⟨⟨(⟨child, service⟩, v), Table.find?_eq_some_iff.1 hv, ?_⟩, (mem_requestsAt.1 he).1⟩
      rwa [if_pos rfl]
  · rintro ⟨⟨⟨k, v⟩, hentry, hmem⟩, hservice⟩
    have hv : b.providers.children.find? k = some v := Table.find?_eq_some_iff.2 hentry
    split at hmem
    · rename_i hchild
      obtain rfl : k = ⟨child, service⟩ := ChildKey.ext hchild ((mem_requestsAt.1 hmem).1.symm.trans hservice)
      rw [hv]
      exact hmem
    · cases hmem

/-- A child is asked for what its sessions wait for. -/
theorem mem_listing_iff (hb : b.Sound) : (id, request) ∈ b.listing child ↔ b.Awaits id child request := by
  unfold listing
  rw [List.mem_flatMap]
  constructor
  · rintro ⟨⟨k, c⟩, hentry, hmem⟩
    have hc : b.providers.children.find? k = some c := Table.find?_eq_some_iff.2 hentry
    split at hmem
    · rename_i hchild
      obtain ⟨hservice, hposted, s, hs, hkind⟩ := mem_requestsAt.1 hmem
      obtain ⟨⟨s', p⟩, ht, hp, hdown⟩ := (posted_iff_refers hb hc).1 hposted
      obtain rfl : p = some k.provider := hp
      obtain rfl : s' = s := by
        unfold session? at hs
        rw [ht] at hs
        exact Option.some.inj hs
      subst hchild
      refine ⟨s', ?_, hdown, (hb.slots id _ ht).requestKind?_eq.symm.trans hkind⟩
      rw [ht, show request.service = k.service from hservice]
      rfl
    · cases hmem
  · rintro ⟨s, ht, hdown, hdue⟩
    have hrefers : b.Refers id ⟨child, request.service⟩ request.id := ⟨_, ht, rfl, hdown⟩
    obtain ⟨c, hc⟩ := hrefers.exists_service hb
    refine ⟨(⟨child, request.service⟩, c), Table.find?_eq_some_iff.1 hc, ?_⟩
    rw [if_pos rfl]
    refine mem_requestsAt.2 ⟨rfl, (posted_iff_refers hb hc).2 hrefers, s, ?_,
      (hb.slots id _ ht).requestKind?_eq.trans hdue⟩
    unfold session?
    rw [ht]
    rfl

/-- A session waits for one thing. -/
theorem Awaits.eq {request' : Request} (h : b.Awaits id child request) (h' : b.Awaits id child request') :
    request = request' := by
  obtain ⟨s, ht, hdown, hdue⟩ := h
  obtain ⟨s', ht', hdown', hdue'⟩ := h'
  obtain ⟨rfl, hprovider⟩ := Slot.mk.inj (Option.some.inj (ht.symm.trans ht'))
  obtain ⟨-, hservice⟩ := Provider.child.inj (Option.some.inj hprovider)
  have hid := Option.some.inj (hdown.symm.trans hdown')
  have hkind := Option.some.inj (hdue.symm.trans hdue')
  cases request
  cases request'
  simp_all

/-- No two sessions wait for the same. -/
theorem Awaits.unique (hb : b.Sound) {id' : ServerId} (h : b.Awaits id child request)
    (h' : b.Awaits id' child request) : id = id' := by
  obtain ⟨s, ht, hdown, -⟩ := h
  obtain ⟨s', ht', hdown', -⟩ := h'
  have hrefers : b.Refers id ⟨child, request.service⟩ request.id := ⟨_, ht, rfl, hdown⟩
  exact hrefers.unique hb ⟨_, ht', rfl, hdown'⟩

theorem nodup_requestsAt (b : Broker) (service : String) (d : Desk) : (b.requestsAt service d).Nodup := by
  have hkeys : (d.posted.map Prod.fst).Nodup := Table.nodup_keys d.requests.table
  refine (List.Nodup.of_map Prod.fst hkeys).filterMap fun x y e hx hy => ?_
  obtain ⟨s, -, hrest⟩ := Option.bind_eq_some_iff.1 hx
  obtain ⟨kind, -, hxe⟩ := Option.bind_eq_some_iff.1 hrest
  obtain ⟨s', -, hrest'⟩ := Option.bind_eq_some_iff.1 hy
  obtain ⟨kind', -, hye⟩ := Option.bind_eq_some_iff.1 hrest'
  obtain rfl := Option.some.inj hxe
  obtain ⟨hid, hrequest⟩ := Prod.mk.inj (Option.some.inj hye)
  exact Prod.ext (Request.mk.inj hrequest).2.1.symm hid.symm

theorem nodup_listing (b : Broker) (child : String) : (b.listing child).Nodup := by
  have hkeys : (b.providers.children.entries.map Prod.fst).Nodup := Table.nodup_keys b.providers.children
  unfold listing
  rw [List.nodup_flatMap]
  refine ⟨fun e he => ?_, (List.pairwise_map.1 hkeys).imp_of_mem fun {e e'} he he' hne => ?_⟩
  · split
    · exact nodup_requestsAt _ _ _
    · exact List.nodup_nil
  · -- the entries of two services of one child differ in the name of the service
    refine List.disjoint_left.2 fun x hx hx' => ?_
    dsimp only at hx hx'
    split at hx
    · split at hx'
      · rename_i hchild hchild'
        have hservice := (mem_requestsAt.1 hx).1.symm.trans (mem_requestsAt.1 hx').1
        exact hne (ChildKey.ext (hchild.trans hchild'.symm) hservice)
      · cases hx'
    · cases hx

/-- The requests that a child is told about stand for its sessions that wait for it, one for each. -/
theorem nodup_listing_sessions (hb : b.Sound) (child : String) : ((b.listing child).map Prod.fst).Nodup := by
  refine List.Nodup.map_on (fun e he e' he' hid => ?_) (b.nodup_listing child)
  have hawaits : b.Awaits e.1 child e.2 := (mem_listing_iff hb).1 he
  have hawaits' : b.Awaits e.1 child e'.2 := by
    rw [hid]
    exact (mem_listing_iff hb).1 he'
  exact Prod.ext hid (hawaits.eq hawaits')

theorem nodup_childRequests (hb : b.Sound) (child : String) : (b.childRequests child).Nodup := by
  rw [childRequests_eq]
  refine List.Nodup.map_on (fun e he e' he' hrequest => ?_) (b.nodup_listing child)
  have hawaits : b.Awaits e.1 child e.2 := (mem_listing_iff hb).1 he
  have hawaits' : b.Awaits e'.1 child e.2 := by
    rw [hrequest]
    exact (mem_listing_iff hb).1 he'
  exact Prod.ext (hawaits.unique hb hawaits') hrequest

theorem mem_childRequests_iff (hb : b.Sound) : request ∈ b.childRequests child ↔ ∃ id, b.Awaits id child request := by
  rw [childRequests_eq, List.mem_map]
  constructor
  · rintro ⟨⟨id, request⟩, hmem, rfl⟩
    exact ⟨id, (mem_listing_iff hb).1 hmem⟩
  · rintro ⟨id, hawaits⟩
    exact ⟨(id, request), (mem_listing_iff hb).2 hawaits, rfl⟩

/-! ### Answering what is listed -/

/-- What comes of an answer of a child to a request: it is taken, the session that refers to the request ends in phase
`next`, and the request is listed no longer, as the only one. -/
structure Completes (b : Broker) (child : String) (request : Request) (r : Response) (next : Phase) : Prop where
  taken : (b.childAnswer ⟨child, request.service⟩ request.id r).1 = .ok ()
  moved : ∃ id s s', b.sessions.find? id = some ⟨s, some (.child child request.service)⟩ ∧
    s.downstream = some request.id ∧
    (b.childAnswer ⟨child, request.service⟩ request.id r).2.sessions.find? id =
      some ⟨s', some (.child child request.service)⟩ ∧ s'.phase = next
  removed : ∀ q, q ∈ (b.childAnswer ⟨child, request.service⟩ request.id r).2.childRequests child ↔
    q ∈ b.childRequests child ∧ q ≠ request

/-- Once a session waits no longer, its request is listed no longer, and the other ones are. -/
theorem mem_childRequests_of_done {b' : Broker} (hb : b.Sound) (hb' : b'.Sound) (hawaits : b.Awaits id child request)
    {s' : Session} {p : Option Provider} (hfound : b'.sessions.find? id = some ⟨s', p⟩) (hdone : s'.due? = none)
    (hothers : ∀ j, j ≠ id → b'.sessions.find? j = b.sessions.find? j) (q : Request) :
    q ∈ b'.childRequests child ↔ q ∈ b.childRequests child ∧ q ≠ request := by
  have hidle : ∀ q, ¬b'.Awaits id child q := by
    rintro q ⟨s, ht, -, hdue⟩
    obtain ⟨rfl, -⟩ := Slot.mk.inj (Option.some.inj (hfound.symm.trans ht))
    rw [hdone] at hdue
    cases hdue
  have hsame : ∀ j, j ≠ id → (b'.Awaits j child q ↔ b.Awaits j child q) := by
    intro j hj
    unfold Awaits
    rw [hothers j hj]
  rw [mem_childRequests_iff hb', mem_childRequests_iff hb]
  constructor
  · rintro ⟨j, hq⟩
    have hj : j ≠ id := by
      rintro rfl
      exact hidle q hq
    have hq := (hsame j hj).1 hq
    refine ⟨⟨j, hq⟩, ?_⟩
    rintro rfl
    exact hj (hq.unique hb hawaits)
  · rintro ⟨⟨j, hq⟩, hne⟩
    have hj : j ≠ id := by
      rintro rfl
      exact hne (hq.eq hawaits)
    exact ⟨j, (hsame j hj).2 hq⟩

/-- A child can answer what it is asked for. -/
theorem completes_of_awaits (hb : b.Sound) (hawaits : b.Awaits id child request)
    (hr : request.kind.outcome? r = some next) : b.Completes child request r next := by
  obtain ⟨s, ht, hdown, hdue⟩ := hawaits
  obtain ⟨s', n, hresponds, rfl⟩ := (hb.slots id _ ht).exists_responds hdue hr
  have hfound : b.sessions.find? id = some ⟨s, some (ChildKey.mk child request.service).provider⟩ := ht
  have hanswer := childAnswer_of_responds hb hfound hdown hresponds
  have hsound := sound_responded hb hfound hresponds
  have hself : (b.responded (ChildKey.mk child request.service).provider id s s' n).sessions.find? id =
      some ⟨s', some (.child child request.service)⟩ := find?_responded_self hfound
  have hothers : ∀ j, j ≠ id → (b.responded (ChildKey.mk child request.service).provider id s s' n).sessions.find? j =
      b.sessions.find? j := fun j hj => find?_responded_of_ne hj
  have hsweep := (rearranged_sweep hsound).sound hsound
  constructor <;> rw [hanswer]
  · exact ⟨id, s, s', ht, hdown, hself, rfl⟩
  · exact mem_childRequests_of_done hb hsweep ⟨s, ht, hdown, hdue⟩ hself (RequestKind.due?_of_outcome hr) hothers

/-- In every state that is reached, a child is asked for one thing for each of its sessions that waits for it, and for
nothing else; and it can answer each of these requests, which are then listed no longer. -/
theorem childRequests_answerable {env : Env} {config : RuntimeConfig}
    (h : Reaches (fun _ _ => True) (fun _ _ => True) (start env config) b) (child : String) :
    (b.childRequests child = (b.listing child).map Prod.snd ∧ ((b.listing child).map Prod.fst).Nodup ∧
      (b.childRequests child).Nodup) ∧
    (∀ id request, (id, request) ∈ b.listing child ↔ b.Awaits id child request) ∧
    (∀ id s service kind, b.sessions.find? id = some ⟨s, some (.child child service)⟩ → s.due? = some kind →
      ∃ i, b.Awaits id child ⟨service, i, kind⟩) ∧
    ∀ request ∈ b.childRequests child, ∀ r next, request.kind.outcome? r = some next →
      b.Completes child request r next := by
  have hb := h.sound (sound_start env config)
  refine ⟨⟨b.childRequests_eq child, nodup_listing_sessions hb child, nodup_childRequests hb child⟩,
    fun id request => mem_listing_iff hb, fun id s service kind ht hdue => ?_, fun request hmem r next hr => ?_⟩
  · obtain ⟨i, hi⟩ := (hb.slots id _ ht).exists_downstream rfl hdue
    exact ⟨i, s, ht, hi, hdue⟩
  · obtain ⟨id, hawaits⟩ := (mem_childRequests_iff hb).1 hmem
    exact completes_of_awaits hb hawaits hr

/-- The child that was asked for a session is told so, and it can deliver it or refuse it. -/
theorem requestedOnce_answerable : ∃ request, requestedOnce.childRequests "fs" = [request] ∧
    request.kind.outcome? .denied = some .serviceDenied ∧
    requestedOnce.Completes "fs" request .denied .serviceDenied ∧
    requestedOnce.Completes "fs" request (.deliver (.mint "log" 0)) .capHandedOut := by
  have hreach : Reaches (fun _ _ => True) (fun _ _ => True) (start sampleEnv sampleConfig) requestedOnce :=
    reaches_requestedOnce
  obtain ⟨request, hlisted, hcreate⟩ : ∃ request, requestedOnce.childRequests "fs" = [request] ∧
      ∃ label args resources, request.kind = .create label args resources := ⟨_, rfl, _, _, _, rfl⟩
  obtain ⟨label, args, resources, hkind⟩ := hcreate
  have hmem : request ∈ requestedOnce.childRequests "fs" := by
    rw [hlisted]
    exact List.mem_singleton_self _
  obtain ⟨-, -, -, hcompletes⟩ := childRequests_answerable hreach "fs"
  have hdenied : request.kind.outcome? .denied = some .serviceDenied := by
    rw [hkind]
    rfl
  have hdelivered : request.kind.outcome? (.deliver (.mint "log" 0)) = some .capHandedOut := by
    rw [hkind]
    rfl
  exact ⟨request, hlisted, hdenied, hcompletes request hmem _ _ hdenied, hcompletes request hmem _ _ hdelivered⟩

end Broker

end SessionBroker
