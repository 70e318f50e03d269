import SessionBroker.Proofs.DeskWalks

/-!
# SessionBroker.Proofs.Heeding — every answer of local code is applied

Local code is shown the requests of its service that are of one kind, and then its answers are applied one after the
other.  An answer to one session takes nothing from what the others wait for, so none is refused.

* `Broker.Shows`: what local code is shown: each session once, in the order of the requests.
* `Broker.Expects`: the answers are to sessions of the service, each of which waits for such an answer.
* `Broker.Heeds`: all answers are applied, and nothing else happens.
* `heeds_of_expects`: expected answers are applied, by induction on the answers that are left.
* `local_answers_heeded`: this holds for each of the three walks, in every state that a history leads to.
-/

namespace SessionBroker

theorem Ident.compare_eq_lt {side : Side} {i j : Ident side} : compare i j = .lt ↔ i.num < j.num :=
  Nat.compare_eq_lt

/-- The phase in which the answer to a request leaves the session. -/
def Response.phase : Response → Phase
  | .deliver _ | .upgradeDone => .capHandedOut
  | .denied => .serviceDenied
  | .insufficientRam => .insufficientRam
  | .insufficientCaps => .insufficientCaps
  | .closed => .closed

/-! ### Answers that fit -/

namespace RequestKind

variable {kind : RequestKind} {r : Response} {next : Phase}

theorem outcome?_eq (h : kind.outcome? r = some next) : next = r.phase := by
  cases kind <;> cases r <;> first | exact (Option.some.inj h).symm | cases h

/-- Only a create is answered with its end. -/
theorem eq_create_of_ends (h : kind.outcome? r = some next) (hends : r.endsCreate = true) :
    ∃ label args resources, kind = .create label args resources := by
  cases kind with
  | create label args resources => exact ⟨label, args, resources, rfl⟩
  | upgrade | close =>
    cases r with
    | upgradeDone | closed => cases hends
    | deliver | denied | insufficientRam | insufficientCaps => cases h

theorem fits_create (h : (kind matches .create _ _ _) = true) (hends : r.endsCreate = true) :
    ∃ next, kind.outcome? r = some next := by
  cases kind with
  | create label args resources =>
    cases r with
    | deliver | denied | insufficientRam | insufficientCaps => exact ⟨_, rfl⟩
    | upgradeDone | closed => cases hends
  | upgrade | close => cases h

theorem fits_upgrade (h : (kind matches .upgrade _) = true) : ∃ next, kind.outcome? .upgradeDone = some next := by
  cases kind with
  | upgrade delta => exact ⟨_, rfl⟩
  | create | close => cases h

theorem fits_close (h : (kind matches .close) = true) : ∃ next, kind.outcome? .closed = some next := by
  cases kind with
  | close => exact ⟨_, rfl⟩
  | create | upgrade => cases h

end RequestKind

/-- A session that asks to be created was not given up. -/
theorem Session.not_abandoned_of_create {s : Session} {label : Label} {args : Args} {resources : Quota}
    (h : s.requestKind? = some (.create label args resources)) : s.abandoned = false := by
  unfold requestKind? at h
  split at h
  · exact Bool.eq_false_iff.2 (Option.ite_none_left_eq_some.1 h).1
  all_goals cases h

namespace Broker

variable {b b' : Broker} {n : String} {id : ServerId} {s : Session} {shown : List (ServerId × Request)}
  {answers : List (ServerId × Response)} {callback : Nat → Request → Option Response}

/-- What local code of service `n` is shown, one request after the other. -/
structure Shows (b : Broker) (n : String) (shown : List (ServerId × Request)) : Prop where
  once : (shown.map Prod.fst).Nodup
  ascending : shown.Pairwise fun e e' => e.2.id.num < e'.2.id.num
  /-- Each session is one of the service, it refers to the request, and it waits for what the request says. -/
  waiting : ∀ e ∈ shown, ∃ s, b.sessions.find? e.1 = some ⟨s, some (.later n)⟩ ∧ s.downstream = some e.2.id ∧
    s.requestKind? = some e.2.kind

/-- Session `e.1` of service `n` waits for what `e.2` answers. -/
def Expects (b : Broker) (n : String) (e : ServerId × Response) : Prop :=
  ∃ s kind next, b.sessions.find? e.1 = some ⟨s, some (.later n)⟩ ∧ s.requestKind? = some kind ∧
    kind.outcome? e.2 = some next

/-- The answers of local code of service `n` lead from `b` to `b'`. -/
structure Heeds (b : Broker) (n : String) (answers : List (ServerId × Response)) (b' : Broker) : Prop where
  /-- No answer is refused: each fits the broker that the answers before it lead to. -/
  accepted : ∀ before e after, answers = before ++ e :: after →
    ((b.applyLocal n before).applyResponse (.later n) e.1 e.2).1 = .ok ()
  applied : ∀ e ∈ answers, ∃ s, b.sessions.find? e.1 = some ⟨s, some (.later n)⟩ ∧
    b'.sessions.find? e.1 = some ⟨s.answered e.2, some (.later n)⟩ ∧ (s.answered e.2).phase = e.2.phase ∧
      (e.2 = .upgradeDone → (s.answered e.2).pendingUpgrade = 0)
  others : ∀ id, id ∉ answers.map Prod.fst → b'.sessions.find? id = b.sessions.find? id
  /-- The parent is told of each answer once, in their order. -/
  told : b'.env.trace = b.env.trace ++ answers.map fun e => e.2.notice.event e.1

/-! ### One answer -/

/-- An answer that a session waits for is applied. -/
theorem applyResponse_of_expects {r : Response} {kind : RequestKind} {next : Phase}
    (hfound : b.sessions.find? id = some ⟨s, some (.later n)⟩) (hkind : s.requestKind? = some kind)
    (hr : kind.outcome? r = some next) :
    b.applyResponse (.later n) id r = (.ok (), b.responded (.later n) id s (s.answered r) r.notice) := by
  have hclosing : r.endsCreate = true → s.abandoned = true → s.phase = .closeRequested ∨ s.phase = .closed := by
    intro hends hab
    obtain ⟨label, args, resources, rfl⟩ := RequestKind.eq_create_of_ends hr hends
    cases (Session.not_abandoned_of_create hkind).symm.trans hab
  have hsettle : b.settle (.later n) id s r = some (b.responded (.later n) id s (s.answered r) r.notice) :=
    settle_of_closing hclosing (Session.responds_answered hkind hr).1
  have hsession : b.session? id = some s := by
    unfold session?
    rw [hfound]
    rfl
  unfold applyResponse
  simp only [hsession, hsettle]

theorem Expects.of_find? {e : ServerId × Response} (h : b.Expects n e)
    (hsame : b'.sessions.find? e.1 = b.sessions.find? e.1) : b'.Expects n e := by
  obtain ⟨s, kind, next, hfound, hrest⟩ := h
  exact ⟨s, kind, next, hsame.trans hfound, hrest⟩

/-! ### All answers -/

/-- Answers that sessions wait for are applied, one after the other: an answer to one session leaves what the others
wait for as it is. -/
theorem heeds_of_expects : ∀ (answers : List (ServerId × Response)) (b : Broker), (answers.map Prod.fst).Nodup →
    (∀ e ∈ answers, b.Expects n e) → b.Heeds n answers (b.applyLocal n answers)
  | [], b, _, _ =>
    { accepted := fun before e after h => by simp at h
      applied := fun _ h => by cases h
      others := fun _ _ => rfl
      told := (List.append_nil _).symm }
  | e :: answers, b, hnodup, hexpects => by
    obtain ⟨hnew, hnodup⟩ := List.nodup_cons.1 hnodup
    obtain ⟨s, kind, next, hfound, hkind, hr⟩ := hexpects e List.mem_cons_self
    have hone := applyResponse_of_expects hfound hkind hr
    obtain ⟨c, hc⟩ : ∃ c, c = b.responded (.later n) e.1 s (s.answered e.2) e.2.notice := ⟨_, rfl⟩
    rw [← hc] at hone
    have hself : c.sessions.find? e.1 = some ⟨s.answered e.2, some (.later n)⟩ := by
      rw [hc]
      exact find?_responded_self hfound
    have hothers : ∀ j, j ≠ e.1 → c.sessions.find? j = b.sessions.find? j := by
      intro j hj
      rw [hc]
      exact find?_responded_of_ne hj
    have hstep : b.applyLocal n (e :: answers) = c.applyLocal n answers := by
      unfold applyLocal
      rw [List.foldl_cons, hone]
    have hne : ∀ e' ∈ answers, e'.1 ≠ e.1 := fun e' he' h => hnew (List.mem_map.2 ⟨e', he', h⟩)
    have ih := heeds_of_expects answers c hnodup fun e' he' =>
      (hexpects e' (List.mem_cons_of_mem _ he')).of_find? (hothers e'.1 (hne e' he'))
    rw [hstep]
    refine { accepted := ?_, applied := ?_, others := ?_, told := ?_ }
    · intro before e' after hsplit
      cases before with
      | nil =>
        obtain ⟨rfl, -⟩ := List.cons.inj hsplit
        exact congrArg Prod.fst hone
      | cons x before =>
        obtain ⟨rfl, hrest⟩ := List.cons.inj hsplit
        have hbefore : b.applyLocal n (e :: before) = c.applyLocal n before := by
          unfold applyLocal
          rw [List.foldl_cons, hone]
        rw [hbefore]
        exact ih.accepted before e' after hrest
    · intro e' he'
      rcases List.mem_cons.1 he' with rfl | he'
      · refine ⟨s, hfound, (ih.others _ hnew).trans hself, ?_, fun hdone => ?_⟩
        · rw [(Session.responds_answered hkind hr).2, RequestKind.outcome?_eq hr]
        · rw [hdone]
          rfl
      · obtain ⟨s', hfound', hrest⟩ := ih.applied e' he'
        exact ⟨s', (hothers e'.1 (hne e' he')).symm.trans hfound', hrest⟩
    · intro j hj
      obtain ⟨hne', hrest⟩ := not_or.1 fun h => hj (List.mem_cons.2 h)
      exact (ih.others j hrest).trans (hothers j hne')
    · rw [ih.told, hc]
      simp [responded]

/-! ### The walks -/

/-- The requests of a service are listed in ascending order. -/
theorem ascending_localRequests (b : Broker) (n : String) :
    (b.localRequests n).Pairwise fun e e' => e.2.id.num < e'.2.id.num := by
  unfold localRequests
  cases b.providers.desks.find? n with
  | none => exact .nil
  | some d =>
    show (b.requestsAt n d).Pairwise _
    unfold requestsAt
    refine List.pairwise_filterMap.2 (d.requests.table.ascending.imp fun {x y} hlt e he e' he' => ?_)
    obtain ⟨s, -, hrest⟩ := Option.bind_eq_some_iff.1 he
    obtain ⟨kind, -, hsome⟩ := Option.bind_eq_some_iff.1 hrest
    obtain ⟨s', -, hrest'⟩ := Option.bind_eq_some_iff.1 he'
    obtain ⟨kind', -, hsome'⟩ := Option.bind_eq_some_iff.1 hrest'
    obtain rfl := Option.some.inj hsome
    obtain rfl := Option.some.inj hsome'
    exact Ident.compare_eq_lt.1 hlt

/-- Local code is shown some of the requests that are posted at its service. -/
theorem shows_of_sublist (hb : b.Orderly) (hshown : shown.Sublist (b.localRequests n)) : b.Shows n shown where
  once := (nodup_localRequests hb n).sublist (hshown.map Prod.fst)
  ascending := (ascending_localRequests b n).sublist hshown
  waiting e he := by
    obtain ⟨-, hposted, s, hs, hkind⟩ := mem_localRequests.1 (hshown.subset he)
    obtain ⟨s', hfound, hdown, -⟩ := hb.posted _ _ _ hposted
    unfold session? at hs
    rw [hfound] at hs
    obtain rfl := Option.some.inj hs
    exact ⟨s', hfound, hdown, hkind⟩

/-- Local code answers each request that it is shown at most once. -/
theorem sublist_collect (callback : Nat → Request → Option Response) (shown : List (ServerId × Request)) :
    ((collect callback shown).map Prod.fst).Sublist (shown.map Prod.fst) := by
  have hcollect : ∀ l : List ((ServerId × Request) × Nat),
      ((l.filterMap fun e => (callback e.2 e.1.2).map fun r => (e.1.1, r)).map Prod.fst).Sublist
        ((l.map Prod.fst).map Prod.fst) := by
    intro l
    induction l with
    | nil => exact .slnil
    | cons e l ih =>
      rw [List.filterMap_cons]
      cases callback e.2 e.1.2 with
      | none => exact ih.cons _
      | some r => exact ih.cons_cons _
  have hindexed := hcollect shown.zipIdx
  rwa [List.zipIdx_map_fst] at hindexed

/-- What local code says about some of its requests is heeded, if it answers what they ask. -/
theorem heeds_collect (hb : b.Orderly) (hshown : shown.Sublist (b.localRequests n))
    (hfits : ∀ e ∈ shown, ∀ k r, callback k e.2 = some r → ∃ next, e.2.kind.outcome? r = some next) :
    b.Shows n shown ∧ b.Heeds n (collect callback shown) (b.applyLocal n (collect callback shown)) := by
  have hshows := shows_of_sublist hb hshown
  refine ⟨hshows, heeds_of_expects _ b (hshows.once.sublist (sublist_collect callback shown)) fun e he => ?_⟩
  obtain ⟨r, k, hmem, hsaid⟩ := mem_collect he
  obtain ⟨s, hfound, -, hkind⟩ := hshows.waiting _ hmem
  obtain ⟨next, hnext⟩ := hfits _ hmem k e.2 hsaid
  exact ⟨s, r.kind, next, hfound, hkind, hnext⟩

/-- In every state that a history leads to, whatever services there are, what local code of a service is shown and what
it answers in each of the three walks: it is shown each session once, in the order of the requests, and each of its
answers is applied.  A create is answered with its end. -/
theorem local_answers_heeded {env : Env} {config : RuntimeConfig}
    (h : Leads (fun _ _ => True) (start env config) b) (n : String) :
    (∀ callback, (∀ k request r, callback k request = some r → r.endsCreate = true) →
      b.Shows n (b.requested n) ∧
        b.Heeds n (collect callback (b.requested n)) (b.answerRequested n callback)) ∧
      (∀ applied, b.Shows n (b.upgraded n) ∧
        b.Heeds n (collect (fun k request => if applied k request then some .upgradeDone else none) (b.upgraded n))
          (b.answerUpgraded n applied)) ∧
      ∀ closed, b.Shows n (b.closing n) ∧
        b.Heeds n (collect (fun k request => if closed k request then some .closed else none) (b.closing n))
          (b.answerClosing n closed) := by
  have hb := h.orderly (orderly_start env config)
  refine ⟨fun callback hends => ?_, fun applied => ?_, fun closed => ?_⟩
  · apply heeds_collect hb List.filter_sublist
    intro e he k r hr
    exact RequestKind.fits_create (List.mem_filter.1 he).2 (hends k e.2 r hr)
  · apply heeds_collect hb List.filter_sublist
    intro e he k r hr
    obtain ⟨-, hr⟩ := Option.ite_none_right_eq_some.1 hr
    obtain rfl := Option.some.inj hr
    exact RequestKind.fits_upgrade (List.mem_filter.1 he).2
  · apply heeds_collect hb List.filter_sublist
    intro e he k r hr
    obtain ⟨-, hr⟩ := Option.ite_none_right_eq_some.1 hr
    obtain rfl := Option.some.inj hr
    exact RequestKind.fits_close (List.mem_filter.1 he).2

/-- Two sessions of the service are created, the second one under the smaller id. -/
def deskAsked : Broker := (start sampleEnv deskConfig).run
  [.registerDesk { name := "disk" }, .create ⟨1⟩ "disk" "ram_quota=4" {}, .create ⟨0⟩ "disk" "ram_quota=4" {}]

theorem leads_deskAsked : Leads (fun _ _ => True) (start sampleEnv deskConfig) deskAsked := by
  refine leads_run _ .refl fun op hop => ⟨?_, fun _ => trivial⟩
  simp only [List.mem_cons, List.not_mem_nil, or_false] at hop
  rcases hop with rfl | rfl | rfl <;> trivial

/-- Local code denies the first request and lacks RAM for the second one. -/
def deskReply (k : Nat) (_ : Request) : Option Response := some (if k = 0 then .denied else .insufficientRam)

theorem local_answers_heeded_deskAsked :
    collect deskReply (deskAsked.requested "disk") = [(⟨1⟩, .denied), (⟨0⟩, .insufficientRam)] ∧
      deskAsked.Shows "disk" (deskAsked.requested "disk") ∧
      deskAsked.Heeds "disk" [(⟨1⟩, .denied), (⟨0⟩, .insufficientRam)]
        (deskAsked.answerRequested "disk" deskReply) := by
  have hsaid : collect deskReply (deskAsked.requested "disk") = [(⟨1⟩, .denied), (⟨0⟩, .insufficientRam)] := by
    decide +kernel
  have hends : ∀ k request r, deskReply k request = some r → r.endsCreate = true := by
    intro k request r hr
    obtain rfl := Option.some.inj hr
    split <;> rfl
  obtain ⟨hshows, hheeds⟩ := (local_answers_heeded leads_deskAsked "disk").1 deskReply hends
  rw [hsaid] at hheeds
  exact ⟨hsaid, hshows, hheeds⟩

end Broker

end SessionBroker
