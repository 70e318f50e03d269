import SessionBroker.Proofs.Leftovers
import SessionBroker.Proofs.Overlays
import SessionBroker.Proofs.ParentCalls
import SessionBroker.Proofs.Waiting

/-!
# SessionBroker.Proofs.ParentRequests — requests that the rules send to the parent

* `Broker.Abandons c rules n`: the rules withdraw service `n` of the parent, which is in use.
* `Leads.abandoned`: a service of the parent that was withdrawn was withdrawn so, and it is there since.
* `Broker.HandedOver`, `Broker.Denied`: what becomes of a request.
* `parent_request`: a request that the rules send to the parent is handed over, unless the service was withdrawn.
-/

namespace SessionBroker

/-- The quota of a new session is the one that its arguments name. -/
theorem RuntimeConfig.quota_newSession {c : RuntimeConfig} {service args : String} {affinity : Affinity} {s : Session}
    (h : c.newSession service args affinity = .ok s) : s.args.quota = .ok s.resources := by
  unfold newSession Session.create at h
  split at h
  · cases h
  · split at h
    · cases h
    · rename_i hq
      obtain rfl := Except.ok.inj h
      exact hq

namespace Broker

variable {allowed : Broker → Op → Prop} {b b' b'' : Broker} {id : ServerId} {s : Session} {n : String}
  {service : String}

/-! ### The services of the parent -/

/-- The services of the parent are left as they stand, but for some that are removed or made. -/
def Continues (b b' : Broker) : Prop :=
  b'.config = b.config ∧ ∀ n u, b'.providers.standing? (.parent n) = some u →
    b.providers.standing? (.parent n) = some u ∨ u = .made b.config.retryLimit n

namespace Continues

theorem trans (h : Continues b b') (h' : Continues b' b'') : Continues b b'' := by
  refine ⟨h'.1.trans h.1, fun n u hu => ?_⟩
  rcases h'.2 n u hu with hu | hmade
  · exact h.2 n u hu
  · rw [h.1] at hmade
    exact .inr hmade

theorem of_stands (h : b.Stands b') : Continues b b' := by
  refine ⟨h.config, fun n u hu => ?_⟩
  rcases h.providers.made _ u hu with hu | ⟨m, hm, rfl⟩
  · exact .inl hu
  · obtain rfl := Provider.parent.inj hm
    exact .inr rfl

theorem of_standing (hconfig : b'.config = b.config)
    (h : ∀ n u, b'.providers.standing? (.parent n) = some u → b.providers.standing? (.parent n) = some u) :
    Continues b b' := ⟨hconfig, fun n u hu => .inl (h n u hu)⟩

theorem refl (b : Broker) : Continues b b := .of_standing rfl fun _ _ hu => hu

theorem foldl {α : Type} {f : Broker → α → Broker} (h : ∀ b x, Continues b (f b x)) :
    ∀ (l : List α) (b : Broker), Continues b (l.foldl f b)
  | [], b => refl b
  | x :: l, b => (h b x).trans (foldl h l (f b x))

/-- Providers come, and the sessions that wait are routed again. -/
theorem retryWaiting (h : Continues b b') : Continues b b'.retryWaiting :=
  h.trans (.of_stands (chores_retryWaiting b').stands)

end Continues

theorem continues_sweep (b : Broker) : Continues b b.sweep := by
  refine .of_standing rfl fun n u hu => ?_
  rw [sweep, Registry.standing?_sweep] at hu
  exact Option.eq_some_of_filter_eq_some hu

theorem continues_removeService (b : Broker) (k : ChildKey) : Continues b (b.removeService k) := by
  refine (Continues.foldl (fun b id => .of_stands (chores_dismiss b id k).stands) b.sessions.keys b).trans ?_
  exact .of_standing rfl fun _ _ hu => hu

/-- Only new rules withdraw services of the parent. -/
theorem continues_step (op : Op) (hop : ∀ rules, op ≠ .applyRouting rules) : Continues b (b.step op).2 := by
  cases op with
  | applyRouting rules => exact absurd rfl (hop rules)
  | childAnswer k request r =>
    show Continues b (b.childAnswer k request r).2
    rcases childAnswer_cases b k request r with ⟨-, heq⟩ | ⟨-, c, hchores, heq⟩
    · rw [heq]
      exact .refl b
    · rw [heq]
      exact (Continues.of_stands hchores.stands).trans (continues_sweep c)
  | announce k account =>
    show Continues b (b.announce k account)
    unfold announce
    split
    · exact .refl b
    · exact (Continues.of_standing rfl fun _ _ hu => hu).retryWaiting
  | withdraw k => exact (Continues.of_standing rfl fun _ _ hu => hu).trans (continues_sweep _)
  | removeChild child => exact .foldl continues_removeService _ b
  | registerLocal service => exact (Continues.of_standing rfl fun _ _ hu => hu).retryWaiting
  | registerDesk d => exact (Continues.of_standing rfl fun _ _ hu => hu).retryWaiting
  | create | upgrade | close | answerRequested | answerUpgraded | answerClosing | reap =>
    exact .of_stands (Chores.stands (chores_step b fun h => h))

/-- New rules withdraw the services of the parent that they do not name, and remove those that are not in use. -/
theorem standing?_applyRouting {rules : List Rule} {u : Standing}
    (hu : (b.applyRouting rules).providers.standing? (.parent n) = some u) :
    u = .made b.config.retryLimit n ∨ ∃ v, b.providers.standing? (.parent n) = some v ∧
      (u = if rules.any fun r => r.names n then v else { v with withdrawn := true }) ∧
      (u.withdrawn = true → b.inUse (.parent n) = true) := by
  have hretried := Continues.of_stands (chores_retryWaiting { b with
    rules, providers := b.providers.abandonParents fun n => rules.any fun r => r.names n }.sweep).stands
  rcases hretried.2 n u hu with hu | hmade
  · rw [sweep, Registry.standing?_sweep, Registry.standing?_abandonParents] at hu
    obtain ⟨hmap, hkept⟩ := Option.filter_eq_some_iff.1 hu
    obtain ⟨v, hv, rfl⟩ := Option.map_eq_some_iff.1 hmap
    refine .inr ⟨v, hv, rfl, fun hgone => ?_⟩
    rw [hgone] at hkept
    exact hkept
  · exact .inl hmade

/-- Every service of the parent forwards requests under its name, as often as the configuration says. -/
def AllForward (b : Broker) : Prop :=
  ∀ n u, b.providers.standing? (.parent n) = some u → u.forwards = some (n, .upTo b.config.retryLimit.val)

theorem Continues.allForward (h : Continues b b') (hb : b.AllForward) : b'.AllForward := by
  intro n u hu
  rw [h.1]
  rcases h.2 n u hu with hu | rfl
  · exact hb n u hu
  · rfl

theorem allForward_step (op : Op) (hb : b.AllForward) : (b.step op).2.AllForward := by
  by_cases hop : ∃ rules, op = .applyRouting rules
  · obtain ⟨rules, rfl⟩ := hop
    intro n u hu
    have hconfig : (b.applyRouting rules).config = b.config := (chores_retryWaiting _).stands.config
    show u.forwards = some (n, .upTo (b.applyRouting rules).config.retryLimit.val)
    rw [hconfig]
    rcases standing?_applyRouting hu with rfl | ⟨v, hv, rfl, -⟩
    · rfl
    · rw [← hb n v hv]
      split <;> rfl
  · exact (continues_step op fun rules h => hop ⟨rules, h⟩).allForward hb

variable {env : Env} {config : RuntimeConfig}

theorem Leads.allForward (h : Leads allowed (start env config) b) : b.AllForward := by
  induction h with
  | refl => exact fun n u hu => by cases hu
  | op op _ _ _ ih => exact allForward_step op ih
  | around _ _ ih => exact ih

/-! ### How services of the parent are withdrawn -/

/-- The rules name no service `n` of the parent, which is there, in use and not withdrawn. -/
structure Abandons (c : Broker) (rules : List Rule) (n : String) : Prop where
  unnamed : (rules.any fun r => r.names n) = false
  inUse : c.inUse (.parent n) = true
  isOpen : ¬c.Gone (.parent n)

theorem abandons_of_step {op : Op} (hopen : ¬b.Gone (.parent n)) (hgone : (b.step op).2.Gone (.parent n)) :
    ∃ rules, op = .applyRouting rules ∧ b.Abandons rules n := by
  obtain ⟨u, hu, hwithdrawn⟩ := hgone
  by_cases hop : ∃ rules, op = .applyRouting rules
  · obtain ⟨rules, rfl⟩ := hop
    refine ⟨rules, rfl, ?_⟩
    rcases standing?_applyRouting hu with rfl | ⟨v, hv, rfl, huse⟩
    · cases hwithdrawn
    · refine ⟨?_, huse hwithdrawn, hopen⟩
      cases hnamed : rules.any fun r => r.names n with
      | false => rfl
      | true =>
        rw [hnamed, if_pos rfl] at hwithdrawn
        exact absurd ⟨v, hv, hwithdrawn⟩ hopen
  · rcases (continues_step op fun rules h => hop ⟨rules, h⟩).2 n u hu with hu | rfl
    · exact absurd ⟨u, hu, hwithdrawn⟩ hopen
    · cases hwithdrawn

/-- A service of the parent that was withdrawn was withdrawn by rules that did not name it, while it was in use, and it
is there since. -/
theorem Leads.abandoned (h : Leads allowed (start env config) b) (hgone : b.Gone (.parent n)) :
    ∃ c rules, Leads allowed (start env config) c ∧ c.Abandons rules n ∧
      Leads (fun d _ => d.Gone (.parent n)) (c.applyRouting rules) b := by
  induction h with
  | refl =>
    obtain ⟨u, hu, -⟩ := hgone
    cases hu
  | @op d op hreach hop _ ih =>
    by_cases hd : d.Gone (.parent n)
    · obtain ⟨c, rules, hc, habandons, hrest⟩ := ih hd
      exact ⟨c, rules, hc, habandons, .op op hrest hop hd⟩
    · obtain ⟨rules, rfl, habandons⟩ := abandons_of_step hd hgone
      exact ⟨d, rules, hreach, habandons, .refl⟩
  | around env _ ih =>
    obtain ⟨c, rules, hc, habandons, hrest⟩ := ih hgone
    exact ⟨c, rules, hc, habandons, .around env hrest⟩

/-! ### What becomes of a request -/

/-- A session as the provider sees it to which it is routed. -/
def shown (route : Route) (s : Session) : Session := if route.relabels s.label then s.relabel route.label else s

/-- The request of session `id` is handed to service `n` of the parent, which was not withdrawn: the parent is asked for
the session, unless the own account cannot pay or the configuration allows no try. -/
structure HandedOver (b b' : Broker) (id : ServerId) (n : String) (s : Session) : Prop where
  routed : b'.Owns (.parent n) id
  standing : b'.providers.standing? (.parent n) = some (.made b.config.retryLimit n)
  asked : b.config.retryLimit.val = 0 ∨ b.env.Lacks s.resources ∨
    ∃ i, b.env.Records b'.env (.sessionAsked i n s.args.text s.affinity)

/-- The request of session `id` is denied at once, and nothing else happens. -/
structure Denied (b b' : Broker) (id : ServerId) : Prop where
  env : b'.env = b.env.answer id .serviceDenied
  providers : b'.providers = b.providers
  session : ∃ s, b'.sessions.find? id = some ⟨s, none⟩ ∧ s.phase = .serviceDenied
  others : ∀ j, j ≠ id → b'.sessions.find? j = b.sessions.find? j

variable {route : Route} {args : String} {affinity : Affinity}

/-- A service of the parent that is there and was not withdrawn is found, and one that is not there is made. -/
theorem exists_parent (hb : b.AllForward) (hopen : ¬b.Gone (.parent n)) :
    ∃ r v, b.providers.findParent b.config.retryLimit n = (.found (.parent n), r) ∧ r.parents.find? n = some v ∧
      v.name = n ∧ v.tries = .upTo b.config.retryLimit.val ∧ v.abandoned = false := by
  unfold Registry.findParent
  cases hv : b.providers.parents.find? n with
  | none => exact ⟨_, _, rfl, Table.find?_insert_self _ _ _, rfl, rfl, rfl⟩
  | some v =>
    have hstanding : b.providers.standing? (.parent n) =
        some { withdrawn := v.abandoned, forwards := some (v.name, v.tries) } := by
      simp only [Registry.standing?, hv, Option.map_some]
    have hkept : v.abandoned = false := by
      cases hgone : v.abandoned with
      | false => rfl
      | true => exact absurd ⟨_, hstanding, hgone⟩ hopen
    obtain ⟨hname, htries⟩ := Prod.mk.inj (Option.some.inj (hb n _ hstanding))
    refine ⟨b.providers, v, ?_, hv, hname, htries, hkept⟩
    simp only [hkept, Bool.false_eq_true, if_false]

theorem missing_parent (hgone : b.Gone (.parent n)) (limit : Word) :
    b.providers.findParent limit n = (.missing, b.providers) := by
  obtain ⟨u, hu, hwithdrawn⟩ := hgone
  obtain ⟨v, hv, rfl⟩ := Option.map_eq_some_iff.1 hu
  have habandoned : v.abandoned = true := hwithdrawn
  unfold Registry.findParent
  rw [hv]
  dsimp only
  rw [if_pos habandoned]

/-- Nothing that was recorded is lost when a create is concluded. -/
theorem trace_extends_concludeCreate (b : Broker) (id : ServerId) (n : String) (s : Session)
    (error : Option SessionError) : b.env.trace <+: (b.concludeCreate id (.parent n) s error).env.trace := by
  have hrefuse : ∀ next, b.env.trace <+: (b.refuse id s next).env.trace := by
    intro next
    unfold refuse
    dsimp only
    split
    · exact Env.trace_extends_record _ _
    · exact List.prefix_rfl
  unfold concludeCreate
  split
  · unfold handOut
    split
    · exact Env.trace_extends_record _ _
    · exact List.prefix_rfl
  · exact List.prefix_rfl
  · exact hrefuse _
  · exact Env.trace_extends_record _ _
  · exact hrefuse _

/-- What a service of the parent did with a create is concluded.  No quota is moved to it. -/
theorem initiateCreate_parent {v : ParentService} (hv : b.providers.parents.find? n = some v) (id : ServerId)
    (s : Session) :
    b.initiateCreate id (.parent n) s = concludeCreate
      { b with
        env := (v.initiate s b.env).env
        providers.parents := b.providers.parents.insert n (v.initiate s b.env).service }
      id (.parent n) (v.initiate s b.env).session (v.initiate s b.env).error := by
  have haccount : b.providers.account (.parent n) = none := rfl
  have hinit : b.providers.initiate? s b.env (.parent n) = some ((v.initiate s b.env).map fun v =>
      { b.providers with parents := b.providers.parents.insert n v }) := by
    simp only [Registry.initiate?, hv, Option.map_some]
  unfold initiateCreate
  simp only [haccount, donate_none, takeBack_none, hinit, Option.isSome_none, Bool.false_eq_true, if_false, ite_self]
  rfl

/-- A request that was routed to a service of the parent is handed to it. -/
theorem asked_initiateCreate {v : ParentService} {limit : Word} (hv : b.providers.parents.find? n = some v)
    (hname : v.name = n) (htries : v.tries = .upTo limit.val) (hphase : s.phase = .createRequested)
    (hq : s.args.quota = .ok s.resources) (id : ServerId) :
    limit.val = 0 ∨ b.env.Lacks s.resources ∨
      ∃ i, b.env.Records (b.initiateCreate id (.parent n) s).env (.sessionAsked i n s.args.text s.affinity) := by
  by_cases hlimit : limit.val = 0
  · exact .inl hlimit
  · refine .inr ((v.asked_initiate hphase hq htries hlimit b.env).imp (fun h => h) ?_)
    rintro ⟨i, hasked⟩
    rw [hname] at hasked
    refine ⟨i, ?_⟩
    rw [initiateCreate_parent hv]
    exact hasked.of_extends (trace_extends_concludeCreate { b with
      env := (v.initiate s b.env).env
      providers.parents := b.providers.parents.insert n (v.initiate s b.env).service } id n _ _)

/-- A request that waits and is sent to the parent is handed over, unless the service was withdrawn. -/
theorem handedOver_routeSession (hb : b.AllForward) (hfound : b.sessions.find? id = some ⟨s, none⟩)
    (hphase : s.phase = .createRequested) (hq : s.args.quota = .ok s.resources) {rename : Option String}
    (hroute : resolve b.rules s.service s.label = .ok route) (htarget : route.target = .parent rename)
    (hopen : ¬b.Gone (.parent route.service)) :
    HandedOver b (b.routeSession id s) id route.service (shown route s) := by
  obtain ⟨r, v, hfind, hv, hname, htries, hkept⟩ := exists_parent hb hopen
  obtain ⟨u, hu⟩ : ∃ u, u = shown route s := ⟨_, rfl⟩
  obtain ⟨c, hc⟩ : ∃ c, c = { b with
      providers := r, sessions := b.sessions.modify id fun _ => ⟨u, some (.parent route.service)⟩ } := ⟨_, rfl⟩
  have heq : b.routeSession id s = c.initiateCreate id (.parent route.service) u := by
    have hlookup : b.providers.find b.config.retryLimit route.service (.parent rename) =
        (.found (.parent route.service), r) := hfind
    unfold routeSession
    rw [hroute]
    dsimp only
    rw [htarget, hlookup, hc, hu]
    rfl
  have hv : c.providers.parents.find? route.service = some v := by
    rw [hc]
    exact hv
  have hown : c.Owns (.parent route.service) id := by
    refine ⟨u, ?_⟩
    rw [hc]
    exact Table.find?_modify_of _ hfound
  have hstanding : c.providers.standing? (.parent route.service) =
      some (.made b.config.retryLimit route.service) := by
    simp only [Registry.standing?, hv, Option.map_some, hname, htries, hkept, Standing.made]
  obtain ⟨hcreate, hquota⟩ : u.phase = .createRequested ∧ u.args.quota = .ok u.resources := by
    rw [hu]
    unfold shown
    split
    · exact ⟨hphase, (Args.quota_setLabel _ _).trans hq⟩
    · exact ⟨hphase, hq⟩
  have hasked := asked_initiateCreate hv hname htries hcreate hquota id
  have henv : c.env = b.env := by rw [hc]
  rw [henv] at hasked
  rw [heq, ← hu]
  exact ⟨owns_initiateCreate hown u, (chores_initiateCreate c id _ u).stands.providers.kept _ _ hstanding, hasked⟩

/-- A request that waits and is sent to a service of the parent that was withdrawn is denied. -/
theorem denied_routeSession (hfound : b.sessions.find? id = some ⟨s, none⟩) (hphase : s.phase = .createRequested)
    {rename : Option String} (hroute : resolve b.rules s.service s.label = .ok route)
    (htarget : route.target = .parent rename) (hgone : b.Gone (.parent route.service)) :
    Denied b (b.routeSession id s) id := by
  have heq : b.routeSession id s = b.refuse id s .serviceDenied := by
    have hlookup : b.providers.find b.config.retryLimit route.service (.parent rename) = (.missing, b.providers) :=
      missing_parent hgone _
    unfold routeSession
    rw [hroute]
    dsimp only
    rw [htarget, hlookup]
  have hstores := stores_refuse b id s .serviceDenied
  rw [heq]
  refine ⟨rfl, hstores.providers, ⟨_, hstores.find?_self hfound, ?_⟩, fun j hj => hstores.find?_of_ne hj⟩
  rw [Session.advance_createFailure hphase rfl]

/-- A request whose arguments are well formed is taken, and then it is routed. -/
theorem create_eq_route (hlive : b.isLive id = false) (hs : b.config.newSession service args affinity = .ok s) :
    ∃ c, b.create id service args affinity = (.ok (), c.routeSession id (s.perform (.setServerId id))) ∧
      c = { b with sessions := (b.sessions.erase id).insert id { session := s.perform (.setServerId id) } } := by
  have hfresh := RuntimeConfig.isFresh_newSession hs
  rcases create_taken b id service args affinity with ⟨huse, -⟩ | ⟨-, taken, rfl, ⟨e, he, -⟩ | ⟨r, hr, heq⟩⟩
  · rw [hlive] at huse
    cases huse
  · cases hs.symm.trans he
  · obtain rfl := Except.ok.inj (hr.symm.trans hs)
    refine ⟨_, heq.trans ?_, rfl⟩
    have hwaiting : Slot.isWaiting ⟨r.perform (.setServerId id), none⟩ = true :=
      Slot.isWaiting_iff.2 ⟨rfl, hfresh.phase, hfresh.abandoned⟩
    unfold route
    rw [Table.find?_insert_self]
    dsimp only
    rw [if_pos hwaiting]

/-- The rules show a service to the parent under the name in their target. -/
theorem service_of_resolve {rules : List Rule} {l : Label} (h : resolve rules service l = .ok route) :
    route.service = route.target.forwarded service := by
  obtain ⟨_, _, _, ⟨-, rfl⟩, -⟩ := resolve_eq_ok_iff.1 h
  rfl

/-- In every state that is reached, a request with well-formed arguments that the rules send to the parent is handed to
the service of the forwarded name, unless that service was withdrawn.  If it was, and a live session still needs it,
then the request is denied.  A service is withdrawn only by rules that do not name it, while it is in use, and it is
there since. -/
theorem parent_request (h : Leads (fun _ _ => True) (start env config) b) (hlive : b.isLive id = false)
    (hs : b.config.newSession service args affinity = .ok s) (hroute : resolve b.rules service s.label = .ok route)
    {rename : Option String} (htarget : route.target = .parent rename) :
    (b.create id service args affinity).1 = .ok () ∧
      route.service = (Target.parent rename).forwarded service ∧
      (¬b.Gone (.parent route.service) → HandedOver b (b.create id service args affinity).2 id route.service
        (shown route (s.perform (.setServerId id)))) ∧
      (b.Gone (.parent route.service) → b.inUse (.parent route.service) = true →
        Denied b (b.create id service args affinity).2 id) ∧
      (b.Gone (.parent route.service) → ∃ c rules, Leads (fun _ _ => True) (start env config) c ∧
        c.Abandons rules route.service ∧
        Leads (fun d _ => d.Gone (.parent route.service)) (c.applyRouting rules) b) := by
  obtain ⟨c, heq, hc⟩ := create_eq_route hlive hs
  have hfresh := RuntimeConfig.isFresh_newSession hs
  have hfound : c.sessions.find? id = some ⟨s.perform (.setServerId id), none⟩ := by
    rw [hc]
    exact Table.find?_insert_self _ _ _
  have hothers : ∀ j, j ≠ id → c.sessions.find? j = b.sessions.find? j := by
    intro j hj
    rw [hc]
    exact (Table.find?_insert_of_ne _ _ hj).trans (Table.find?_erase_of_ne _ hj)
  have hroute' : resolve c.rules (s.perform (.setServerId id)).service (s.perform (.setServerId id)).label =
      .ok route := by
    rw [hc]
    show resolve b.rules s.service s.label = .ok route
    rw [RuntimeConfig.service_newSession hs]
    exact hroute
  have hgone : c.Gone (.parent route.service) ↔ b.Gone (.parent route.service) := by rw [hc]; rfl
  have hforward : c.AllForward := by rw [hc]; exact h.allForward
  have hname : route.service = (Target.parent rename).forwarded service := by
    rw [← htarget]
    exact service_of_resolve hroute
  rw [heq]
  refine ⟨rfl, hname, fun hopen => ?_, fun hwithdrawn _ => ?_, h.abandoned⟩
  · have hquota : s.args.quota = .ok s.resources := RuntimeConfig.quota_newSession hs
    have hover : HandedOver c _ id _ _ := handedOver_routeSession (s := s.perform (.setServerId id)) hforward hfound
      hfresh.phase hquota hroute' htarget fun h => hopen (hgone.1 h)
    rw [hc] at hover ⊢
    exact ⟨hover.routed, hover.standing, hover.asked⟩
  · have hdenied := denied_routeSession hfound hfresh.phase hroute' htarget (hgone.2 hwithdrawn)
    refine ⟨?_, ?_, hdenied.session, fun j hj => (hdenied.others j hj).trans (hothers j hj)⟩
    · rw [hdenied.env, hc]
    · rw [hdenied.providers, hc]

/-- Requests for the log go to the parent, which tries `limit` times. -/
def forwarding (limit : Word) : Broker := start sampleEnv { rules := [{ target := .parent none }], retryLimit := limit }

/-- A first request is handed to the parent. -/
theorem handedOver_forwarding : ∃ s, HandedOver (forwarding 1)
    ((forwarding 1).create ⟨1⟩ "log" "ram_quota=5" {}).2 ⟨1⟩ "log" s := by
  obtain ⟨s, hs, hlabel⟩ : ∃ s, (forwarding 1).config.newSession "log" "ram_quota=5" {} = .ok s ∧ s.label = .empty :=
    ⟨_, rfl, by decide +kernel⟩
  have hroute : resolve (forwarding 1).rules "log" s.label = .ok ⟨0, .parent none, "log", s.label⟩ := by
    rw [hlabel]
    decide +kernel
  have hfree : (forwarding 1).isLive ⟨1⟩ = false := rfl
  obtain ⟨-, -, hover, -, -⟩ := parent_request .refl hfree hs hroute rfl
  refine ⟨_, hover ?_⟩
  rintro ⟨u, hu, -⟩
  cases hu

/-- The rules drop the service of the parent while a session of it is live, and then they name it again. -/
def restored : Broker := (forwarding 1).run
  [.create ⟨1⟩ "log" "ram_quota=5" {}, .applyRouting [], .applyRouting [{ target := .parent none }]]

/-- A request that the rules send to the parent need not reach it: not while a service is there that was withdrawn
under earlier rules, and not where the configuration allows no try. -/
theorem denied_restored :
    (restored.isLive ⟨0⟩ = false ∧
      ((restored.config.newSession "log" "ram_quota=5" {}).toOption.map fun s =>
        (resolve restored.rules "log" s.label).toOption.map fun r => (r.target, r.service)) =
          some (some (.parent none, "log")) ∧
      ((restored.create ⟨0⟩ "log" "ram_quota=5" {}).2.sessions.find? ⟨0⟩).map (fun t => (t.session.phase, t.provider)) =
        some (.serviceDenied, none) ∧
      (restored.create ⟨0⟩ "log" "ram_quota=5" {}).2.env.trace =
        restored.env.trace ++ [.answered ⟨0⟩ .serviceDenied]) ∧
    ((forwarding 0).create ⟨1⟩ "log" "ram_quota=5" {}).2.env.trace = [.answered ⟨1⟩ .serviceDenied] := by
  decide +kernel

end Broker

end SessionBroker
