import SessionBroker.Proofs.Posting
import SessionBroker.Proofs.Waiting

/-!
# SessionBroker.Proofs.Wakeups — no request is posted at a child in silence

* `unheard_of_rearranged`, `unheard_settle`, `unheard_dismiss`: providers that come and go, answers of providers and the
  loss of a provider post nothing.
* `heard_retryWaiting`: sessions that are routed again wake a provider each, at most once.
* `bellsNamed_step`: the services of children keep bells of their own.
* `Broker.Wakeups b op as`: the providers in `as` are those that the operation wakes, each with the requests that it
  found posted at that moment.  What is new in the listing of a child, which is `childRequests` with the sessions, is
  among what the child found.
* `exists_wakeups`: every operation on a broker that is reached has its wakeups, at most one for each session.
-/

namespace SessionBroker.Broker

variable {b b' c : Broker} {id : ServerId} {s : Session} {p : Provider} {k : ChildKey}

/-! ### What posts nothing -/

theorem unheard_of_rearranged (hb : b.Sound) (h : Rearranged b b') (hwoken : b'.woken = b.woken) : Unheard b b' := by
  refine unheard_of_awaits hb (h.sound hb) ⟨by rw [h.env], hwoken⟩ fun id child request hawaits => hawaits.congr ?_
  rw [h.sessions]

/-- An answer that fits leaves nothing to be done for the session. -/
theorem due?_of_responds {s s' : Session} {r : Response} {n : Notice} (h : s.Responds r s' n) : s'.due? = none := by
  cases h with
  | givenUp | delivered | upgraded | closed => rfl
  | refused _ _ _ ha =>
    exact Session.due?_eq_none (.inr (Phase.isEnded_iff.2 (.inr (Phase.isCreateFailure_of_answer ha))))

/-- A provider that answers is not woken. -/
theorem unheard_settle (hb : b.Sound) (hfound : b.sessions.find? id = some ⟨s, some p⟩) (hholds : b.Holds p id s)
    {r : Response} (h : b.settle p id s r = some b') : Unheard b b' := by
  obtain ⟨t, t', m, ns, heffect⟩ := affects_settle hb hfound hholds h
  have hb' := heffect.sound hb
  obtain ⟨s', n, hr, rfl⟩ := (settle_eq_some_iff (hb.slots id _ hfound)).1 h
  refine unheard_of_idle hb hb' ⟨?_, rfl⟩ (fun j hj => find?_responded_of_ne hj)
    (idle_of_due?_none (find?_responded_self hfound) (due?_of_responds hr))
  show (b.env.trace ++ [n.event id]).filterMap Event.bell? = b.env.trace.filterMap Event.bell?
  rw [List.filterMap_append]
  cases n <;> exact List.append_nil _

theorem unheard_applyResponse (hb : b.Sound) (hserves : b.Serves p id) (r : Response) :
    Unheard b (b.applyResponse p id r).2 := by
  unfold applyResponse session?
  cases hfound : b.sessions.find? id with
  | none => exact .refl b
  | some t =>
    obtain ⟨s, provider⟩ := t
    obtain ⟨rfl, hholds⟩ := hserves _ hfound
    cases hsettle : b.settle p id s r with
    | none => simp [hsettle, Unheard.refl]
    | some b' => simpa [hsettle] using unheard_settle hb hfound hholds hsettle

theorem silent_finish (b : Broker) (p : Provider) (id : ServerId) (s : Session) (next : Phase) (a : Answer) :
    Silent b (b.finish p id s next a) := by
  have hrelease : Silent b (b.release p s) := by
    unfold release
    split <;> exact ⟨rfl, rfl⟩
  exact (hrelease.refund _ id _).answer id a

/-- Nobody is woken when a session loses its provider. -/
theorem unheard_dismiss (hb : b.Sound) (k : ChildKey) (id : ServerId) : Unheard b (b.dismiss k id) := by
  rcases dismiss_cases hb k id with ⟨heq, -⟩ | hends
  · rw [heq]
    exact .refl b
  · obtain ⟨t, hfound, hended⟩ := hends.find?_self
    refine unheard_of_idle hb (hends.sound hb) ?_ (fun j hj => hends.find?_of_ne hj)
      (idle_of_due?_none hfound (Session.due?_eq_none (.inr hended)))
    unfold dismiss
    split
    · exact .refl b
    · split
      · dsimp only
        split <;> exact silent_finish b _ _ _ _ _
      · exact .refl b

/-- What posts nothing posts nothing when it is done again and again. -/
theorem unheard_foldl {α : Type} {f : Broker → α → Broker} (hsound : ∀ b x, b.Sound → (f b x).Sound)
    (h : ∀ b x, b.Sound → Unheard b (f b x)) : ∀ (l : List α) (b : Broker), b.Sound → Unheard b (l.foldl f b)
  | [], b, _ => .refl b
  | x :: l, b, hb => (h b x hb).trans (unheard_foldl hsound h l (f b x) (hsound b x hb))

theorem unheard_removeService (hb : b.Sound) (k : ChildKey) : Unheard b (b.removeService k) := by
  have hdismiss : Unheard b (b.sessions.keys.foldl (dismiss k) b) :=
    unheard_foldl (fun _ id hb => (endings_dismiss hb k id).sound hb) (fun _ id hb => unheard_dismiss hb k id) _ b hb
  have hsound : (b.sessions.keys.foldl (dismiss k) b).Sound :=
    (Endings.foldl (fun _ id hb => endings_dismiss hb k id) _ b hb).sound hb
  exact hdismiss.trans (unheard_of_rearranged hsound (rearranged_erase hsound (lost_dismissAll hb k)) rfl)

theorem unheard_childAnswer (hb : b.Sound) (k : ChildKey) (request : ClientId) (r : Response) :
    Unheard b (b.childAnswer k request r).2 := by
  rcases childAnswer_taken b k request r with ⟨e, heq⟩ | ⟨id, hid, heq⟩
  · rw [heq]
    exact .refl b
  · have hserves := serves_of_request? hb hid
    have happly : Changes (fun _ => False) b (b.applyResponse k.provider id r).2 :=
      .of_affects (applyResponse_cases hb hserves r)
    have hsound := happly.sound hb
    rw [heq]
    exact (unheard_applyResponse hb hserves r).trans (unheard_of_rearranged hsound (rearranged_sweep hsound) rfl)

theorem unheard_answers (hb : b.Sound) (service : String) {callback : Nat → Request → Option Response}
    {requests : List (ServerId × Request)} (hshown : ∀ e ∈ requests, e ∈ b.localRequests service) :
    Unheard b (b.applyLocal service (collect callback requests)) :=
  applyLocal_induction .refl (fun _ _ _ => .trans) (fun _ _ r hb hserves => unheard_applyResponse hb hserves r) _ b hb
    fun _ he => serves_of_mem_collect hb hshown he

/-- Closed sessions are forgotten. -/
theorem unheard_forgotten (hb : b.Sound) (keep : ServerId → Slot → Bool)
    (hkeep : ∀ id t, b.sessions.find? id = some t → keep id t = false → t.session.isAlive = false) :
    Unheard b { b with sessions := b.sessions.filter keep } := by
  have hchange : Change (fun _ => False) b { b with sessions := b.sessions.filter keep } := .forgotten keep hkeep
  refine unheard_of_awaits hb (hchange.sound hb) ⟨rfl, rfl⟩ ?_
  rintro id child request ⟨s, hs, hrest⟩
  exact ⟨s, Table.find?_of_filter hs, hrest⟩

/-! ### Bells of children -/

/-- Where every service of a child keeps its bell, the bells are those of the services. -/
theorem BellsNamed.of_standing (h : b.BellsNamed)
    (hkept : ∀ c n u, b'.providers.standing? (.child c n) = some u →
      ∃ v, b.providers.standing? (.child c n) = some v ∧ u.bell = v.bell) : b'.BellsNamed := by
  intro c n u hu
  obtain ⟨v, hv, heq⟩ := hkept c n u hu
  rw [heq]
  exact h c n v hv

theorem bellsNamed_sweep (h : b.BellsNamed) : b.sweep.BellsNamed := by
  refine h.of_standing fun c n u hu => ⟨u, ?_, rfl⟩
  rw [sweep, Registry.standing?_sweep] at hu
  exact Option.eq_some_of_filter_eq_some hu

theorem bellsNamed_withdraw (h : b.BellsNamed) (k : ChildKey) : (b.withdraw k).BellsNamed := by
  refine bellsNamed_sweep (h.of_standing fun c n u hu => ?_)
  rw [Registry.standing?_withdrawn] at hu
  split at hu
  · obtain ⟨v, hv, rfl⟩ := Option.map_eq_some_iff.1 hu
    exact ⟨v, hv, rfl⟩
  · exact ⟨u, hu, rfl⟩

theorem bellsNamed_announced (h : b.BellsNamed) (k : ChildKey) (account : AccountId) :
    BellsNamed { b with
      providers.children := b.providers.children.insert k (.announced k.child k.service account) } := by
  intro c n u hu
  rw [Registry.standing?_announced] at hu
  split at hu
  · rename_i hk
    obtain ⟨rfl, rfl⟩ := Provider.child.inj hk
    obtain rfl := Option.some.inj hu
    rfl
  · exact h c n u hu

theorem bellsNamed_rerouted (h : b.BellsNamed) (rules : List Rule) (keep : String → Bool) :
    BellsNamed { b with rules, providers := b.providers.abandonParents keep } := by
  refine h.of_standing fun c n u hu => ⟨u, ?_, rfl⟩
  rwa [Registry.standing?_abandonParents_of_ne _ _ fun m hm => by cases hm] at hu

theorem bellsNamed_forgotten (h : b.BellsNamed) (k : ChildKey) :
    BellsNamed { b with providers.children := b.providers.children.erase k } := by
  refine h.of_standing fun c n u hu => ⟨u, ?_, rfl⟩
  rw [Registry.standing?_forgotten] at hu
  split at hu
  · cases hu
  · exact hu

theorem bellsNamed_removeService (h : b.BellsNamed) (k : ChildKey) : (b.removeService k).BellsNamed :=
  bellsNamed_forgotten (h.of_stands (Chores.foldl (fun b id => chores_dismiss b id k) _ b).stands) k

/-- Every operation leaves the services of children with bells of their own. -/
theorem bellsNamed_step (h : b.BellsNamed) (op : Op) : (b.step op).2.BellsNamed := by
  have hretry : ∀ {c : Broker}, c.BellsNamed → c.retryWaiting.BellsNamed :=
    fun hc => hc.of_stands (chores_retryWaiting _).stands
  cases op with
  | announce k account =>
    show (b.announce k account).BellsNamed
    unfold announce
    split
    · exact h
    · exact hretry (bellsNamed_announced h k account)
  | applyRouting rules => exact hretry (bellsNamed_sweep (bellsNamed_rerouted h rules _))
  | registerLocal service => exact hretry fun c n u hu => h c n u hu
  | registerDesk d => exact hretry fun c n u hu => h c n u hu
  | withdraw k => exact bellsNamed_withdraw h k
  | removeChild child => exact List.foldlRecOn _ removeService h fun _ hc k _ => bellsNamed_removeService hc k
  | childAnswer k request r =>
    show (b.childAnswer k request r).2.BellsNamed
    rcases childAnswer_cases b k request r with ⟨-, heq⟩ | ⟨-, c, hchores, heq⟩
    · rw [heq]
      exact h
    · rw [heq]
      exact bellsNamed_sweep (h.of_stands hchores.stands)
  | create | upgrade | close | answerRequested | answerUpgraded | answerClosing | reap =>
    exact h.of_stands (Chores.stands (chores_step b fun h => h))

/-- In every state that is reached, the services of children have bells of their own. -/
theorem Reaches.bellsNamed {around : Env → Env → Prop} {allowed : Broker → Op → Prop} {env : Env}
    {config : RuntimeConfig} (h : Reaches around allowed (start env config) b) : b.BellsNamed := by
  induction h with
  | refl => exact fun _ _ _ hu => by cases hu
  | op op _ _ _ ih => exact bellsNamed_step ih op
  | around _ _ ih => exact fun c n u hu => ih c n u hu

/-! ### Operations that wake -/

/-- Providers are woken on the way, for no session twice.  None of these sessions waited for a child before. -/
def Heard (b b' : Broker) : Prop :=
  ∃ as, Alerts b as b' ∧ (as.map Alert.session).Nodup ∧ ∀ a ∈ as, b.Idle a.session

theorem Unheard.heard (h : Unheard b b') : Heard b b' :=
  ⟨[], .of_unheard h, List.nodup_nil, fun _ ha => by cases ha⟩

/-- Providers change first, which wakes nobody. -/
theorem Heard.of_rearranged (hb : b.Sound) (h : Rearranged b c) (hwoken : c.woken = b.woken) (h' : Heard c b') :
    Heard b b' := by
  obtain ⟨as, halerts, hnodup, hidle⟩ := h'
  refine ⟨as, (Alerts.of_unheard (unheard_of_rearranged hb h hwoken)).trans halerts, hnodup, fun a ha => ?_⟩
  intro child request hawaits
  exact hidle a ha child request (hawaits.congr (by rw [h.sessions]))

/-- Sessions are routed one after the other, and each wakes its provider at most. -/
theorem alerts_routes : ∀ (ids : List ServerId) (b : Broker), b.Sound → b.BellsNamed →
    ∃ as, Alerts b as (ids.foldl route b) ∧ (as.map Alert.session).Sublist ids
  | [], b, _, _ => ⟨[], .of_unheard (.refl b), .slnil⟩
  | id :: ids, b, hb, hnamed => by
    -- routing makes services of the parent only, so the bells of children are named for the rest too
    have hchanges : Changes (fun _ => False) b (b.route id) := changes_route hb id
    obtain ⟨as, halerts, hsub⟩ :=
      alerts_routes ids (b.route id) (hchanges.sound hb) (hnamed.of_stands (chores_route b id).stands)
    rcases attends_route hb hnamed id with hquiet | ⟨a, rfl, hrings⟩
    · exact ⟨as, (Alerts.of_unheard hquiet).trans halerts, hsub.cons id⟩
    · exact ⟨a :: as, (Alerts.of_rings hrings).trans halerts, hsub.cons_cons a.session⟩

/-- Sessions that wait are routed again, each once. -/
theorem heard_retryWaiting (hb : b.Sound) (hnamed : b.BellsNamed) : Heard b b.retryWaiting := by
  obtain ⟨as, halerts, hsub⟩ := alerts_routes _ b hb hnamed
  refine ⟨as, halerts, hsub.nodup (Table.nodup_keys _), fun a ha => ?_⟩
  -- a session that waits for a provider has none, so it waits for no child
  obtain ⟨⟨s, provider⟩, ht⟩ := Table.mem_keys.1 (hsub.subset (List.mem_map_of_mem ha))
  rw [Table.find?_filter] at ht
  obtain ⟨hfound, hwaits⟩ := Option.filter_eq_some_iff.1 ht
  obtain ⟨rfl, -⟩ := Slot.isWaiting_iff.1 hwaits
  exact idle_of_unrouted hfound

/-- Providers change, and then the sessions that wait are routed again. -/
theorem heard_rearranged (hb : b.Sound) (h : Rearranged b b') (hwoken : b'.woken = b.woken) (hnamed : b'.BellsNamed) :
    Heard b b'.retryWaiting :=
  (heard_retryWaiting (h.sound hb) hnamed).of_rearranged hb h hwoken

/-- A session that is closed, or not there, waits for no child. -/
theorem idle_of_not_isLive (hlive : b.isLive id = false) : b.Idle id := by
  cases ht : b.sessions.find? id with
  | none => exact idle_of_absent ht
  | some t =>
    have hended := Session.isEnded_of_not_alive (not_alive_of_isLive hlive ht)
    exact idle_of_due?_none ht (Session.due?_eq_none (.inr hended))

/-- What was kept of an earlier session of an id is forgotten when the id is taken again. -/
theorem unheard_forget (hb : b.Sound) (hlive : b.isLive id = false) :
    Unheard b { b with sessions := b.sessions.erase id } := by
  have hforget : Change (fun _ => False) b { b with sessions := b.sessions.erase id } := change_forget hlive
  exact unheard_of_idle hb (hforget.sound hb) ⟨rfl, rfl⟩ (fun j hj => Table.find?_erase_of_ne _ hj)
    (idle_of_absent (Table.find?_erase_self _ _))

/-- A session that is opened wakes its provider at most. -/
theorem heard_create (hb : b.Sound) (hnamed : b.BellsNamed) (id : ServerId) (service args : String)
    (affinity : Affinity) : Heard b (b.create id service args affinity).2 := by
  rcases create_taken b id service args affinity with ⟨-, hsame⟩ | ⟨hlive, taken, htaken, hrest⟩
  · rw [hsame]
    exact (Unheard.refl b).heard
  · have hforget : Change (fun j => j = id) b taken := htaken ▸ change_forget hlive
    have hquiet : Unheard b taken := htaken ▸ unheard_forget hb hlive
    have hsound := hforget.sound hb
    have habsent : taken.sessions.find? id = none := by
      rw [htaken]
      exact Table.find?_erase_self _ _
    rcases hrest with ⟨e, -, heq⟩ | ⟨r, hr, heq⟩
    · have hdenied : Change (fun j => j = id) taken (taken.answer id .serviceDenied) := .malformed rfl habsent
      rw [heq]
      exact (hquiet.trans (unheard_of_idle hsound (hdenied.sound hsound) ((Silent.refl taken).answer id _)
        (fun _ _ => rfl) (idle_of_absent habsent))).heard
    · have hadmitted : Change (fun j => j = id) taken _ :=
        .admitted rfl habsent (RuntimeConfig.isFresh_newSession hr)
      have hopened := hquiet.trans (unheard_of_idle hsound (hadmitted.sound hsound) ⟨rfl, rfl⟩
        (fun j hj => Table.find?_insert_of_ne _ _ hj) (idle_of_unrouted (Table.find?_insert_self _ _ _)))
      have hnamed' : taken.BellsNamed := htaken ▸ hnamed.of_stands (.of_eq rfl rfl rfl)
      rw [heq]
      rcases attends_route (hadmitted.sound hsound) (hnamed'.of_stands (.of_eq rfl rfl rfl)) id with
        hunheard | ⟨a, rfl, hrings⟩
      · exact (hopened.trans hunheard).heard
      · refine ⟨[a], (Alerts.of_unheard hopened).trans (.of_rings hrings), List.nodup_singleton _, fun a' ha => ?_⟩
        obtain rfl := List.mem_singleton.1 ha
        exact idle_of_not_isLive hlive

/-- Whatever the operation, upgrades and closes apart, no session has its provider woken twice, and none of these
sessions waited for a child before. -/
theorem heard_step (hb : b.Sound) (hnamed : b.BellsNamed) {op : Op} (hop : op.IsBuiltIn)
    (hupgrade : ∀ id q, op ≠ .upgrade id q) (hclose : ∀ id, op ≠ .close id) : Heard b (b.step op).2 := by
  cases op with
  | create id service args affinity => exact heard_create hb hnamed id service args affinity
  | upgrade id q => exact absurd rfl (hupgrade id q)
  | close id => exact absurd rfl (hclose id)
  | childAnswer k request r => exact (unheard_childAnswer hb k request r).heard
  | announce k account =>
    show Heard b (b.announce k account)
    unfold announce
    split
    · exact (Unheard.refl b).heard
    · rename_i hfree
      exact heard_rearranged hb (rearranged_announce hb (by simpa using hfree) account) rfl
        (bellsNamed_announced hnamed k account)
  | withdraw k =>
    have hone := rearranged_withdraw hb k
    exact ((unheard_of_rearranged hb hone rfl).trans
      (unheard_of_rearranged (hone.sound hb) (rearranged_sweep (hone.sound hb)) rfl)).heard
  | removeChild child =>
    exact (unheard_foldl (fun _ k hb => (endings_removeService hb k).sound hb)
      (fun _ k hb => unheard_removeService hb k) _ b hb).heard
  | applyRouting rules =>
    have hone := rearranged_abandonParents hb rules fun n => rules.any fun r => r.names n
    exact (heard_rearranged (hone.sound hb) (rearranged_sweep (hone.sound hb)) rfl
      (bellsNamed_sweep (bellsNamed_rerouted hnamed rules _))).of_rearranged hb hone rfl
  | registerLocal service =>
    obtain ⟨l, rfl⟩ := hop
    exact heard_rearranged hb (.of_alike rfl rfl rfl (.insert_local hb.builtIn _ l)) rfl fun c n u hu => hnamed c n u hu
  | registerDesk d => exact heard_rearranged hb (rearranged_registerDesk hb hop) rfl fun c n u hu => hnamed c n u hu
  | answerRequested service callback => exact (unheard_answers hb service fun e he => (List.mem_filter.1 he).1).heard
  | answerUpgraded service applied => exact (unheard_answers hb service fun e he => (List.mem_filter.1 he).1).heard
  | answerClosing service closed => exact (unheard_answers hb service fun e he => (List.mem_filter.1 he).1).heard
  | reap => exact (unheard_forgotten hb (fun _ t => t.session.isAlive) fun _ _ _ h => h).heard

/-! ### Entries that are new, changed or added to -/

/-- Whether the operation is an upgrade of session `id` that is accepted. -/
def Op.Upgrades (b : Broker) : Op → ServerId → Prop
  | .upgrade i q, id => i = id ∧ (b.upgrade i q).1.isOk = true
  | _, _ => False

/-- The providers that an operation wakes. -/
structure Wakeups (b : Broker) (op : Op) (as : List Alert) : Prop where
  /-- These providers are woken in this order, and no others.  Each finds these requests posted when it is woken. -/
  woken : (b.step op).2.woken = b.woken ++ as.map (·.wakeup)
  /-- These bells ring, and no others. -/
  bells : (b.step op).2.env.bells = b.env.bells ++ as.filterMap (·.bell)
  /-- No provider is woken twice for one session. -/
  once : (as.map (·.session)).Nodup
  /-- Whenever an entry is new in the listing of a child, in what it asks for or as a whole, or an upgrade is added to
  it, the child's service is woken for its session, and finds the entry posted when it is woken. -/
  shown : ∀ child e, e ∈ (b.step op).2.listing child → e ∉ b.listing child ∨ op.Upgrades b e.1 →
    ∃ a ∈ as, a.Shows child e
  /-- A service of a child is woken only for a session whose entry it finds posted, and the entry is new or added to. -/
  due : ∀ a ∈ as, ∀ child service, a.provider = .child child service → ∃ request, a.Shows child (a.session, request) ∧
    ((a.session, request) ∉ b.listing child ∨ op.Upgrades b a.session)

/-- What is heard of an operation that upgrades nothing are its wakeups. -/
theorem Heard.wakeups {op : Op} (hb : b.Sound) (h : Heard b (b.step op).2) (hop : ∀ id, ¬op.Upgrades b id) :
    ∃ as, b.Wakeups op as := by
  obtain ⟨as, halerts, hnodup, hidle⟩ := h
  refine ⟨as, halerts.woken, halerts.bells, hnodup, fun child e he hnew => ?_, fun a ha child service hprovider => ?_⟩
  · exact halerts.shown child e he (hnew.resolve_right (hop e.1))
  · obtain ⟨request, hshows⟩ := halerts.due a ha child service hprovider
    exact ⟨request, hshows, .inl fun hmem => hidle a ha child request ((mem_listing_iff hb).1 hmem)⟩

/-- The wakeups of an operation on one session, which wakes its provider or nobody. -/
theorem Attends.wakeups {op : Op} (h : Attends b (b.step op).2 id)
    (hnew : ∀ a, Rings b (b.step op).2 a → ∀ child request, (id, request) ∈ (b.step op).2.listing child →
      (id, request) ∉ b.listing child ∨ op.Upgrades b id)
    (hupgrades : ∀ j child request, op.Upgrades b j → (j, request) ∈ (b.step op).2.listing child →
      j = id ∧ ∃ a, a.session = id ∧ Rings b (b.step op).2 a) : ∃ as, b.Wakeups op as := by
  -- an upgrade that adds nothing leaves the entry as it was, so that a ring does not show in the listing
  by_cases hrings : ∃ a, a.session = id ∧ Rings b (b.step op).2 a
  · obtain ⟨a, rfl, hrings⟩ := hrings
    have halerts : Alerts b [a] (b.step op).2 := .of_rings hrings
    refine ⟨[a], halerts.woken, halerts.bells, List.nodup_singleton _, fun child e he hcause => ?_,
      fun a' ha child service hprovider => ?_⟩
    · obtain ⟨j, request⟩ := e
      rcases hcause with hfresh | hupgrade
      · exact halerts.shown child (j, request) he hfresh
      · obtain ⟨rfl, -⟩ := hupgrades j child request hupgrade he
        exact ⟨a, List.mem_singleton_self a, hrings.own child request he⟩
    · obtain rfl := List.mem_singleton.1 ha
      obtain ⟨request, hmem⟩ := hrings.due child service hprovider
      exact ⟨request, hrings.own child request hmem, hnew a' hrings child request hmem⟩
  · have halerts : Alerts b [] (b.step op).2 := .of_unheard (h.resolve_right hrings)
    refine ⟨[], halerts.woken, halerts.bells, List.nodup_nil, fun child e he hcause => ?_, fun _ ha => by cases ha⟩
    rcases hcause with hfresh | hupgrade
    · exact halerts.shown child e he hfresh
    · exact absurd (hupgrades e.1 child e.2 hupgrade he).2 hrings

/-- A provider whose session is upgraded is there. -/
theorem exists_provider_of_upgrade {q : Quota} (hok : (b.upgrade id q).1.isOk = true) :
    ∃ s p, b.sessions.find? id = some ⟨s, some p⟩ := by
  unfold upgrade at hok
  cases hfound : b.sessions.find? id with
  | none =>
    rw [hfound] at hok
    cases hok
  | some t =>
    obtain ⟨s, provider⟩ := t
    cases provider with
    | some p => exact ⟨s, p, rfl⟩
    | none =>
      rw [hfound] at hok
      dsimp only at hok
      split at hok <;> cases hok

/-- An upgrade that is accepted wakes the child that it is listed for, whether it changes the entry or not. -/
theorem rings_upgrade (hb : b.Sound) (hnamed : b.BellsNamed) {q : Quota} (hok : (b.upgrade id q).1.isOk = true)
    {child : String} {request : Request} (he : (id, request) ∈ (b.upgrade id q).2.listing child) :
    ∃ a, a.session = id ∧ Rings b (b.upgrade id q).2 a := by
  obtain ⟨s, p, hfound⟩ := exists_provider_of_upgrade hok
  have hhandles := handles_upgrade hb.orderly id q
  have hchanges : Changes (fun _ => False) b (b.upgrade id q).2 := .of_affects (upgrade_cases hb id q)
  have hsound := hchanges.sound hb
  obtain ⟨s', hs', -⟩ := (mem_listing_iff hsound).1 he
  obtain rfl := (hhandles.routed p ⟨s, hfound⟩).eq hs'
  exact rings_of_wakes hb hsound (hnamed.of_stands (chores_upgrade b id q).stands) hhandles.others rfl
    (wakes_upgrade hb hfound rfl hok)

theorem exists_wakeups_upgrade (hb : b.Sound) (hnamed : b.BellsNamed) (id : ServerId) (q : Quota) :
    ∃ as, b.Wakeups (.upgrade id q) as := by
  have hattends : Attends b (b.step (.upgrade id q)).2 id := attends_upgrade hb hnamed id q
  refine hattends.wakeups (fun a hrings _ _ _ => .inr ⟨rfl, ?_⟩) ?_
  · cases hok : (b.upgrade id q).1.isOk with
    | true => rfl
    | false => exact absurd (woken_upgrade_of_error hok) hrings.woken_ne
  · rintro j child request ⟨rfl, hok⟩ hmem
    exact ⟨rfl, rings_upgrade hb hnamed hok hmem⟩

/-- A session that is to be closed has a new entry. -/
theorem not_mem_listing_of_close (hb : b.Sound) (hchanged : (b.close id).2 ≠ b) {child : String} {request : Request}
    (hmem : (id, request) ∈ (b.close id).2.listing child) : (id, request) ∉ b.listing child := by
  have hchanges : Changes (fun _ => False) b (b.close id).2 := .of_affects (close_cases hb id)
  intro hold
  obtain ⟨s, hs, -, hdue⟩ := (mem_listing_iff hb).1 hold
  obtain ⟨s', hs', -, hdue'⟩ := (mem_listing_iff (hchanges.sound hb)).1 hmem
  by_cases hopen : s.phase = .closed ∨ s.phase = .closeRequested
  · refine hchanged ?_
    unfold close
    rw [hs]
    exact congrArg Prod.snd (if_pos hopen)
  · obtain ⟨-, t', m, ns, heffect, hphase⟩ :=
      close_effect hb hs (fun h => hopen (.inl h)) fun h => hopen (.inr h)
    obtain rfl := Option.some.inj (heffect.find?_self.symm.trans hs')
    have hclosing : s'.due? = some .close := by
      rcases hphase with hphase | hphase
      · have hnone : s'.due? = none := Session.due?_eq_none (.inr (Phase.isEnded_iff.2 (.inl hphase)))
        cases hnone.symm.trans hdue'
      · exact Session.due?_eq_close_iff.2 hphase
    have hsame : s.due? = some .close := hdue.trans (hdue'.symm.trans hclosing)
    exact hopen (.inr (Session.due?_eq_close_iff.1 hsame))

theorem exists_wakeups_close (hb : b.Sound) (hnamed : b.BellsNamed) (id : ServerId) :
    ∃ as, b.Wakeups (.close id) as := by
  have hattends : Attends b (b.step (.close id)).2 id := attends_close hb hnamed id
  refine hattends.wakeups (fun a hrings child request hmem => .inl ?_) fun _ _ _ h => h.elim
  have hchanged : (b.close id).2 ≠ b := fun hsame => hrings.woken_ne (congrArg Broker.woken hsame)
  exact not_mem_listing_of_close hb hchanged hmem

/-- In every state that is reached, whatever is posted at a child by an operation, anew or in place of what was there or
on top of it, the child's service is woken during the operation, once for each session, and it finds what was posted:
the entry is in place by then. -/
theorem exists_wakeups {env : Env} {config : RuntimeConfig}
    (h : Reaches (fun _ _ => True) (fun _ _ => True) (start env config) b) {op : Op} (hop : op.IsBuiltIn) :
    ∃ as, b.Wakeups op as := by
  have hb := h.sound (sound_start env config)
  cases op with
  | upgrade id q => exact exists_wakeups_upgrade hb h.bellsNamed id q
  | close id => exact exists_wakeups_close hb h.bellsNamed id
  | _ =>
    exact (heard_step hb h.bellsNamed hop (fun _ _ => by simp) fun _ => by simp).wakeups hb fun _ h => h

/-- A session that waited for a child is routed when the child announces its service.  The child is woken once, and
finds the create of the session posted. -/
theorem wakeups_announce : ∃ as, requestedEarly.Wakeups (.announce ⟨"fs", "log"⟩ 1) as ∧
    as.filterMap (·.bell) = ["fs/log"] ∧
    as.map (·.wakeup) = [{
      provider := .child "fs" "log"
      requests := [(⟨1⟩, {
        service := "log"
        id := ⟨0⟩
        kind := .create ⟨""⟩ ⟨[("ram_quota", "5")]⟩ ⟨⟨5, by decide⟩, 0⟩ })] }] := by
  have hreach : Reaches (fun _ _ => True) (fun _ _ => True) (start sampleEnv sampleConfig) requestedEarly :=
    .op (.create ⟨1⟩ "log" "ram_quota=5" {}) .refl trivial trivial
  have hop : (Op.announce ⟨"fs", "log"⟩ 1).IsBuiltIn := trivial
  obtain ⟨as, has⟩ := exists_wakeups hreach hop
  refine ⟨as, has, ?_, ?_⟩
  · have hbefore : requestedEarly.env.bells = [] := by decide +kernel
    have hafter : (requestedEarly.step (.announce ⟨"fs", "log"⟩ 1)).2.env.bells = ["fs/log"] := by decide +kernel
    have hbells := has.bells
    rw [hbefore, hafter] at hbells
    exact hbells.symm
  · have hbefore : requestedEarly.woken = [] := by decide +kernel
    have hwoken := has.woken
    rw [hbefore, List.nil_append] at hwoken
    rw [← hwoken]
    decide +kernel

end SessionBroker.Broker
