import SessionBroker.Broker.Run
import SessionBroker.Proofs.Endings

/-!
# SessionBroker.Proofs.Operations — what operations do

* `rearranged_sweep` and its like: providers come and go, and sessions that are not ended keep what they need.
* `endings_removeChild`: the sessions of a child end before it is forgotten.
* `Broker.Serves b p id`: session `id` belongs to provider `p` and to the request posted for it, so it can be answered.
* `Op.IsBuiltIn`: the operations that register no service other than the built-in ones.
* `Op.Opens b id`: the operation is a create for `id` that is not refused because the id is in use.
-/

namespace SessionBroker.Broker

variable {new : ServerId → Prop} {b b' : Broker} {k : ChildKey}

/-! ### Providers that come and go -/

theorem lookup?_of_isIdle {d : Desk} (h : d.isIdle = true) (i : ClientId) : d.lookup? i = none := by
  have hempty : d.requests.table.entries = [] := by simpa [Desk.isIdle, IdSpace.isEmpty] using h
  unfold Desk.lookup? IdSpace.find? Table.find?
  rw [hempty]
  rfl

/-- The session of a child's service without posted requests is ended. -/
theorem isEnded_of_no_request (hb : b.Sound) {c n : String} (hnone : ∀ i, b.providers.request? (.child c n) i = none)
    {id : ServerId} {t : Slot} (ht : b.sessions.find? id = some t) (hp : t.provider = some (.child c n)) :
    t.session.phase.isEnded = true := by
  cases hended : t.session.phase.isEnded with
  | true => rfl
  | false =>
    obtain ⟨i, hi⟩ := Option.isSome_iff_exists.1 ((hb.slots id t ht).async _ hp rfl hended)
    have := hb.listed id t c n i ht hp hi
    rw [hnone] at this
    cases this

theorem inUse_of_alive {id : ServerId} {t : Slot} {p : Provider} (ht : b.sessions.find? id = some t)
    (hp : t.provider = some p) (halive : t.session.isAlive = true) : b.inUse p = true := by
  unfold inUse
  refine List.any_eq_true.2 ⟨t, Table.mem_values.2 ⟨id, ht⟩, ?_⟩
  simp [halive, hp]

theorem inUse_iff {p : Provider} :
    b.inUse p = true ↔ ∃ id s, b.sessions.find? id = some ⟨s, some p⟩ ∧ s.isAlive = true := by
  constructor
  · intro h
    obtain ⟨⟨s, provider⟩, hmem, ht⟩ := List.any_eq_true.1 h
    obtain ⟨id, hid⟩ := Table.mem_values.1 hmem
    obtain ⟨halive, hp⟩ := Bool.and_eq_true_iff.1 ht
    obtain rfl : provider = some p := by simpa using hp
    exact ⟨id, s, hid, halive⟩
  · rintro ⟨id, s, hid, halive⟩
    exact inUse_of_alive hid rfl halive

/-- A service that a live session needs stays in a sweep. -/
theorem find?_children_sweep (huse : b.inUse k.provider = true) :
    b.sweep.providers.children.find? k = b.providers.children.find? k := by
  show (b.providers.children.filter _).find? k = _
  rw [Table.find?_filter]
  cases b.providers.children.find? k with
  | none => rfl
  | some v => simp [huse]

/-- No request appears in a sweep. -/
theorem request?_of_sweep {p : Provider} {i : ClientId} {id : ServerId}
    (hi : b.sweep.providers.request? p i = some id) : b.providers.request? p i = some id := by
  cases p with
  | here n | parent n | later n => exact hi
  | child c n =>
    have hi : b.sweep.providers.request? (ChildKey.mk c n).provider i = some id := hi
    show b.providers.request? (ChildKey.mk c n).provider i = some id
    rw [Registry.request?_child] at hi ⊢
    obtain ⟨v, hv, hlook⟩ := Option.bind_eq_some_iff.1 hi
    exact Option.bind_eq_some_iff.2 ⟨v, Table.find?_of_filter hv, hlook⟩

/-- Only services that no live session needs go in a sweep. -/
theorem rearranged_sweep (hb : b.Sound) : Rearranged b b.sweep where
  sessions := rfl
  env := rfl
  config := rfl
  builtIn := ⟨hb.builtIn.locals, fun n v hv => hb.builtIn.parents n v (Table.find?_of_filter hv)⟩
  posted _ _ _ := request?_of_sweep
  listed id t c n i ht hp hi := by
    have hlive := (hb.slots id t ht).isAlive_of_downstream hi
    have huse : b.inUse (ChildKey.mk c n).provider = true := inUse_of_alive ht hp hlive
    show b.sweep.providers.request? (ChildKey.mk c n).provider i = b.providers.request? (ChildKey.mk c n).provider i
    rw [Registry.request?_child, Registry.request?_child, find?_children_sweep huse]
  account id t p ht hp := by
    cases hlive : t.session.isAlive with
    | false => exact .inl (Session.isEnded_of_not_alive hlive)
    | true =>
      refine .inr ?_
      cases p with
      | here n | parent n | later n => rfl
      | child c n =>
        have huse : b.inUse (ChildKey.mk c n).provider = true := inUse_of_alive ht hp hlive
        show b.sweep.providers.account (ChildKey.mk c n).provider = b.providers.account (ChildKey.mk c n).provider
        rw [Registry.account_child, Registry.account_child, find?_children_sweep huse]

/-- No request appears when the service of a child is forgotten, or replaced by one without requests. -/
theorem request?_of_children {r : Registry} {children : Table ChildKey ChildService}
    (hothers : ∀ k', k' ≠ k → children.find? k' = r.children.find? k')
    (hidle : ∀ v, children.find? k = some v → v.desk.isIdle = true) {p : Provider} {i : ClientId} {id : ServerId}
    (hi : Registry.request? { r with children := children } p i = some id) : r.request? p i = some id := by
  cases p with
  | here n | parent n | later n => exact hi
  | child c n =>
    obtain ⟨v, hv, hlook⟩ := Option.bind_eq_some_iff.1 ((Registry.request?_child _ ⟨c, n⟩ i).symm.trans hi)
    by_cases hk : ChildKey.mk c n = k
    · subst hk
      rw [lookup?_of_isIdle (hidle v hv)] at hlook
      cases hlook
    · have hv : r.children.find? ⟨c, n⟩ = some v := (hothers _ hk).symm.trans hv
      exact (Registry.request?_child _ ⟨c, n⟩ i).trans (Option.bind_eq_some_iff.2 ⟨v, hv, hlook⟩)

/-- The service of a child is replaced or forgotten, when its sessions are all ended. -/
theorem rearranged_children (hb : b.Sound) {children : Table ChildKey ChildService}
    (hothers : ∀ k', k' ≠ k → children.find? k' = b.providers.children.find? k')
    (hidle : ∀ v, children.find? k = some v → v.desk.isIdle = true)
    (hended : ∀ id t, b.sessions.find? id = some t → t.provider = some k.provider →
      t.session.phase.isEnded = true) :
    Rearranged b { b with providers.children := children } where
  sessions := rfl
  env := rfl
  config := rfl
  builtIn := ⟨hb.builtIn.locals, hb.builtIn.parents⟩
  posted _ _ _ := request?_of_children hothers hidle
  listed id t c n i ht hp hi := by
    by_cases hk : ChildKey.mk c n = k
    · have hgone := ((hb.slots id t ht).ended (hended id t ht (by rw [hp, ← hk]; rfl))).2.1
      cases hi.symm.trans hgone
    · simp only [Registry.request?, Registry.desk?, hothers _ hk]
  account id t p ht hp := by
    cases p with
    | here n | parent n | later n => exact .inr rfl
    | child c n =>
      by_cases hk : ChildKey.mk c n = k
      · exact .inl (hended id t ht (by rw [hp, ← hk]; rfl))
      · exact .inr (by simp only [Registry.account, hothers _ hk])

/-- A service that is not taken is replaced. -/
theorem rearranged_announce (hb : b.Sound) (hfree : b.isTaken k = false) (account : AccountId) :
    Rearranged b { b with
      providers.children := b.providers.children.insert k (.announced k.child k.service account) } := by
  refine rearranged_children (k := k) hb (fun k' hk' => Table.find?_insert_of_ne _ _ hk') (fun v hv => ?_)
    fun id t ht hp => isEnded_of_no_request hb (fun i => ?_) ht hp
  · rw [Table.find?_insert_self] at hv
    obtain rfl := Option.some.inj hv
    rfl
  · cases hv : b.providers.children.find? k with
    | none => simp [Registry.request?, Registry.desk?, hv]
    | some v =>
      have hidle : v.desk.isIdle = true := by
        have hgone : v.abandoned = true ∧ v.desk.isIdle = true := by simpa [isTaken, hv] using hfree
        exact hgone.2
      simp [Registry.request?, Registry.desk?, hv, lookup?_of_isIdle hidle]

/-- A service that is withdrawn keeps its requests. -/
theorem desk?_withdrawn (r : Registry) (k : ChildKey) (p : Provider) :
    Registry.desk? { r with children := r.children.modify k fun c => { c with abandoned := true } } p = r.desk? p := by
  cases p with
  | here n | parent n | later n => rfl
  | child c n =>
    simp only [Registry.desk?, Table.find?_modify]
    split
    · rw [Option.map_map]
      rfl
    · rfl

theorem rearranged_withdraw (hb : b.Sound) (k : ChildKey) :
    Rearranged b { b with
      providers.children := b.providers.children.modify k fun c => { c with abandoned := true } } := by
  refine .of_alike rfl rfl rfl ⟨⟨hb.builtIn.locals, hb.builtIn.parents⟩, desk?_withdrawn b.providers k, fun p => ?_⟩
  cases p with
  | here n | parent n | later n => rfl
  | child c n =>
    simp only [Registry.account, Table.find?_modify]
    split
    · rw [Option.map_map]
      rfl
    · rfl

theorem rearranged_abandonParents (hb : b.Sound) (rules : List Rule) (keep : String → Bool) :
    Rearranged b { b with rules, providers := b.providers.abandonParents keep } := by
  refine .of_alike rfl rfl rfl ⟨⟨hb.builtIn.locals, fun n v hv => ?_⟩, fun p => by cases p <;> rfl,
    fun p => by cases p <;> rfl⟩
  have hv' : (b.providers.parents.map fun n v => if keep n then v else { v with abandoned := true }).find? n =
    some v := hv
  rw [Table.find?_map] at hv'
  obtain ⟨w, hw, rfl⟩ := Option.map_eq_some_iff.1 hv'
  have htries := hb.builtIn.parents n w hw
  split
  · exact htries
  · exact htries

/-- No request appears when a service of this component is registered that answers later and starts without any. -/
theorem request?_of_registerDesk {r : Registry} {d : Desk} (hidle : d.isIdle = true) {p : Provider} {i : ClientId}
    {id : ServerId} (hi : Registry.request? { r with desks := r.desks.insert d.name d } p i = some id) :
    r.request? p i = some id := by
  unfold Registry.request? at hi ⊢
  rw [Registry.desk?_insert_later] at hi
  split at hi
  · simp [lookup?_of_isIdle hidle] at hi
  · exact hi

/-- A service of this component that answers later starts without requests. -/
theorem rearranged_registerDesk (hb : b.Sound) {d : Desk} (hidle : d.isIdle = true) :
    Rearranged b { b with providers.desks := b.providers.desks.insert d.name d } := by
  obtain ⟨hbuilt, hdesk, haccount⟩ := Registry.withDesk_later hb.builtIn d.name d
  refine
    { sessions := rfl
      env := rfl
      config := rfl
      builtIn := hbuilt
      posted := fun _ _ _ => request?_of_registerDesk hidle
      listed := fun id t c n i _ _ _ => ?_
      account := fun id t p _ _ => .inr (haccount p) }
  unfold Registry.request?
  rw [hdesk, if_neg (by simp)]

theorem changes_route (hb : b.Sound) (id : ServerId) : Changes new b (b.route id) := .of_affects (route_cases hb id)

/-! ### Children that go away -/

/-- Whether the session of an id, if it belongs to a provider, is ended. -/
def Lost (b : Broker) (p : Provider) (id : ServerId) : Prop :=
  ∀ t, b.sessions.find? id = some t → t.provider = some p → t.session.phase.isEnded = true

theorem endings_dismiss (hb : b.Sound) (k : ChildKey) (id : ServerId) : Endings b (b.dismiss k id) := by
  rcases dismiss_cases hb k id with ⟨heq, -⟩ | h
  · rw [heq]
    exact .refl b
  · exact .single (.session h)

theorem lost_dismiss_self (hb : b.Sound) (k : ChildKey) (id : ServerId) : (b.dismiss k id).Lost k.provider id := by
  intro u hu hp
  rcases dismiss_cases hb k id with ⟨heq, hlost⟩ | h
  · rw [heq] at hu
    exact hlost u hu hp
  · obtain ⟨t, ht, hended⟩ := h.find?_self
    obtain rfl := Option.some.inj (ht.symm.trans hu)
    exact hended

/-- A session that is ended stays so while others end. -/
theorem Lost.endings {p : Provider} {id : ServerId} (h : b.Lost p id) (hb : b.Sound) (hends : Endings b b') :
    b'.Lost p id := by
  obtain ⟨ids, hids⟩ := hends.ended hb
  intro u hu hp
  by_cases hid : id ∈ ids
  · obtain ⟨t, ht, hended⟩ := (hids.ended id hid).2
    obtain rfl := Option.some.inj (ht.symm.trans hu)
    exact hended
  · rw [hids.others id hid] at hu
    exact h u hu hp

/-- Steps in which sessions end, one of which ends the session. -/
theorem lost_foldl {α : Type} {f : Broker → α → Broker} {p : Provider} {id : ServerId} {x : α}
    (h : ∀ b y, b.Sound → Endings b (f b y)) (hx : ∀ b, b.Sound → (f b x).Lost p id) :
    ∀ (l : List α) (b : Broker), b.Sound → x ∈ l ∨ b.Lost p id → (l.foldl f b).Lost p id
  | [], b, _, hid => hid.resolve_left (by simp)
  | y :: l, b, hb, hid => by
    refine lost_foldl h hx l (f b y) ((h b y hb).sound hb) ?_
    rcases hid with hid | hid
    · rcases List.mem_cons.1 hid with rfl | hid
      · exact .inr (hx b hb)
      · exact .inl hid
    · exact .inr (hid.endings hb (h b y hb))

/-- All sessions of a service are ended before it is forgotten. -/
theorem lost_dismissAll (hb : b.Sound) (k : ChildKey) (id : ServerId) :
    (b.sessions.keys.foldl (dismiss k) b).Lost k.provider id := by
  refine lost_foldl (fun _ j hb => endings_dismiss hb k j) (fun _ hb => lost_dismiss_self hb k id) _ b hb ?_
  cases hfound : b.sessions.find? id with
  | none => exact .inr fun t ht => by rw [hfound] at ht; cases ht
  | some t => exact .inl (Table.mem_keys.2 ⟨t, hfound⟩)

theorem rearranged_erase (hb : b.Sound) (hlost : ∀ id, b.Lost k.provider id) :
    Rearranged b { b with providers.children := b.providers.children.erase k } := by
  refine rearranged_children (k := k) hb (fun k' hk' => Table.find?_erase_of_ne _ hk') (fun v hv => ?_) hlost
  rw [Table.find?_erase_self] at hv
  cases hv

theorem endings_removeService (hb : b.Sound) (k : ChildKey) : Endings b (b.removeService k) := by
  have hdismiss : Endings b (b.sessions.keys.foldl (dismiss k) b) :=
    .foldl (fun _ id hb => endings_dismiss hb k id) _ b hb
  exact hdismiss.trans (.single (.providers (rearranged_erase (hdismiss.sound hb) (lost_dismissAll hb k))))

theorem endings_removeChild (hb : b.Sound) (child : String) : Endings b (b.removeChild child) :=
  .foldl (fun _ k hb => endings_removeService hb k) _ b hb

/-- All sessions of a child are ended before it is forgotten. -/
theorem lost_removeChild (hb : b.Sound) (hk : k ∈ b.providers.servicesOf k.child) (id : ServerId) :
    (b.removeChild k.child).Lost k.provider id :=
  lost_foldl (fun _ k hb => endings_removeService hb k) (fun _ hb => lost_dismissAll hb k id) _ b hb (.inl hk)

/-! ### Local code that answers -/

/-- Whether the session of an id, if it is there, belongs to a provider and to the request posted for it. -/
def Serves (b : Broker) (p : Provider) (id : ServerId) : Prop :=
  ∀ t, b.sessions.find? id = some t → t.provider = some p ∧ b.Holds p id t.session

variable {p : Provider} {id : ServerId}

/-- A posted request belongs to a session of its provider. -/
theorem serves_of_request? (hb : b.Sound) {i : ClientId} (hi : b.providers.request? p i = some id) :
    b.Serves p id := by
  intro t ht
  obtain ⟨u, hu, hp, hdown⟩ := hb.posted p i id hi
  obtain rfl := Option.some.inj (ht.symm.trans hu)
  refine ⟨hp, fun j hj => ?_⟩
  obtain rfl := Option.some.inj (hdown.symm.trans hj)
  exact hi

/-- A change of a session leaves its request and those of the others in place. -/
theorem Serves.of_affects {j : ServerId} (h : b.Serves p id) (hp : p.isAsync = true) (ha : Affects b b' j) :
    b'.Serves p id := by
  obtain ⟨t, t', m, ns, heffect⟩ := ha
  intro u hu
  by_cases hj : id = j
  · subst hj
    obtain rfl := Option.some.inj (heffect.find?_self.symm.trans hu)
    obtain ⟨hprov, hholds⟩ := h t heffect.found
    have hprov' := heffect.transition.provider_eq hprov
    exact ⟨hprov', fun i hi => heffect.listed p i hprov' hp hi fun _ hi' => hholds i hi'⟩
  · rw [heffect.find?_of_ne hj] at hu
    obtain ⟨hprov, hholds⟩ := h u hu
    exact ⟨hprov, fun i hi => (heffect.others p i id hj).2 (hholds i hi)⟩

/-- The answers of local code to sessions of its service, one after the other. -/
theorem answers_rec {P : List (ServerId × Response) → Broker → Prop} {service : String} (nil : ∀ b, P [] b)
    (cons : ∀ e answers b, b.Sound → b.Serves (.later service) e.1 →
      P answers (b.applyResponse (.later service) e.1 e.2).2 → P (e :: answers) b) :
    ∀ (answers : List (ServerId × Response)) (b : Broker), b.Sound →
      (∀ e ∈ answers, b.Serves (.later service) e.1) → P answers b
  | [], b, _, _ => nil b
  | e :: answers, b, hb, h => by
    have hserves := h e List.mem_cons_self
    have hcases := applyResponse_cases hb hserves e.2
    have hsound : (b.applyResponse (.later service) e.1 e.2).2.Sound :=
      Changes.sound (Changes.of_affects hcases : Changes (fun _ => True) b _) hb
    refine cons e answers b hb hserves (answers_rec nil cons answers _ hsound fun e' he' => ?_)
    have hserves' := h e' (List.mem_cons_of_mem _ he')
    rcases hcases with heq | haffects
    · rw [heq]
      exact hserves'
    · exact hserves'.of_affects rfl haffects

/-- What each answer of local code keeps, answers one after the other keep. -/
theorem applyLocal_induction {P : Broker → Broker → Prop} {service : String} (hrefl : ∀ b, P b b)
    (htrans : ∀ b c d, P b c → P c d → P b d)
    (hone : ∀ b id r, b.Sound → b.Serves (.later service) id → P b (b.applyResponse (.later service) id r).2) :
    ∀ (answers : List (ServerId × Response)) (b : Broker), b.Sound →
      (∀ e ∈ answers, b.Serves (.later service) e.1) → P b (b.applyLocal service answers) :=
  answers_rec (P := fun answers b => P b (b.applyLocal service answers)) hrefl
    fun e _ b hb hserves hrest => htrans b _ _ (hone b e.1 e.2 hb hserves) hrest

/-- An answer of local code is what it said about a request that it was shown. -/
theorem mem_collect {callback : Nat → Request → Option Response} {requests : List (ServerId × Request)}
    {e : ServerId × Response} (h : e ∈ collect callback requests) :
    ∃ r k, (e.1, r) ∈ requests ∧ callback k r = some e.2 := by
  obtain ⟨x, hx, hsome⟩ := List.mem_filterMap.1 h
  obtain ⟨answer, hr, rfl⟩ := Option.map_eq_some_iff.1 hsome
  exact ⟨x.1.2, x.2, List.fst_mem_of_mem_zipIdx hx, hr⟩

/-- A request that local code is shown is posted at its service. -/
theorem request?_of_mem_localRequests {service : String} {e : ServerId × Request}
    (h : e ∈ b.localRequests service) : b.providers.request? (.later service) e.2.id = some e.1 := by
  unfold localRequests at h
  cases hd : b.providers.desks.find? service with
  | none => simp [hd] at h
  | some d =>
    simp only [hd, Option.map_some, Option.getD_some] at h
    obtain ⟨x, hx, hsome⟩ := List.mem_filterMap.1 h
    obtain ⟨s, -, hs⟩ := Option.bind_eq_some_iff.1 hsome
    obtain ⟨kind, -, hkind⟩ := Option.bind_eq_some_iff.1 hs
    obtain rfl := Option.some.inj hkind
    have hfind : d.lookup? x.1 = some x.2 := Table.find?_eq_some_iff.2 hx
    simp [Registry.request?, Registry.desk?, hd, hfind]

/-- Local code answers sessions that it was shown. -/
theorem serves_of_mem_collect (hb : b.Sound) {service : String} {callback : Nat → Request → Option Response}
    {requests : List (ServerId × Request)} (hshown : ∀ e ∈ requests, e ∈ b.localRequests service)
    {e : ServerId × Response} (he : e ∈ collect callback requests) : b.Serves (.later service) e.1 := by
  obtain ⟨r, -, hr, -⟩ := mem_collect he
  exact serves_of_request? hb (request?_of_mem_localRequests (hshown _ hr))

/-! ### Histories -/

/-- The operations that register no service other than the built-in ones: services that make objects, and services
that answer later and start without requests.  The parent's services and those of children are always built in. -/
def Op.IsBuiltIn : Op → Prop
  | .registerLocal service => ∃ l, service = .made l
  | .registerDesk d => d.isIdle = true
  | _ => True

/-- Whether the operation is a create for an id that is not refused because the id is in use. -/
def Op.Opens (b : Broker) : Op → ServerId → Prop
  | .create i _ _ _, id => i = id ∧ b.isLive id = false
  | _, _ => False

/-- No create takes the id of a session that is not closed. -/
theorem not_opens_of_isLive {id : ServerId} (hlive : b.isLive id = true) (op : Op) : ¬op.Opens b id := by
  intro hopens
  cases op with
  | create i service args affinity => cases hlive.symm.trans hopens.2
  | _ => exact hopens

theorem not_alive_of_isLive {id : ServerId} {t : Slot} (hlive : b.isLive id = false)
    (ht : b.sessions.find? id = some t) : t.session.isAlive = false := by
  simpa [isLive, session?, ht] using hlive

/-- What was kept of an earlier session of an id is forgotten when the id is taken again. -/
theorem change_forget {id : ServerId} (hlive : b.isLive id = false) :
    Change new b { b with sessions := b.sessions.erase id } := by
  refine .forgotten _ fun j t ht hj => ?_
  obtain rfl : id = j := by simpa using hj
  exact not_alive_of_isLive hlive ht

/-- A request is refused, or it is taken and routed. -/
theorem create_taken (b : Broker) (id : ServerId) (service args : String) (affinity : Affinity) :
    b.isLive id = true ∧ (b.create id service args affinity).2 = b ∨ b.isLive id = false ∧ ∃ taken,
      taken = { b with sessions := b.sessions.erase id } ∧
        ((∃ e, b.config.newSession service args affinity = .error e ∧
            (b.create id service args affinity).2 = taken.answer id .serviceDenied) ∨
          ∃ r, b.config.newSession service args affinity = .ok r ∧
            b.create id service args affinity = (.ok (), Broker.route { taken with
              sessions := taken.sessions.insert id { session := r.perform (.setServerId id) } } id)) := by
  unfold create
  split
  · rename_i hlive
    exact .inl ⟨hlive, rfl⟩
  · rename_i hlive
    refine .inr ⟨by simpa using hlive, _, rfl, ?_⟩
    dsimp only
    split
    · rename_i e he
      exact .inl ⟨e, he, rfl⟩
    · rename_i r hr
      exact .inr ⟨r, hr, rfl⟩

/-- A create is refused because the id is in use, or the id is taken, and the new session is routed. -/
theorem create_cases (b : Broker) (id : ServerId) (service args : String) (affinity : Affinity) :
    (b.create id service args affinity).2 = b ∨ b.isLive id = false ∧ ∃ c, Changes (fun j => j = id) b c ∧
      (∀ j, j ≠ id → c.sessions.find? j = b.sessions.find? j) ∧
      ((b.create id service args affinity).2 = c ∨ (b.create id service args affinity).2 = c.route id) := by
  rcases create_taken b id service args affinity with ⟨-, hsame⟩ | ⟨hlive, taken, rfl, hrest⟩
  · exact .inl hsame
  · have hforget : Change (fun j => j = id) b { b with sessions := b.sessions.erase id } := change_forget hlive
    have habsent : (b.sessions.erase id).find? id = none := Table.find?_erase_self _ _
    refine .inr ⟨hlive, ?_⟩
    rcases hrest with ⟨e, -, heq⟩ | ⟨r, hr, heq⟩
    · exact ⟨_, (Changes.single hforget).trans (.single (.malformed rfl habsent)),
        fun j hj => Table.find?_erase_of_ne _ hj, .inl heq⟩
    · refine ⟨_, (Changes.single hforget).trans
        (.single (.admitted rfl habsent (RuntimeConfig.isFresh_newSession hr))), fun j hj => ?_, .inr (by rw [heq])⟩
      exact (Table.find?_insert_of_ne _ _ hj).trans (Table.find?_erase_of_ne _ hj)

/-- An answer of a child is refused, or it answers the session to which the request belongs, and services may go. -/
theorem childAnswer_taken (b : Broker) (k : ChildKey) (request : ClientId) (r : Response) :
    (∃ e, b.childAnswer k request r = (.error e, b)) ∨ ∃ id, b.providers.request? k.provider request = some id ∧
      b.childAnswer k request r = (.ok (), (b.applyResponse k.provider id r).2.sweep) := by
  unfold childAnswer
  rw [Registry.request?_child]
  cases hc : b.providers.children.find? k with
  | none => exact .inl ⟨_, rfl⟩
  | some c =>
    cases hid : c.desk.lookup? request with
    | none => exact .inl ⟨_, by simp only [hid]; rfl⟩
    | some id =>
      simp only [Option.bind_some, hid]
      unfold applyResponse
      cases hs : b.session? id with
      | none => exact .inl ⟨_, rfl⟩
      | some s =>
        cases hsettle : b.settle k.provider id s r with
        | none => exact .inl ⟨_, by simp only [hsettle]; rfl⟩
        | some b' => exact .inr ⟨id, rfl, by simp only [hs, hsettle]⟩

end SessionBroker.Broker
