import SessionBroker.Proofs.Providers

/-!
# SessionBroker.Proofs.Requests — the requests posted at providers that answer later

* `Registry.WithDesk p d`: a registry in which the posted requests of provider `p` were replaced.
* `initiate?_async_create`: a create is posted under an id that was free, if each posted request belongs to another
  session.
* `initiate?_async_pending`, `initiate?_async_close`: nothing else is done at once, except that a session that was
  never posted is closed.
* `Registry.release`: a request that is forgotten.
-/

namespace SessionBroker

/-- A create is posted under the next free id. -/
theorem Desk.initiate_create {d : Desk} {s : Session} (env : Env) {id : ServerId} (hs : s.phase = .createRequested)
    (hdown : s.downstream = none) (hid : s.serverId = some id) :
    d.initiate s env =
      { service := { d with requests := (d.requests.alloc id).2 }
        session := { s with downstream := some d.requests.nextFree, notify := true }
        env } := by
  unfold Desk.initiate Desk.post
  rw [hs, hdown, hid]
  rfl

/-- A session that is not to be created or closed is left as it is. -/
theorem Desk.initiate_pending {d : Desk} {s : Session} (env : Env)
    (hs : s.phase = .upgradeRequested ∨ s.phase = .closeRequested ∧ s.downstream.isSome = true) :
    d.initiate s env = { service := d, session := s, env } := by
  unfold Desk.initiate
  rcases hs with hs | ⟨hs, hsome⟩
  · rw [hs]
  · rw [hs]
    have hnone : s.downstream.isNone = false := by
      rw [← Option.not_isSome, hsome]
      rfl
    simp [hnone]

/-- A session that was never posted is closed at once. -/
theorem Desk.initiate_unposted {d : Desk} {s : Session} (env : Env) (hs : s.phase = .closeRequested)
    (hdown : s.downstream = none) : d.initiate s env = { service := d, session := s.closed, env } := by
  rw [← Session.closed_of_unposted hs hdown]
  simp [Desk.initiate, hs, hdown]

/-- Closing a session leaves the posted requests as they are. -/
theorem Desk.service_initiate_close {d : Desk} {s : Session} (env : Env) (hs : s.phase = .closeRequested) :
    (d.initiate s env).service = d := by
  unfold Desk.initiate
  rw [hs]
  dsimp only
  split <;> rfl

namespace Registry

variable {limit : Word} {r r' : Registry} {s : Session} {p q : Provider} {d : Desk}

/-- A registry in which the posted requests of a provider were replaced. -/
structure WithDesk (limit : Word) (r : Registry) (p : Provider) (d : Desk) (r' : Registry) : Prop where
  builtIn : r'.BuiltIn limit
  desk : ∀ q, r'.desk? q = if q = p then some d else r.desk? q
  account : ∀ q, r'.account q = r.account q

theorem WithDesk.request? (h : r.WithDesk limit p d r') (q : Provider) (request : ClientId) :
    r'.request? q request = if q = p then d.lookup? request else r.request? q request := by
  unfold Registry.request?
  rw [h.desk]
  by_cases hq : q = p
  · rw [if_pos hq, if_pos hq]
    rfl
  · rw [if_neg hq, if_neg hq]

theorem WithDesk.alike (h : r.WithDesk limit p d r') (hd : r.desk? p = some d) : r.Alike limit r' := by
  refine ⟨h.builtIn, fun q => ?_, h.account⟩
  rw [h.desk]
  by_cases hq : q = p
  · rw [if_pos hq, hq, hd]
  · rw [if_neg hq]

theorem desk?_insert_later (r : Registry) (n : String) (d : Desk) (q : Provider) :
    desk? { r with desks := r.desks.insert n d } q = if q = .later n then some d else r.desk? q := by
  by_cases hq : q = .later n
  · subst hq
    rw [if_pos rfl]
    exact Table.find?_insert_self r.desks n d
  · rw [if_neg hq]
    cases q with
    | later m => exact Table.find?_insert_of_ne r.desks d fun h => hq (by rw [h])
    | here m | parent m | child c m => rfl

theorem ChildKey_ne {c c' n n' : String} (h : Provider.child c' n' ≠ .child c n) :
    (⟨c', n'⟩ : ChildKey) ≠ ⟨c, n⟩ := fun he => h (by cases he; rfl)

theorem desk?_insert_child (r : Registry) (c n : String) (v : ChildService) (q : Provider) :
    desk? { r with children := r.children.insert ⟨c, n⟩ v } q = if q = .child c n then some v.desk else r.desk? q := by
  by_cases hq : q = .child c n
  · subst hq
    rw [if_pos rfl]
    simp [desk?]
  · rw [if_neg hq]
    cases q with
    | child c' n' => simp only [desk?, Table.find?_insert_of_ne _ _ (ChildKey_ne hq)]
    | here m | parent m | later m => rfl

theorem withDesk_later (hr : r.BuiltIn limit) (n : String) (d : Desk) :
    r.WithDesk limit (.later n) d { r with desks := r.desks.insert n d } :=
  ⟨⟨hr.locals, hr.parents⟩, r.desk?_insert_later n d, fun q => by cases q <;> rfl⟩

theorem withDesk_child (hr : r.BuiltIn limit) {c n : String} {v : ChildService} (hv : r.children.find? ⟨c, n⟩ = some v)
    (d : Desk) :
    r.WithDesk limit (.child c n) d { r with children := r.children.insert ⟨c, n⟩ { v with desk := d } } := by
  refine ⟨⟨hr.locals, hr.parents⟩, r.desk?_insert_child c n { v with desk := d }, fun q => ?_⟩
  by_cases hq : q = .child c n
  · subst hq
    simp [account, hv]
  · cases q with
    | child c' n' => simp only [account, Table.find?_insert_of_ne _ _ (ChildKey_ne hq)]
    | here m | parent m | later m => rfl

/-- A provider that answers later does what its desk does. -/
theorem initiate?_async (s : Session) (env : Env) (hr : r.BuiltIn limit) (hp : p.isAsync = true)
    (hd : r.desk? p = some d) :
    ∃ o, r.initiate? s env p = some o ∧ o.error = (d.initiate s env).error ∧
      o.session = (d.initiate s env).session ∧ o.env = (d.initiate s env).env ∧
      r.WithDesk limit p (d.initiate s env).service o.service := by
  cases p with
  | here n | parent n => cases hp
  | later n =>
    have hfind : r.desks.find? n = some d := hd
    exact ⟨_, by rw [initiate?, hfind]; rfl, rfl, rfl, rfl, withDesk_later hr n _⟩
  | child c n =>
    obtain ⟨v, hv, rfl⟩ := Option.map_eq_some_iff.1 hd
    exact ⟨_, by rw [initiate?, hv]; rfl, rfl, rfl, rfl, withDesk_child hr hv _⟩

/-- A provider that answers later is not there without a desk. -/
theorem initiate?_of_desk?_none (s : Session) (env : Env) (hp : p.isAsync = true) (hd : r.desk? p = none) :
    r.initiate? s env p = none := by
  cases p with
  | here n | parent n => cases hp
  | later n =>
    have hfind : r.desks.find? n = none := hd
    rw [initiate?, hfind]
    rfl
  | child c n =>
    have hfind : r.children.find? ⟨c, n⟩ = none := by
      cases hv : r.children.find? ⟨c, n⟩ with
      | none => rfl
      | some v => simp [desk?, hv] at hd
    rw [initiate?, hfind]
    rfl

/-- Nothing is posted at a provider that answers at once. -/
theorem request?_sync (hp : p.isAsync = false) (i : ClientId) : r.request? p i = none := by
  cases p with
  | here n | parent n => rfl
  | later n | child c n => cases hp

theorem quiet_wake_desk (d : Desk) (env : Env) : env.Quiet (d.wake env) := by
  unfold Desk.wake
  split
  · exact Env.quiet_record env fun _ => rfl
  · exact .refl env

/-- Telling a provider that requests wait says nothing to the parent. -/
theorem quiet_wake (hr : r.BuiltIn limit) (env : Env) (p : Provider) : env.Quiet (r.wake env p) := by
  cases p with
  | here n =>
    cases hv : r.locals.find? n with
    | none =>
      simp only [wake, hv]
      exact .refl env
    | some v =>
      obtain ⟨l, rfl⟩ := hr.locals n v hv
      simp only [wake, hv]
      exact .refl env
  | later n =>
    cases hd : r.desks.find? n with
    | none =>
      simp only [wake, hd]
      exact .refl env
    | some d =>
      simp only [wake, hd]
      exact quiet_wake_desk d env
  | parent n => exact .refl env
  | child c n =>
    cases hv : r.children.find? ⟨c, n⟩ with
    | none =>
      simp only [wake, hv]
      exact .refl env
    | some v =>
      simp only [wake, hv]
      exact quiet_wake_desk v.desk env

/-! ### Creating, upgrading and closing later -/

theorem request?_of_desk? (hd : r.desk? p = some d) (i : ClientId) : r.request? p i = d.requests.find? i := by
  unfold request?
  rw [hd]
  rfl

/-- The next id of a desk is free, if each posted request stands for a session of its own, and none for one more. -/
theorem request?_nextFree {id : ServerId} (hd : r.desk? p = some d)
    (hinj : ∀ i j k, r.request? p i = some k → r.request? p j = some k → i = j)
    (hnew : ∀ i, r.request? p i ≠ some id) : r.request? p d.requests.nextFree = none := by
  simp only [request?_of_desk? hd] at hinj hnew ⊢
  have hsize : d.requests.size < 0x10000000000000000 := IdSpace.size_lt_of_injective id hinj hnew
  simpa [IdSpace.contains, Table.contains, IdSpace.find?] using IdSpace.contains_nextFree hsize

/-- A create is posted under an id that was free, if each posted request stands for a session of its own, and none
for this one. -/
theorem initiate?_async_create (env : Env) (hr : r.BuiltIn limit) (hp : p.isAsync = true) (hd : r.desk? p = some d)
    (hs : s.phase = .createRequested) (hdown : s.downstream = none) {id : ServerId} (hid : s.serverId = some id)
    (hinj : ∀ i j k, r.request? p i = some k → r.request? p j = some k → i = j)
    (hnew : ∀ i, r.request? p i ≠ some id) :
    ∃ o request, r.initiate? s env p = some o ∧ o.error = none ∧ o.env = env ∧
      o.session = { s with downstream := some request, notify := true } ∧ r.request? p request = none ∧
      o.service.BuiltIn limit ∧ (∀ q, o.service.account q = r.account q) ∧
      ∀ q i, o.service.request? q i = if q = p ∧ i = request then some id else r.request? q i := by
  obtain ⟨o, ho, herr, hses, henv, hdesk⟩ := initiate?_async s env hr hp hd
  have hfree := request?_nextFree hd hinj hnew
  rw [Desk.initiate_create env hs hdown hid] at herr hses henv hdesk
  refine ⟨o, d.requests.nextFree, ho, herr, henv, hses, hfree, hdesk.builtIn, hdesk.account, fun q i => ?_⟩
  rw [hdesk.request?]
  by_cases hq : q = p
  · subst hq
    rw [if_pos rfl]
    show (d.requests.alloc id).2.find? i = _
    rw [IdSpace.find?_alloc, request?_of_desk? hd]
    simp
  · rw [if_neg hq, if_neg fun h => hq h.1]

/-- A session that is not to be created or closed is left as it is. -/
theorem initiate?_async_pending (env : Env) (hr : r.BuiltIn limit) (hp : p.isAsync = true) (hd : r.desk? p = some d)
    (hs : s.phase = .upgradeRequested ∨ s.phase = .closeRequested ∧ s.downstream.isSome = true) :
    ∃ o, r.initiate? s env p = some o ∧ o.error = none ∧ o.env = env ∧ o.session = s ∧ r.Alike limit o.service := by
  obtain ⟨o, ho, herr, hses, henv, hdesk⟩ := initiate?_async s env hr hp hd
  rw [Desk.initiate_pending env hs] at herr hses henv hdesk
  exact ⟨o, ho, herr, henv, hses, hdesk.alike hd⟩

/-- A session that was never posted is closed at once. -/
theorem initiate?_async_close (env : Env) (hr : r.BuiltIn limit) (hp : p.isAsync = true) (hd : r.desk? p = some d)
    (hs : s.phase = .closeRequested) (hdown : s.downstream = none) :
    ∃ o, r.initiate? s env p = some o ∧ o.env = env ∧ o.session = s.closed ∧ r.Alike limit o.service := by
  obtain ⟨o, ho, -, hses, henv, hdesk⟩ := initiate?_async s env hr hp hd
  rw [Desk.initiate_unposted env hs hdown] at hses henv hdesk
  exact ⟨o, ho, henv, hses, hdesk.alike hd⟩

/-! ### Forgetting a request -/

theorem release_cases (hr : r.BuiltIn limit) (id : ClientId) (p : Provider) :
    r.Alike limit (r.release id p) ∧ r.desk? p = none ∨
      ∃ d, r.desk? p = some d ∧ r.WithDesk limit p (d.release id) (r.release id p) := by
  cases p with
  | here n | parent n => exact .inl ⟨.refl hr, rfl⟩
  | later n =>
    cases hd : r.desks.find? n with
    | none =>
      have hsame : r.release id (.later n) = r := by
        simp only [release, Table.modify_of_find?_none _ hd]
      exact .inl ⟨by rw [hsame]; exact .refl hr, hd⟩
    | some d =>
      have hmod : r.release id (.later n) = { r with desks := r.desks.insert n (d.release id) } := by
        simp only [release, Table.modify_of_find? _ hd]
      exact .inr ⟨d, hd, by rw [hmod]; exact withDesk_later hr n _⟩
  | child c n =>
    cases hv : r.children.find? ⟨c, n⟩ with
    | none =>
      have hsame : r.release id (.child c n) = r := by
        simp only [release, Table.modify_of_find?_none _ hv]
      exact .inl ⟨by rw [hsame]; exact .refl hr, by simp [desk?, hv]⟩
    | some v =>
      have hmod : r.release id (.child c n) =
          { r with children := r.children.insert ⟨c, n⟩ { v with desk := v.desk.release id } } := by
        simp only [release, Table.modify_of_find? _ hv]
      exact .inr ⟨v.desk, by simp [desk?, hv], by rw [hmod]; exact withDesk_child hr hv _⟩

theorem desk?_release (r : Registry) (i : ClientId) (p q : Provider) :
    (r.release i p).desk? q = if q = p then (r.desk? p).map fun d => d.release i else r.desk? q := by
  cases p with
  | here n | parent n =>
    show r.desk? q = if _ then none else _
    split
    · rename_i hq
      rw [hq]
      rfl
    · rfl
  | later n =>
    cases q with
    | later m =>
      show (r.desks.modify n _).find? m = _
      by_cases hm : m = n
      · rw [if_pos (congrArg Provider.later hm), hm, Table.find?_modify_self]
        rfl
      · rw [if_neg fun h => hm (Provider.later.inj h), Table.find?_modify_of_ne _ _ hm]
        rfl
    | here m | parent m | child c m => rfl
  | child c n =>
    cases q with
    | child c' m =>
      by_cases hq : Provider.child c' m = .child c n
      · rw [if_pos hq]
        obtain ⟨rfl, rfl⟩ := Provider.child.inj hq
        show ((r.children.modify _ _).find? _).map _ = ((r.children.find? _).map _).map _
        rw [Table.find?_modify_self, Option.map_map, Option.map_map]
        rfl
      · rw [if_neg hq]
        show ((r.children.modify _ _).find? _).map _ = _
        rw [Table.find?_modify_of_ne _ _ (ChildKey_ne hq)]
        rfl
    | here m | parent m | later m => rfl

theorem request?_release (r : Registry) (id i : ClientId) (p q : Provider) :
    (r.release id p).request? q i = if q = p ∧ i = id then none else r.request? q i := by
  unfold Registry.request?
  rw [desk?_release]
  by_cases hq : q = p
  · subst hq
    rw [if_pos rfl]
    cases r.desk? q with
    | none => exact (ite_self none).symm
    | some d =>
      show (d.requests.erase id).find? i = _
      rw [IdSpace.find?_erase]
      simp only [true_and]
      rfl
  · rw [if_neg hq, if_neg fun h => hq h.1]

theorem BuiltIn.release (hr : r.BuiltIn limit) (id : ClientId) (p : Provider) : (r.release id p).BuiltIn limit := by
  rcases release_cases hr id p with ⟨halike, -⟩ | ⟨d, -, hdesk⟩
  · exact halike.builtIn
  · exact hdesk.builtIn

theorem account_release (hr : r.BuiltIn limit) (id : ClientId) (p q : Provider) :
    (r.release id p).account q = r.account q := by
  rcases release_cases hr id p with ⟨halike, -⟩ | ⟨d, -, hdesk⟩
  · exact halike.account q
  · exact hdesk.account q

end Registry

end SessionBroker
