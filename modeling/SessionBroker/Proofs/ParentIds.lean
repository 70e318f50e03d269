import SessionBroker.Proofs.Calls

/-!
# SessionBroker.Proofs.ParentIds — the ids of the sessions that the parent was asked for

Ids are handed out in ascending order, but for the id of the own session, which is never handed out.  So an id is fresh
while fewer than `2 ^ 64` ids were allocated: the parent has not seen it.

* `Env.Accounts env held`: id `i` is held `held i` times, and in use exactly if it is held or is that of the own
  session; the parent granted it as often as it was closed and is held, and never twice.
* `Env.Deals d d' env env'`: what held the id `d` holds `d'` afterwards, if it holds any, and the ids are accounted for
  as before.
* `ParentService.deals_initiate`: a service of the parent deals so with the id of its session, in every phase, however
  often it tries and however the parent answers.
* `Registry.deals_initiate?`: so does every provider; all others leave the ids alone.
-/

namespace SessionBroker

/-- The id of a session that the parent is told to close. -/
def Event.closed? : Event → Option ClientId
  | .closeAsked id => some id
  | _ => none

theorem Event.closed?_of_not_isHook {e : Event} (h : (!e.isHook) = true) : e.closed? = none := by
  cases e <;> first | rfl | cases h

namespace IdSpace

variable {α : Type} {s : IdSpace .client α}

/-- A number that all ids handed out are below, in the first round: that of the own session is passed over. -/
def reach (s : IdSpace .client α) : Nat := if s.allocs ≤ 1 then s.allocs else s.allocs + 1

theorem firstFree_of_free {side : Side} {free : Ident side → Bool} {i : Ident side} (h : free i = true) (n : Nat) :
    firstFree free n i = i := by
  cases n with
  | zero => rfl
  | succ n => simp [firstFree, h]

theorem size_ne_zero {side : Side} {s : IdSpace side α} {i : Ident side} (h : s.contains i = true) : s.size ≠ 0 := by
  obtain ⟨v, hv⟩ := Table.contains_eq_true.1 h
  have hmem := Table.find?_eq_some_iff.1 hv
  intro hzero
  rw [List.eq_nil_of_length_eq_zero hzero] at hmem
  cases hmem

theorem contains_alloc (s : IdSpace .client α) (v : α) (i : ClientId) :
    (s.alloc v).2.contains i = true ↔ i = s.nextFree ∨ s.contains i = true := by
  have hfind := find?_alloc s v i
  unfold find? at hfind
  unfold contains Table.contains
  rw [hfind]
  split
  · simp_all
  · simp_all

theorem contains_erase (s : IdSpace .client α) (i j : ClientId) :
    (s.erase i).contains j = true ↔ j ≠ i ∧ s.contains j = true := by
  have hfind := find?_erase s i j
  unfold find? at hfind
  unfold contains Table.contains
  rw [hfind]
  split
  · simp_all
  · simp_all

end IdSpace

namespace Env

variable {env env' env'' : Env} {held : ClientId → Nat} {d d' d'' : Option ClientId} {id : ClientId}

/-- The ids of the sessions that the parent was told to close, in order. -/
def closes (env : Env) : List ClientId := env.trace.filterMap Event.closed?

/-- No id is taken or released, and no session is granted or closed at the parent. -/
structure Steady (env env' : Env) : Prop where
  ids : env'.ids = env.ids
  granted : env'.parent.granted = env.parent.granted
  closes : env'.closes = env.closes

theorem Steady.refl (env : Env) : Steady env env := ⟨rfl, rfl, rfl⟩

theorem Steady.of_eq (h : env' = env) : Steady env env' := by
  rw [h]
  exact .refl env

theorem Steady.record (env : Env) {e : Event} (h : e.closed? = none) : Steady env (env.record e) := by
  refine ⟨rfl, rfl, ?_⟩
  show (env.trace ++ [e]).filterMap Event.closed? = env.trace.filterMap Event.closed?
  simp [h]

theorem Apart.steady (h : env.Apart env') : Steady env env' :=
  ⟨h.ids, h.granted, h.logs.filterMap_eq fun _ => Event.closed?_of_not_isHook⟩

/-- The ids in use, the grants of the parent and the closes fit each other, where id `i` is held `held i` times. -/
structure Accounts (env : Env) (held : ClientId → Nat) : Prop where
  inUse : ∀ i, held i + (if i = ownSession then 1 else 0) = if env.ids.contains i = true then 1 else 0
  settled : ∀ i, env.parent.granted.count i = env.closes.count i + held i
  once : env.parent.granted.Nodup
  below : ∀ i ∈ env.parent.granted, i.num.val < env.ids.reach
  cursor : env.ids.cursor.num.val = env.ids.reach % 0x10000000000000000

/-- No session was requested from the parent yet. -/
structure Untouched (env : Env) : Prop where
  ids : env.ids = (default : Env).ids
  granted : env.parent.granted = []
  closes : env.closes = []

theorem Untouched.accounts (h : env.Untouched) : env.Accounts fun _ => 0 := by
  have hids : ∀ i, env.ids.contains i = true ↔ i = ownSession := by
    intro i
    rw [h.ids]
    show ((∅ : Table ClientId String).insert ownSession "PD").contains i = true ↔ _
    unfold Table.contains
    by_cases hi : i = ownSession
    · simp [hi]
    · rw [Table.find?_insert_of_ne _ _ hi]
      simp [hi]
  refine ⟨fun i => ?_, fun i => ?_, ?_, ?_, ?_⟩
  · simp only [hids, Nat.zero_add]
  · rw [h.granted, h.closes]
    rfl
  · rw [h.granted]
    exact List.nodup_nil
  · rw [h.granted]
    intro i hi
    cases hi
  · rw [h.ids]
    rfl

/-- The count of holders, with one more that holds `d`. -/
def plus (held : ClientId → Nat) (d : Option ClientId) (i : ClientId) : Nat := held i + if d = some i then 1 else 0

@[simp] theorem plus_none (held : ClientId → Nat) : plus held none = held := by
  funext i
  simp [plus]

theorem plus_some_self (held : ClientId → Nat) (i : ClientId) : plus held (some i) i = held i + 1 := by
  simp [plus]

theorem plus_some_of_ne (held : ClientId → Nat) {i j : ClientId} (h : j ≠ i) : plus held (some i) j = held j := by
  simp [plus, Ne.symm h]

/-- What held the id `d` holds `d'` afterwards, and the ids are accounted for as before. -/
structure Deals (d d' : Option ClientId) (env env' : Env) : Prop where
  allocs : env.ids.allocs ≤ env'.ids.allocs
  accounts : env'.ids.allocs < 0x10000000000000000 → ∀ held, env.Accounts (plus held d) → env'.Accounts (plus held d')

theorem Accounts.of_steady (h : env.Accounts held) (hsame : env.Steady env') : env'.Accounts held := by
  obtain ⟨hids, hgranted, hcloses⟩ := hsame
  refine ⟨?_, ?_, ?_, ?_, ?_⟩
  · rw [hids]
    exact h.inUse
  · rw [hgranted, hcloses]
    exact h.settled
  · rw [hgranted]
    exact h.once
  · rw [hids, hgranted]
    exact h.below
  · rw [hids]
    exact h.cursor

namespace Deals

theorem of_steady (h : env.Steady env') : Deals d d env env' :=
  ⟨Nat.le_of_eq (congrArg IdSpace.allocs h.ids).symm, fun _ _ haccounts => haccounts.of_steady h⟩

theorem refl (env : Env) : Deals d d env env := of_steady (.refl env)

theorem trans (h : Deals d d' env env') (h' : Deals d' d'' env' env'') : Deals d d'' env env'' where
  allocs := Nat.le_trans h.allocs h'.allocs
  accounts hfew held haccounts := by
    have hfew' : env'.ids.allocs < 0x10000000000000000 := Nat.lt_of_le_of_lt h'.allocs hfew
    exact h'.accounts hfew held (h.accounts hfew' held haccounts)

end Deals

/-! ### Ids that are handed out -/

namespace Accounts

/-- An id that was not reached yet is not in use, and the parent has not seen it. -/
theorem of_reach_le (h : env.Accounts held) (hreach : env.ids.reach ≤ id.num.val) (hown : id ≠ ownSession) :
    env.ids.contains id = false ∧ id ∉ env.parent.granted := by
  have hnew : id ∉ env.parent.granted := by
    intro hmem
    have := h.below id hmem
    omega
  have hsettled := h.settled id
  rw [List.count_eq_zero_of_not_mem hnew] at hsettled
  have huse := h.inUse id
  rw [if_neg hown] at huse
  refine ⟨?_, hnew⟩
  cases hc : env.ids.contains id with
  | false => rfl
  | true =>
    rw [hc, if_pos rfl] at huse
    omega

theorem contains_own (h : env.Accounts held) : env.ids.contains ownSession = true := by
  have huse := h.inUse ownSession
  rw [if_pos rfl] at huse
  by_contra hc
  rw [if_neg hc] at huse
  omega

/-- The id of the next allocation is the first that was not reached, but for the id of the own session. -/
theorem num_nextFree (h : env.Accounts held) (hfew : env.ids.allocs + 1 < 0x10000000000000000) :
    env.ids.nextFree.num.val = if env.ids.allocs = 1 then 2 else env.ids.reach := by
  have hcursor := h.cursor
  have hreach : env.ids.reach < 0x10000000000000000 := by
    unfold IdSpace.reach
    split <;> omega
  rw [Nat.mod_eq_of_lt hreach] at hcursor
  unfold IdSpace.nextFree
  by_cases hone : env.ids.allocs = 1
  · -- the cursor stands at the id of the own session, which is in use
    have hreach : env.ids.reach = 1 := by simp [IdSpace.reach, hone]
    have hcur : env.ids.cursor = ownSession := by
      refine Ident.num_val_inj ?_
      rw [hcursor, hreach]
      rfl
    obtain ⟨n, hn⟩ := Nat.exists_eq_succ_of_ne_zero (IdSpace.size_ne_zero h.contains_own)
    have hfree : (!env.ids.contains ownSession.succ) = true := by
      have hsucc : env.ids.contains ownSession.succ = false := by
        refine (h.of_reach_le ?_ (by decide)).1
        rw [hreach]
        decide
      rw [hsucc]
      rfl
    rw [if_pos hone, hn, hcur]
    have hstep : IdSpace.firstFree (fun i => !env.ids.contains i) (n + 1) ownSession =
        IdSpace.firstFree (fun i => !env.ids.contains i) n ownSession.succ := by
      simp [IdSpace.firstFree, h.contains_own]
    rw [hstep, IdSpace.firstFree_of_free hfree]
    rfl
  · have hown : env.ids.cursor ≠ ownSession := by
      intro hcur
      rw [hcur] at hcursor
      have hval : ownSession.num.val = 1 := rfl
      rw [hval] at hcursor
      unfold IdSpace.reach at hcursor
      split at hcursor <;> omega
    have hfree : (!env.ids.contains env.ids.cursor) = true := by
      rw [(h.of_reach_le (Nat.le_of_eq hcursor.symm) hown).1]
      rfl
    rw [if_neg hone, IdSpace.firstFree_of_free hfree, hcursor]

/-- An id that is handed out is fresh: it is not in use, and the parent has not seen it. -/
theorem fresh (h : env.Accounts held) (hfew : env.ids.allocs + 1 < 0x10000000000000000) :
    env.ids.contains env.ids.nextFree = false ∧ env.ids.nextFree ∉ env.parent.granted := by
  have hnum := h.num_nextFree hfew
  refine h.of_reach_le ?_ ?_
  · rw [hnum]
    unfold IdSpace.reach
    split <;> split <;> omega
  · intro hown
    rw [hown] at hnum
    have hval : ownSession.num.val = 1 := rfl
    rw [hval] at hnum
    unfold IdSpace.reach at hnum
    split at hnum
    · omega
    · split at hnum <;> omega

end Accounts

/-- Id `id` is granted by the parent, and nothing else happens to the ids. -/
structure Grants (id : ClientId) (env env' : Env) : Prop where
  ids : env'.ids = env.ids
  granted : env'.parent.granted = env.parent.granted ++ [id]
  closes : env'.closes = env.closes

/-- What an allocation makes of the ids, after some step that leaves them alone. -/
structure Allocated (env env' : Env) : Prop where
  contains : ∀ i, env'.ids.contains i = true ↔ i = env.ids.nextFree ∨ env.ids.contains i = true
  cursor : env'.ids.cursor = env.ids.nextFree.succ
  allocs : env'.ids.allocs = env.ids.allocs + 1

theorem allocated_of_ids {service : String} (hids : env'.ids = (env.allocId service).2.ids) : Allocated env env' := by
  refine ⟨fun i => ?_, ?_, ?_⟩
  · rw [hids]
    exact IdSpace.contains_alloc env.ids service i
  · rw [hids]
    rfl
  · rw [hids]
    rfl

namespace Accounts

/-- What was reached stays below, and the cursor stands behind the id that was handed out. -/
theorem cursor_of_allocated (h : env.Accounts held) (hfew : env.ids.allocs + 1 < 0x10000000000000000)
    (halloc : Allocated env env') : env.ids.reach ≤ env'.ids.reach ∧ env.ids.nextFree.num.val < env'.ids.reach ∧
      env'.ids.cursor.num.val = env'.ids.reach % 0x10000000000000000 := by
  have hnum := h.num_nextFree hfew
  have hcursor : env'.ids.cursor.num.val = (env.ids.nextFree.num.val + 1) % 0x10000000000000000 := by
    rw [halloc.cursor]
    rfl
  have hreach : env'.ids.reach = env.ids.nextFree.num.val + 1 := by
    rw [hnum]
    unfold IdSpace.reach
    rw [halloc.allocs]
    split <;> split <;> (try split) <;> omega
  refine ⟨?_, by omega, by rw [hcursor, hreach]⟩
  unfold IdSpace.reach
  rw [halloc.allocs]
  split <;> split <;> omega

theorem nextFree_ne_own (h : env.Accounts held) (hfew : env.ids.allocs + 1 < 0x10000000000000000) :
    env.ids.nextFree ≠ ownSession := by
  intro hown
  have hfree := (h.fresh hfew).1
  rw [hown, h.contains_own] at hfree
  cases hfree

/-- An id that was handed out for nothing is released. -/
theorem refused (h : env.Accounts held) (hfew : env.ids.allocs + 1 < 0x10000000000000000)
    (halloc : Allocated env env') (hgranted : env'.parent.granted = env.parent.granted)
    (hcloses : env'.closes = env.closes) : (env'.releaseId env.ids.nextFree).Accounts held := by
  obtain ⟨hfree, -⟩ := h.fresh hfew
  obtain ⟨hmore, -, hcursor⟩ := h.cursor_of_allocated hfew halloc
  have hown := h.nextFree_ne_own hfew
  unfold releaseId
  rw [if_neg hown]
  refine ⟨fun i => ?_, ?_, ?_, fun i hi => ?_, hcursor⟩
  · have hsame : (env'.ids.erase env.ids.nextFree).contains i = true ↔ env.ids.contains i = true := by
      rw [IdSpace.contains_erase, halloc.contains]
      constructor
      · rintro ⟨hne, rfl | hc⟩
        · exact absurd rfl hne
        · exact hc
      · intro hc
        refine ⟨?_, .inr hc⟩
        rintro rfl
        rw [hfree] at hc
        cases hc
    rw [if_congr hsame rfl rfl]
    exact h.inUse i
  · show ∀ i, env'.parent.granted.count i = env'.closes.count i + held i
    rw [hgranted, hcloses]
    exact h.settled
  · show env'.parent.granted.Nodup
    rw [hgranted]
    exact h.once
  · have hi : i ∈ env'.parent.granted := hi
    rw [hgranted] at hi
    exact Nat.lt_of_lt_of_le (h.below i hi) hmore

/-- An id for which the parent granted a session is held. -/
theorem granted (h : env.Accounts held) (hfew : env.ids.allocs + 1 < 0x10000000000000000)
    (halloc : Allocated env env') (hgranted : env'.parent.granted = env.parent.granted ++ [env.ids.nextFree])
    (hcloses : env'.closes = env.closes) : env'.Accounts (plus held (some env.ids.nextFree)) := by
  obtain ⟨hfree, hnew⟩ := h.fresh hfew
  obtain ⟨hmore, hbelow, hcursor⟩ := h.cursor_of_allocated hfew halloc
  have hown := h.nextFree_ne_own hfew
  refine ⟨fun i => ?_, fun i => ?_, ?_, fun i hi => ?_, hcursor⟩
  · have huse := h.inUse i
    by_cases hi : i = env.ids.nextFree
    · subst hi
      rw [if_neg hown, hfree, if_neg Bool.false_ne_true] at huse
      rw [plus_some_self, if_neg hown, if_pos ((halloc.contains _).2 (.inl rfl))]
      omega
    · have hsame : env'.ids.contains i = true ↔ env.ids.contains i = true := by
        rw [halloc.contains]
        exact ⟨fun hc => hc.resolve_left hi, .inr⟩
      rw [plus_some_of_ne _ hi, if_congr hsame rfl rfl]
      exact huse
  · have hsettled := h.settled i
    rw [hgranted, hcloses, List.count_append]
    by_cases hi : i = env.ids.nextFree
    · subst hi
      rw [plus_some_self, List.count_singleton_self]
      omega
    · rw [plus_some_of_ne _ hi, List.count_singleton, if_neg (by simpa using Ne.symm hi)]
      omega
  · rw [hgranted]
    refine List.nodup_append.2 ⟨h.once, by simp, ?_⟩
    intro i hi j hj
    rw [List.mem_singleton.1 hj]
    rintro rfl
    exact hnew hi
  · rw [hgranted] at hi
    rcases List.mem_append.1 hi with hi | hi
    · exact Nat.lt_of_lt_of_le (h.below i hi) hmore
    · rw [List.mem_singleton.1 hi]
      exact hbelow

/-- An id whose session is closed at the parent is released. -/
theorem close (h : env.Accounts (plus held (some id))) : (env.close id).Accounts held := by
  have hown : id ≠ ownSession := by
    rintro rfl
    have huse := h.inUse ownSession
    rw [if_pos rfl, plus_some_self] at huse
    split at huse <;> omega
  have hclose : env.close id = { env.askClose id with ids := env.ids.erase id } := by
    unfold Env.close releaseId
    rw [if_neg hown]
    rfl
  have hcloses : (env.close id).closes = env.closes ++ [id] := by
    rw [hclose]
    show (env.trace ++ [Event.closeAsked id]).filterMap Event.closed? = _
    rw [List.filterMap_append]
    rfl
  have hids : (env.close id).ids = env.ids.erase id := by rw [hclose]
  have hgranted : (env.close id).parent.granted = env.parent.granted := by
    rw [hclose]
    rfl
  have hheld : held id = 0 := by
    have huse := h.inUse id
    rw [plus_some_self] at huse
    split at huse <;> split at huse <;> omega
  refine ⟨fun i => ?_, fun i => ?_, ?_, ?_, ?_⟩
  · rw [hids]
    by_cases hi : i = id
    · subst hi
      rw [hheld, if_neg hown, if_neg]
      rw [IdSpace.contains_erase]
      exact fun hc => hc.1 rfl
    · have huse := h.inUse i
      rw [plus_some_of_ne _ hi] at huse
      have hsame : (env.ids.erase id).contains i = true ↔ env.ids.contains i = true := by
        rw [IdSpace.contains_erase]
        exact ⟨fun hc => hc.2, fun hc => ⟨hi, hc⟩⟩
      rw [huse, if_congr hsame rfl rfl]
  · have hsettled := h.settled i
    rw [hgranted, hcloses, List.count_append]
    by_cases hi : i = id
    · subst hi
      rw [plus_some_self] at hsettled
      rw [List.count_singleton_self]
      omega
    · rw [plus_some_of_ne _ hi] at hsettled
      rw [List.count_singleton, if_neg (by simpa using Ne.symm hi)]
      omega
  · rw [hgranted]
    exact h.once
  · rw [hids, hgranted]
    exact h.below
  · rw [hids]
    exact h.cursor

end Accounts

/-- A session request is refused, or the parent grants it. -/
theorem session_cases (env : Env) (id : ClientId) (service : String) (args : Args) (affinity : Affinity) :
    (∃ e env', env.session id service args affinity = (.error e, env') ∧ env.Apart env') ∨
      ∃ cap env', env.session id service args affinity = (.ok cap, env') ∧ Grants id env env' := by
  unfold session
  split
  · exact .inl ⟨_, _, rfl, .refl env⟩
  · unfold paying
    dsimp only
    split
    · exact .inl ⟨_, _, rfl, .refl env⟩
    · rename_i bank _
      have hrecord := Apart.record env (e := .sessionAsked id service args.text affinity) rfl
      unfold askSession
      dsimp only
      cases (({ env with bank := bank }.record
          (.sessionAsked id service args.text affinity)).parent).sessions.head?.join with
      | some e =>
        dsimp only
        exact .inl ⟨_, _, rfl, hrecord.trans (.of_eq rfl rfl rfl)⟩
      | none =>
        dsimp only
        exact .inr ⟨_, _, rfl, rfl, rfl, hrecord.steady.closes⟩

end Env

/-! ### Services of the parent -/

namespace ParentService

variable {s : Session} {env : Env} (p : ParentService)

/-- A create takes an id, which is held if the parent grants the session and released otherwise. -/
theorem deals_create (hd : s.downstream = none) :
    env.Deals none (p.create s env).2.1.downstream (p.create s env).2.2 ∧
      ((p.create s env).1.isSome = true → (p.create s env).2.1.downstream = none) := by
  have hid : p.requestId s env = env.allocId p.name := by
    unfold requestId
    rw [hd]
  unfold create
  rw [hid]
  rcases Env.session_cases (env.allocId p.name).2 (env.allocId p.name).1 p.name s.args s.affinity with
    ⟨e, env', heq, hapart⟩ | ⟨cap, env', heq, hgrants⟩
  · have hsteady := hapart.steady
    have halloc : env.Allocated env' := Env.allocated_of_ids hsteady.ids
    have hdeals : env.Deals none none (env'.releaseId (env.allocId p.name).1) := by
      have hallocs : (env'.releaseId (env.allocId p.name).1).ids.allocs = env.ids.allocs + 1 := by
        unfold Env.releaseId
        split
        · exact halloc.allocs
        · exact halloc.allocs
      refine ⟨by omega, fun hfew held h => ?_⟩
      rw [Env.plus_none] at h ⊢
      exact h.refused (by omega) halloc hsteady.granted hsteady.closes
    dsimp only
    rw [heq]
    dsimp only
    split
    · exact ⟨by rw [Session.downstream_advance]; exact hdeals, fun h => by cases h⟩
    · exact ⟨hdeals, fun _ => rfl⟩
  · have halloc : env.Allocated env' := Env.allocated_of_ids hgrants.ids
    have hdeals : env.Deals none (some (env.allocId p.name).1) env' := by
      have hallocs := halloc.allocs
      refine ⟨by omega, fun hfew held h => ?_⟩
      rw [Env.plus_none] at h
      exact h.granted (by omega) halloc hgrants.granted hgrants.closes
    dsimp only
    rw [heq]
    dsimp only
    exact ⟨by rw [Session.downstream_advance]; exact hdeals, fun h => by cases h⟩

theorem deals_upgrade (s : Session) (env : Env) :
    env.Deals s.downstream (upgrade s env).1.downstream (upgrade s env).2 := by
  have hsame : (s.confirmUpgrade.advance .capHandedOut).downstream = s.downstream := Session.downstream_advance _ _
  unfold upgrade
  dsimp only
  split
  · rw [hsame]
    exact .refl env
  · rw [hsame]
    exact .of_steady (Env.asks_upgrade env _ _).apart.steady

/-- A close releases the id. -/
theorem deals_close (s : Session) (env : Env) : env.Deals s.downstream (close s env).1.downstream (close s env).2 := by
  have hgone : (close s env).1.downstream = none := Session.downstream_advance _ _
  rw [hgone]
  unfold close
  cases s.downstream with
  | none => exact .refl env
  | some id =>
    refine ⟨?_, fun _ held h => ?_⟩
    · show env.ids.allocs ≤ ((env.askClose id).releaseId id).ids.allocs
      unfold Env.releaseId
      split <;> exact Nat.le_refl _
    · rw [Env.plus_none]
      exact h.close

theorem deals_forward (s : Session) (env : Env) (hd : s.phase = .createRequested → s.downstream = none) :
    env.Deals s.downstream (p.forward s env).2.1.downstream (p.forward s env).2.2 ∧
      ((p.forward s env).1.isSome = true → (p.forward s env).2.1.downstream = none) := by
  unfold forward
  split
  · rename_i hphase
    rw [hd hphase]
    exact p.deals_create (hd hphase)
  · exact ⟨deals_upgrade s env, fun h => by cases h⟩
  · exact ⟨deals_close s env, fun h => by cases h⟩
  · exact ⟨.refl env, fun h => by cases h⟩

/-- However often a request is tried, its id is held or released in the end. -/
theorem deals_attempt (n : Nat) : ∀ (last : SessionError) (s : Session) (env : Env),
    (s.phase = .createRequested → s.downstream = none) →
      env.Deals s.downstream (p.attempt last n s env).2.1.downstream (p.attempt last n s env).2.2 := by
  induction n with
  | zero =>
    intro last s env _
    unfold attempt
    dsimp only
    split
    · rw [Session.downstream_advance]
      exact .refl env
    · exact .refl env
  | succ n ih =>
    intro last s env hd
    obtain ⟨htry, hagain⟩ := p.deals_forward s env hd
    unfold attempt
    rcases hforward : p.forward s env with ⟨_ | e, s', env'⟩
    · rw [hforward] at htry
      exact htry
    · rw [hforward] at htry hagain
      have hnone : s'.downstream = none := hagain rfl
      dsimp only
      split
      · have hask := (Env.asks_requestResources env' (Env.resourceText s'.resources
          (if e = .outOfCaps then Resource.caps else .ram))).apart.steady
        exact (htry.trans (.of_steady hask)).trans (ih e s' _ fun _ => hnone)
      · exact htry

/-- A service of the parent deals with the id of its session in every phase. -/
theorem deals_initiate (hd : s.phase = .createRequested → s.downstream = none) :
    env.Deals s.downstream (p.initiate s env).session.downstream (p.initiate s env).env := by
  unfold initiate
  split
  · have hone := (p.deals_forward s env hd).1
    rcases hforward : p.forward s env with ⟨error, s', env'⟩
    rw [hforward] at hone
    cases error with
    | none => exact hone
    | some e =>
      dsimp only
      split
      · rw [Session.downstream_advance]
        exact hone
      · exact hone
  · exact p.deals_attempt _ _ _ _ hd

end ParentService

/-! ### All providers -/

theorem Factory.apart_create (f : Factory) (service : String) (args : Args) (affinity : Affinity) (env : Env) :
    env.Apart (f.create service args affinity env).2.2 := by
  unfold create
  split
  · exact .refl env
  · have hrecord := Env.Apart.record env (e := .objectAsked service args.text affinity) rfl
    dsimp only
    split
    · exact hrecord
    · exact hrecord.trans (.of_eq rfl rfl rfl)

namespace LocalService

variable (l : LocalService) (s : Session) (env : Env)

theorem apart_create : env.Apart (l.create s env).env := by
  have hcreate := l.factory.apart_create l.name s.args s.affinity env
  unfold create
  split
  · rename_i heq
    rw [heq] at hcreate
    exact hcreate
  · rename_i heq
    rw [heq] at hcreate
    split
    · exact hcreate
    · exact hcreate

theorem steady_upgrade : env.Steady (l.upgrade s env).env := by
  unfold upgrade
  dsimp only
  split
  · exact .refl env
  · split
    · exact .refl env
    · unfold Factory.upgrade
      split
      · exact .refl env
      · exact .record env rfl

theorem steady_close : env.Steady (l.close s env).env := by
  unfold close
  dsimp only
  split
  · exact .refl env
  · split
    · exact .refl env
    · unfold Factory.destroy
      split
      · exact .refl env
      · exact .record env rfl

/-- A service of this component asks the parent for nothing. -/
theorem steady_initiate : env.Steady (l.initiate s env).env := by
  unfold initiate
  split
  · exact (l.apart_create s env).steady
  · exact l.steady_upgrade s env
  · exact l.steady_close s env
  · exact .refl env

end LocalService

/-- The id that a session refers to is one of the parent if its provider is a service of the parent. -/
def Provider.parentId? : Provider → Option ClientId → Option ClientId
  | .parent _, d => d
  | _, _ => none

/-- A provider that works on a session deals with its id, if the session belongs to the parent, and with no other. -/
theorem Registry.deals_initiate? {r : Registry} {s : Session} {env : Env} {p : Provider} {o : Outcome Registry}
    (hr : ∀ n v, r.locals.find? n = some v → ∃ l, v = .made l) (hd : s.phase = .createRequested → s.downstream = none)
    (h : r.initiate? s env p = some o) :
    env.Deals (p.parentId? s.downstream) (p.parentId? o.session.downstream) o.env := by
  cases p with
  | here n =>
    obtain ⟨v, hv, rfl⟩ := Option.map_eq_some_iff.1 h
    obtain ⟨l, rfl⟩ := hr n v hv
    exact .of_steady (l.steady_initiate s env)
  | later n =>
    obtain ⟨d, -, rfl⟩ := Option.map_eq_some_iff.1 h
    have henv : (d.initiate s env).env = env := d.env_initiate s env
    show env.Deals none none (d.initiate s env).env
    rw [henv]
    exact .refl env
  | parent n =>
    obtain ⟨v, -, rfl⟩ := Option.map_eq_some_iff.1 h
    exact v.deals_initiate hd
  | child c n =>
    obtain ⟨v, -, rfl⟩ := Option.map_eq_some_iff.1 h
    have henv : (v.desk.initiate s env).env = env := v.desk.env_initiate s env
    show env.Deals none none (v.desk.initiate s env).env
    rw [henv]
    exact .refl env

end SessionBroker
