import SessionBroker.Proofs.Histories
import SessionBroker.Proofs.ParentIds
import SessionBroker.Proofs.Standing
import SessionBroker.Proofs.Workings

/-!
# SessionBroker.Proofs.ParentLedger — no id of a session at the parent leaks

* `Broker.parentIds`: the ids at the parent of the sessions that were routed to it.
* `Broker.Served`: the parent's service of every session that is not closed is there, so its close reaches the parent.
* `Broker.Tallies b b'`: the ids are accounted for afterwards if they were before (`tallies_part`).
* `parent_ids_accounted`: in every state that is reached, the ids in use are those of the sessions and that of the
  component itself, and the parent has closed all the others that it granted.
-/

namespace SessionBroker

/-- The id at the parent of a session, if it was routed to the parent and has one. -/
def Slot.parentId? (t : Slot) : Option ClientId := t.provider.bind fun p => p.parentId? t.session.downstream

theorem Provider.parentId?_none (p : Provider) : p.parentId? none = none := by
  cases p <;> rfl

theorem Provider.parentId?_of_ne {p : Provider} (hp : ∀ n, p ≠ .parent n) (d : Option ClientId) :
    p.parentId? d = none := by
  cases p with
  | parent n => exact absurd rfl (hp n)
  | here n | later n | child c n => rfl

theorem Provider.ne_parent_of_isAsync {p : Provider} (hp : p.isAsync = true) (n : String) : p ≠ .parent n := by
  rintro rfl
  cases hp

namespace Slot

theorem parentId?_some (s : Session) (p : Provider) : parentId? ⟨s, some p⟩ = p.parentId? s.downstream := rfl

/-- A session without an id is not at the parent. -/
theorem parentId?_of_downstream {t : Slot} (h : t.session.downstream = none) : t.parentId? = none := by
  unfold parentId?
  rw [h]
  cases t.provider with
  | none => rfl
  | some p => exact p.parentId?_none

end Slot

namespace Broker

variable {new : ServerId → Prop} {op : Op} {b b' b'' : Broker} {id : ServerId} {t t' : Slot}

/-- The ids at the parent of the sessions that were routed to it, in the order of the sessions. -/
def parentIds (b : Broker) : List ClientId := b.sessions.values.filterMap Slot.parentId?

/-- The number of sessions that have id `i` at the parent. -/
def holders (b : Broker) (i : ClientId) : Nat := b.sessions.sum fun _ t => if t.parentId? = some i then 1 else 0

theorem holders_eq_count (b : Broker) (i : ClientId) : b.holders i = b.parentIds.count i := by
  unfold holders parentIds Table.sum Table.values
  induction b.sessions.entries with
  | nil => rfl
  | cons e rest ih =>
    simp only [List.map_cons, List.sum_cons, List.filterMap_cons, ih]
    cases e.2.parentId? with
    | none => simp
    | some j =>
      rw [List.count_cons]
      simp [Nat.add_comm]

/-! ### Services of the parent that are needed -/

/-- Every session at the parent that is not closed has its service. -/
def Served (b : Broker) : Prop :=
  ∀ id s n, b.sessions.find? id = some ⟨s, some (.parent n)⟩ → s.isAlive = true →
    b.providers.contains (.parent n) = true

namespace Served

/-- What is at the parent was there before, and its service is. -/
theorem of_alive (hb : b.Served)
    (hcontains : ∀ n, b.providers.contains (.parent n) = true → b'.providers.contains (.parent n) = true)
    (halive : ∀ id s n, b'.sessions.find? id = some ⟨s, some (.parent n)⟩ → s.isAlive = true →
      (∃ u, b.sessions.find? id = some ⟨u, some (.parent n)⟩ ∧ u.isAlive = true) ∨
        b'.providers.contains (.parent n) = true) : b'.Served := by
  intro id s n hfound hs
  rcases halive id s n hfound hs with ⟨u, hu, hlive⟩ | hthere
  · exact hcontains n (hb id u n hu hlive)
  · exact hthere

/-- One session is stored anew.  If it is at the parent, its service is there. -/
theorem of_modify (hb : b.Served) (hstands : b.Stands b') (hfound : b.sessions.find? id = some t)
    (hsessions : b'.sessions = b.sessions.modify id fun _ => t')
    (hself : ∀ n, t'.provider = some (.parent n) → b'.providers.contains (.parent n) = true) : b'.Served := by
  refine hb.of_alive (fun n => hstands.contains) fun j s n hj hs => ?_
  rw [hsessions] at hj
  by_cases hid : j = id
  · subst hid
    rw [Table.find?_modify_of _ hfound] at hj
    obtain rfl := Option.some.inj hj
    exact .inr (hself n rfl)
  · rw [Table.find?_modify_of_ne _ _ hid] at hj
    exact .inl ⟨s, hj, hs⟩

end Served

theorem served_turn {phase : Phase} (hb : b.Served) (hstands : b.Stands b') (h : Turn phase b b' id) : b'.Served := by
  cases h with
  | idle hsame =>
    rw [hsame]
    exact hb
  | stored t t' hfound _ hsessions hthere => exact hb.of_modify hstands hfound hsessions fun n hn => hthere _ hn
  | lost s s' p hfound halive hgone hsessions =>
    refine hb.of_modify hstands hfound hsessions fun n hn => ?_
    obtain rfl := Option.some.inj hn
    exact hstands.contains (hb id s n hfound halive)
  | worked t p s s' r env o hfound _ _ _ _ _ _ hgiven _ hproviders hsessions =>
    refine hb.of_modify hstands hfound hsessions fun n hn => ?_
    obtain rfl := Option.some.inj hn
    rw [hproviders, Registry.contains_eq_standing?, Registry.standing?_initiate? hgiven]
    obtain ⟨v, hv, -⟩ := Option.map_eq_some_iff.1 hgiven
    simp [Registry.standing?, hv]

theorem served_restores {p : Provider} (hb : b.Served) (hp : p.isAsync = true) (hstands : b.Stands b')
    (h : b' = b ∨ Restores b b' id p) : b'.Served := by
  rcases h with hsame | h
  · rw [hsame]
    exact hb
  · obtain ⟨s, s', hfound, hsessions⟩ := h.sessions
    refine hb.of_modify hstands hfound hsessions fun n hn => ?_
    exact absurd (Option.some.inj hn) (Provider.ne_parent_of_isAsync hp n)

/-- The services that sessions need stay. -/
theorem served_part (hb : b.Served) (h : Part new op b b') : b'.Served := by
  cases h with
  | routed id => exact served_turn hb (chores_route b id).stands (turn_route b id)
  | upgraded id q => exact served_turn hb (chores_upgrade b id q).stands (turn_upgrade b id q)
  | closed id => exact served_turn hb (chores_close b id).stands (turn_close b id)
  | answered p id r hp hserves =>
    exact served_restores hb hp (chores_applyResponse b id p r).stands
      (restores_applyResponse (fun t ht => (hserves t ht).1) r)
  | dismissed k id => exact served_restores hb rfl (chores_dismiss b id k).stands (restores_dismiss b k id)
  | provided hrearranged _ _ hkept =>
    intro id s n hfound hs
    rw [hrearranged.sessions] at hfound
    exact hkept n (hb id s n hfound hs) (inUse_of_alive hfound rfl hs)
  | registered l | opened d | malformed id => exact hb
  | forgotten keep => exact fun id s n hfound hs => hb id s n (Table.find?_of_filter hfound) hs
  | admitted id s =>
    refine hb.of_alive (fun _ h => h) fun j u n hj hu => ?_
    by_cases hid : j = id
    · subst hid
      cases (Table.find?_insert_self _ _ _).symm.trans hj
    · exact .inl ⟨u, (Table.find?_insert_of_ne _ _ hid).symm.trans hj, hu⟩

/-! ### What parts of operations do to the ids -/

/-- While few enough ids are allocated, they are accounted for afterwards if they were before. -/
structure Tallies (b b' : Broker) : Prop where
  allocs : b.env.ids.allocs ≤ b'.env.ids.allocs
  accounts : b'.env.ids.allocs < 0x10000000000000000 → b.env.Accounts b.holders → b'.env.Accounts b'.holders

namespace Tallies

/-- The ids are left alone, and the sessions hold those that they held. -/
theorem of_steady (henv : b.env.Steady b'.env) (hholders : ∀ i, b'.holders i = b.holders i) : Tallies b b' := by
  refine ⟨Nat.le_of_eq (congrArg IdSpace.allocs henv.ids).symm, fun _ h => ?_⟩
  rw [funext hholders]
  exact h.of_steady henv

theorem refl (b : Broker) : Tallies b b := of_steady (.refl _) fun _ => rfl

theorem trans (h : Tallies b b') (h' : Tallies b' b'') : Tallies b b'' where
  allocs := Nat.le_trans h.allocs h'.allocs
  accounts hfew hb := h'.accounts hfew (h.accounts (Nat.lt_of_le_of_lt h'.allocs hfew) hb)

/-- One session deals with its id. -/
theorem of_modify (hfound : b.sessions.find? id = some t) (hsessions : b'.sessions = b.sessions.modify id fun _ => t')
    (hdeals : b.env.Deals t.parentId? t'.parentId? b'.env) : Tallies b b' := by
  obtain ⟨others, hothers⟩ : ∃ others : ClientId → Nat, ∀ i,
      others i = (b.sessions.erase id).sum fun _ u => if u.parentId? = some i then 1 else 0 := ⟨_, fun _ => rfl⟩
  have hrest : b'.sessions.erase id = b.sessions.erase id := by
    rw [hsessions]
    refine Table.ext_find? fun j => ?_
    by_cases hj : j = id
    · rw [hj, Table.find?_erase_self, Table.find?_erase_self]
    · rw [Table.find?_erase_of_ne _ hj, Table.find?_erase_of_ne _ hj, Table.find?_modify_of_ne _ _ hj]
  have hself : b'.sessions.find? id = some t' := by
    rw [hsessions, Table.find?_modify_of _ hfound]
  have hbefore : b.holders = Env.plus others t.parentId? := by
    funext i
    unfold holders Env.plus
    rw [Table.sum_eq_add_sum_erase _ hfound, hothers, Nat.add_comm]
  have hafter : b'.holders = Env.plus others t'.parentId? := by
    funext i
    unfold holders Env.plus
    rw [Table.sum_eq_add_sum_erase _ hself, hrest, hothers, Nat.add_comm]
  refine ⟨hdeals.allocs, fun hfew h => ?_⟩
  rw [hbefore] at h
  rw [hafter]
  exact hdeals.accounts hfew others h

/-- A session that is not at the parent is stored anew, and is not at the parent afterwards. -/
theorem of_apart (hfound : b.sessions.find? id = some t) (hsessions : b'.sessions = b.sessions.modify id fun _ => t')
    (henv : b.env.Apart b'.env) (hbefore : t.parentId? = none) (hafter : t'.parentId? = none) : Tallies b b' := by
  refine of_modify hfound hsessions ?_
  rw [hbefore, hafter]
  exact .of_steady henv.steady

end Tallies

/-- Whether it is created, upgraded or closed, a session deals with its id at the parent. -/
theorem tallies_turn {phase : Phase} (hsound : b.Sound) (hb : b.Served) (h : Turn phase b b' id) : Tallies b b' := by
  cases h with
  | idle hsame =>
    rw [hsame]
    exact .refl b
  | stored t t' hfound hunrouted hsessions _ _ hdown _ henv =>
    have hnone := ((hsound.slots id t hfound).unrouted hunrouted).1
    exact .of_apart hfound hsessions henv (Slot.parentId?_of_downstream hnone)
      (Slot.parentId?_of_downstream (hdown.trans hnone))
  | lost s s' p hfound halive hgone hsessions _ henv =>
    -- a service of the parent is there as long as the session is not closed
    have hp : ∀ n, p ≠ .parent n := by
      rintro n rfl
      rw [hb id s n hfound halive] at hgone
      cases hgone
    exact .of_apart hfound hsessions henv (Provider.parentId?_of_ne hp _) (Provider.parentId?_of_ne hp _)
  | worked t p s s' r env o hfound hprovider hphase _ hdown hlocals hbefore hgiven hafter hproviders hsessions _ hdown' _ =>
    have hwaiting : s.phase = .createRequested → t.parentId? = none ∧ s.downstream = none := by
      intro hcreate
      rw [if_pos (hphase.symm.trans hcreate)] at hprovider
      have hnone := ((hsound.slots id t hfound).unrouted hprovider).1
      exact ⟨Slot.parentId?_of_downstream hnone, hdown.trans hnone⟩
    have hlocal : ∀ n v, r.locals.find? n = some v → ∃ l, v = .made l := by
      rw [hlocals]
      exact hsound.builtIn.locals
    have hheld : t.parentId? = p.parentId? s.downstream := by
      by_cases hcreate : phase = .createRequested
      · obtain ⟨hnone, hnone'⟩ := hwaiting (hphase.trans hcreate)
        rw [hnone, hnone', Provider.parentId?_none]
      · rw [if_neg hcreate] at hprovider
        unfold Slot.parentId?
        rw [hprovider, hdown]
        rfl
    have hworks := Registry.deals_initiate? hlocal (fun h => (hwaiting h).2) hgiven
    refine .of_modify hfound hsessions ?_
    rw [hheld, Slot.parentId?_some, hdown']
    exact ((Env.Deals.of_steady hbefore.steady).trans hworks).trans (.of_steady hafter.steady)

theorem tallies_restores {p : Provider} (hp : p.isAsync = true) (h : b' = b ∨ Restores b b' id p) : Tallies b b' := by
  rcases h with hsame | h
  · rw [hsame]
    exact .refl b
  · obtain ⟨s, s', hfound, hsessions⟩ := h.sessions
    have hnone : ∀ d, p.parentId? d = none := Provider.parentId?_of_ne (Provider.ne_parent_of_isAsync hp)
    exact .of_apart hfound hsessions h.env (hnone _) (hnone _)

/-- Every part of an operation keeps the account of the ids. -/
theorem tallies_part (hsound : b.Sound) (hb : b.Served) (h : Part new op b b') : Tallies b b' := by
  cases h with
  | routed id => exact tallies_turn hsound hb (turn_route b id)
  | upgraded id q => exact tallies_turn hsound hb (turn_upgrade b id q)
  | closed id => exact tallies_turn hsound hb (turn_close b id)
  | answered p id r hp hserves => exact tallies_restores hp (restores_applyResponse (fun t ht => (hserves t ht).1) r)
  | dismissed k id => exact tallies_restores rfl (restores_dismiss b k id)
  | provided hrearranged =>
    refine .of_steady (.of_eq hrearranged.env) fun i => ?_
    unfold holders
    rw [hrearranged.sessions]
  | registered l | opened d => exact .of_steady (.refl _) fun _ => rfl
  | forgotten keep hkeep =>
    refine .of_steady (.refl _) fun i => Table.sum_filter_of fun id t ht hgone => ?_
    have hended := Session.isEnded_of_not_alive (hkeep id t ht hgone)
    rw [Slot.parentId?_of_downstream ((hsound.slots id t ht).ended hended).2.1]
    rfl
  | malformed id => exact .of_steady (.record _ rfl) fun _ => rfl
  | admitted id s _ habsent =>
    refine .of_steady (.refl _) fun i => ?_
    exact Table.sum_insert_new _ _ habsent

/-! ### Histories -/

variable {env : Env} {config : RuntimeConfig}

theorem tallies_step (hsound : b.Sound) (hop : op.IsBuiltIn) (hb : b.Served) :
    (b.step op).2.Served ∧ Tallies b (b.step op).2 := by
  have hparts := (parts_step hsound hop).induction (R := fun c d => c.Served → d.Served ∧ Tallies c d) hsound
    (fun c hc => ⟨hc, .refl c⟩)
    (fun c d e hcd hde hc => by
      obtain ⟨hd, hcd⟩ := hcd hc
      obtain ⟨he, hde⟩ := hde hd
      exact ⟨he, hcd.trans hde⟩)
    fun c d hcsound hpart hc => ⟨served_part hc hpart, tallies_part hcsound hc hpart⟩
  exact hparts.2 hb

theorem Reaches.tallies {allowed : Broker → Op → Prop} (h : Reaches Env.Steady allowed (start env config) b) :
    b.Served ∧ Tallies (start env config) b := by
  induction h with
  | refl => exact ⟨fun _ _ _ hfound => by (cases hfound), .refl _⟩
  | op op h hop _ ih =>
    obtain ⟨hserved, htallies⟩ := ih
    obtain ⟨hserved', htallies'⟩ := tallies_step (h.sound (sound_start env config)) hop hserved
    exact ⟨hserved', htallies.trans htallies'⟩
  | around _ hsteady ih => exact ⟨ih.1, ih.2.trans (.of_steady hsteady fun _ => rfl)⟩

/-- The ids in use and the sessions of the parent fit each other. -/
structure Accounted (b : Broker) : Prop where
  nodup : b.parentIds.Nodup
  own : ownSession ∉ b.parentIds
  inUse : ∀ i, b.env.ids.contains i = true ↔ i = ownSession ∨ i ∈ b.parentIds
  openSessions : b.env.openSessions = b.parentIds.length
  /-- What a session holds was granted once and not closed. -/
  held : ∀ i ∈ b.parentIds, b.env.parent.granted.count i = 1 ∧ b.env.closes.count i = 0
  /-- Whatever else was granted was closed. -/
  released : ∀ i, i ∉ b.parentIds → b.env.closes.count i = b.env.parent.granted.count i

section Accounts

variable (h : b.env.Accounts b.holders)

include h

/-- Each id in use is that of the own session, or a session at the parent holds it. -/
theorem count_ids (i : ClientId) :
    (ownSession :: b.parentIds).count i = if b.env.ids.contains i = true then 1 else 0 := by
  have huse := h.inUse i
  rw [holders_eq_count] at huse
  have hown : (ownSession == i) = true ↔ i = ownSession := by rw [beq_iff_eq, eq_comm]
  rw [← huse, List.count_cons, if_congr hown rfl rfl]

theorem nodup_ids : (ownSession :: b.parentIds).Nodup := by
  refine List.nodup_iff_count_le_one.2 fun i => ?_
  rw [count_ids h]
  split <;> omega

theorem mem_ids_iff {i : ClientId} : i ∈ ownSession :: b.parentIds ↔ b.env.ids.contains i = true := by
  rw [← List.count_pos_iff, count_ids h]
  split <;> simp_all

theorem accounted_of_accounts : b.Accounted := by
  obtain ⟨hown, hnodup⟩ := List.nodup_cons.1 (nodup_ids h)
  refine ⟨hnodup, hown, fun i => (mem_ids_iff h).symm.trans List.mem_cons, ?_, fun i hi => ?_, fun i hi => ?_⟩
  · have hperm : b.env.ids.table.keys.Perm (ownSession :: b.parentIds) := by
      refine (List.perm_ext_iff_of_nodup (Table.nodup_keys _) (nodup_ids h)).2 fun i => ?_
      rw [mem_ids_iff h, Table.mem_keys]
      exact Table.contains_eq_true.symm
    have hlength := hperm.length_eq
    unfold Table.keys at hlength
    rw [List.length_map, List.length_cons] at hlength
    show b.env.ids.table.entries.length - 1 = _
    omega
  · have hone := List.count_eq_one_of_mem hnodup hi
    have hsettled := h.settled i
    have honce := List.nodup_iff_count_le_one.1 h.once i
    rw [holders_eq_count] at hsettled
    omega
  · have hnone := List.count_eq_zero_of_not_mem hi
    have hsettled := h.settled i
    rw [holders_eq_count] at hsettled
    omega

end Accounts

/-- No id leaks, whatever the parent answers: in every state that is reached while fewer than `2 ^ 64` ids were
allocated, the ids in use are those of the sessions at the parent, which all differ, and that of the component's own
session. -/
theorem parent_ids_accounted (hnew : env.Untouched)
    (h : Reaches Env.Steady (fun _ _ => True) (start env config) b) (hfew : b.env.ids.allocs < 0x10000000000000000) :
    b.Accounted := by
  obtain ⟨-, htallies⟩ := h.tallies
  exact accounted_of_accounts (htallies.accounts hfew hnew.accounts)

/-- Two sessions were requested from the parent, and the first was closed. -/
def oneReleased : Broker :=
  (start sampleEnv { rules := [{ target := .parent none }] }).run
    [.create ⟨0⟩ "log" "ram_quota=5" {}, .create ⟨1⟩ "log" "ram_quota=5" {}, .close ⟨0⟩]

/-- The id of the component's own session is passed over, and that of the closed session is released. -/
theorem oneReleased_accounted : oneReleased.Accounted ∧ oneReleased.env.closes = [⟨0⟩] ∧
    oneReleased.parentIds = [⟨⟨2, by decide⟩⟩] := by
  have hreaches : Reaches Env.Steady (fun _ _ => True) (start sampleEnv { rules := [{ target := .parent none }] })
      oneReleased := reaches_run _ .refl (by simp [Op.IsBuiltIn])
  have hfew : oneReleased.env.ids.allocs < 0x10000000000000000 := by decide +kernel
  have hnew : sampleEnv.Untouched := ⟨rfl, rfl, rfl⟩
  exact ⟨parent_ids_accounted hnew hreaches hfew, by decide +kernel, by decide +kernel⟩

end Broker

end SessionBroker
