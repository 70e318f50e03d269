import SessionBroker.Proofs.AnyServices

/-!
# SessionBroker.Proofs.Leftovers — providers that were withdrawn

* `Broker.Gone b p`: provider `p` was withdrawn, and is still there.
* `Broker.Tidy b p`: if provider `p` was withdrawn, a live session still needs it.
* `Op.Sweeps b`: the operations that sweep.  They leave every provider tidy.
* `Broker.Retains b b' p`: what is tidy stays tidy.  All operations do this that do not sweep, but for a close of a
  session of the provider.
* `leftovers_of_close`: a withdrawn provider that no session needs was left over by a close, and no operation that
  sweeps came after it.
-/

namespace SessionBroker

/-- Whether a provider can be withdrawn. -/
def Provider.canGo : Provider → Bool
  | .parent _ | .child _ _ => true
  | .here _ | .later _ => false

namespace Registry

variable {r : Registry} {s : Session} {env : Env} {o : Outcome Registry} {p : Provider}

theorem canGo_of_withdrawn {u : Standing} (hu : r.standing? p = some u) (hgone : u.withdrawn = true) :
    p.canGo = true := by
  cases p with
  | parent n | child c n => rfl
  | here n | later n =>
    obtain ⟨v, -, rfl⟩ := Option.map_eq_some_iff.1 hu
    cases hgone

/-- A service of the parent and a service of a child do not close a session that is upgraded. -/
theorem isAlive_initiate?_upgrade (h : r.initiate? s env p = some o) (hp : p.canGo = true)
    (hs : s.phase = .upgradeRequested) : o.session.isAlive = true := by
  have halive : s.isAlive = true := Session.isAlive_of_ne_closed (by rw [hs]; exact Phase.noConfusion)
  cases p with
  | here n | later n => cases hp
  | child c n =>
    obtain ⟨v, -, rfl⟩ := Option.map_eq_some_iff.1 h
    show (v.desk.initiate s env).session.isAlive = true
    rw [Desk.initiate_pending env (.inl hs)]
    exact halive
  | parent n =>
    obtain ⟨v, -, rfl⟩ := Option.map_eq_some_iff.1 h
    show (v.initiate s env).session.isAlive = true
    unfold ParentService.initiate
    split
    · have hforward : v.forward s env = (none, ParentService.upgrade s env) := by
        unfold ParentService.forward
        rw [hs]
      rw [hforward]
      show (ParentService.upgrade s env).1.isAlive = true
      unfold ParentService.upgrade
      split <;> rw [Session.settled_eq hs] <;> rfl
    · rename_i tries _
      by_cases htries : tries = 0
      · subst htries
        unfold ParentService.attempt
        rw [if_neg (by rw [hs]; exact Phase.noConfusion)]
        exact halive
      · show (v.attempt .outOfRam tries s env).2.1.isAlive = true
        have hupgraded : (v.attempt .outOfRam tries s env).2.1 = s.upgraded :=
          (v.attempt_upgrade env _ htries hs).2.1
        rw [hupgraded]
        rfl

end Registry

namespace Broker

variable {b b' b'' : Broker} {id : ServerId} {s : Session} {p : Provider} {k : ChildKey}

/-- The provider was withdrawn, and is still there. -/
def Gone (b : Broker) (p : Provider) : Prop := ∃ u, b.providers.standing? p = some u ∧ u.withdrawn = true

theorem Gone.of_stands (h : b'.Gone p) (hstands : b.Stands b') : b.Gone p := by
  obtain ⟨u, hu, hgone⟩ := h
  exact ⟨u, hstands.providers.of_withdrawn hu hgone, hgone⟩

theorem Gone.canGo (h : b.Gone p) : p.canGo = true := by
  obtain ⟨u, hu, hgone⟩ := h
  exact Registry.canGo_of_withdrawn hu hgone

/-- If the provider was withdrawn, a live session still needs it. -/
def Tidy (b : Broker) (p : Provider) : Prop := b.Gone p → b.inUse p = true

/-- If the provider is withdrawn after a change, it was before, and it is needed if it was before. -/
def Retains (b b' : Broker) (p : Provider) : Prop := b'.Gone p → b.Gone p ∧ (b.inUse p = true → b'.inUse p = true)

theorem Retains.tidy (h : Retains b b' p) (hb : b.Tidy p) : b'.Tidy p := by
  intro hgone
  obtain ⟨hgone, huse⟩ := h hgone
  exact huse (hb hgone)

namespace Retains

theorem refl (b : Broker) (p : Provider) : Retains b b p := fun h => ⟨h, fun h => h⟩

theorem trans (h : Retains b b' p) (h' : Retains b' b'' p) : Retains b b'' p := by
  intro hgone
  obtain ⟨hgone, huse'⟩ := h' hgone
  obtain ⟨hgone, huse⟩ := h hgone
  exact ⟨hgone, fun h => huse' (huse h)⟩

/-- Live sessions of the provider stay live. -/
theorem of_alive (hgone : b'.Gone p → b.Gone p)
    (halive : ∀ id s, b.sessions.find? id = some ⟨s, some p⟩ → s.isAlive = true →
      ∃ s', b'.sessions.find? id = some ⟨s', some p⟩ ∧ s'.isAlive = true) : Retains b b' p := by
  refine fun h => ⟨hgone h, fun huse => ?_⟩
  obtain ⟨id, s, hid, hs⟩ := inUse_iff.1 huse
  obtain ⟨s', hid', hs'⟩ := halive id s hid hs
  exact inUse_iff.2 ⟨id, s', hid', hs'⟩

/-- The sessions are left as they are. -/
theorem of_sessions (hsessions : b'.sessions = b.sessions) (hgone : b'.Gone p → b.Gone p) : Retains b b' p :=
  of_alive hgone fun id s hs halive => ⟨s, by rw [hsessions]; exact hs, halive⟩

/-- Something is done to a session of another provider. -/
theorem of_handles (h : Handles b b' id) (hid : ¬b.Owns p id) : Retains b b' p := by
  refine of_alive (fun hgone => hgone.of_stands h.stands) fun j s hs halive => ⟨s, ?_, halive⟩
  have hj : j ≠ id := by
    rintro rfl
    exact hid ⟨s, hs⟩
  exact (h.others j hj).trans hs

/-- Something is done to a session that leaves it live. -/
theorem of_handles_alive (h : Handles b b' id)
    (hlive : ∀ s, b.sessions.find? id = some ⟨s, some p⟩ → s.isAlive = true →
      ∃ s', b'.sessions.find? id = some ⟨s', some p⟩ ∧ s'.isAlive = true) : Retains b b' p := by
  refine of_alive (fun hgone => hgone.of_stands h.stands) fun j s hs halive => ?_
  by_cases hj : j = id
  · subst hj
    exact hlive s hs halive
  · exact ⟨s, (h.others j hj).trans hs, halive⟩

theorem foldl {α : Type} {f : Broker → α → Broker}
    (h : ∀ b x, b.Orderly → (f b x).Orderly ∧ Retains b (f b x) p) :
    ∀ (l : List α) (b : Broker), b.Orderly → Retains b (l.foldl f b) p
  | [], b, _ => refl b p
  | x :: l, b, hb => (h b x hb).2.trans (foldl h l (f b x) (h b x hb).1)

end Retains

/-! ### Requests of the parent -/

/-- A session that waits belongs to no provider yet. -/
theorem retains_route (hb : b.Orderly) (id : ServerId) (p : Provider) : Retains b (b.route id) p := by
  by_cases hown : b.Owns p id
  · obtain ⟨s, hs⟩ := hown
    unfold route
    rw [hs]
    dsimp only
    rw [if_neg Bool.noConfusion]
    exact .refl b p
  · exact .of_handles (handles_route hb id) hown

theorem retains_retryWaiting (hb : b.Orderly) (p : Provider) : Retains b b.retryWaiting p :=
  .foldl (fun _ id hb => ⟨(handles_route hb id).orderly hb, retains_route hb id p⟩) _ b hb

/-- Providers come, and the sessions that wait are routed again. -/
theorem retains_provided (hb : b.Orderly) (op : Op) (h : Shift (fun _ => False) op b b') (hretains : Retains b b' p) :
    Retains b b'.retryWaiting p := hretains.trans (retains_retryWaiting (h.orderly hb) p)

theorem retains_create (hb : b.Orderly) (id : ServerId) (service args : String) (affinity : Affinity) (p : Provider) :
    Retains b (b.create id service args affinity).2 p := by
  rcases create_taken b id service args affinity with ⟨-, hsame⟩ | ⟨hlive, taken, rfl, htaken⟩
  · rw [hsame]
    exact .refl b p
  · have herase : Retains b { b with sessions := b.sessions.erase id } p := by
      refine .of_alive (fun h => h) fun j s hs halive => ⟨s, ?_, halive⟩
      have hj : j ≠ id := by
        rintro rfl
        simp [isLive, session?, hs, halive] at hlive
      exact (Table.find?_erase_of_ne _ hj).trans hs
    rcases htaken with ⟨e, -, heq⟩ | ⟨s, hs, heq⟩
    · rw [heq]
      exact herase.trans (.of_sessions rfl fun h => h)
    · rw [heq]
      have habsent : (b.sessions.erase id).find? id = none := Table.find?_erase_self _ _
      have hadmitted : Retains { b with sessions := b.sessions.erase id } { b with
          sessions := (b.sessions.erase id).insert id { session := s.perform (.setServerId id) } } p := by
        refine .of_alive (fun h => h) fun j t ht halive => ⟨t, ?_, halive⟩
        have hj : j ≠ id := by
          rintro rfl
          cases habsent.symm.trans ht
        exact (Table.find?_insert_of_ne _ _ hj).trans ht
      have htaken : Shifts (fun _ => True) .reap b { b with
          sessions := (b.sessions.erase id).insert id { session := s.perform (.setServerId id) } } :=
        (Shifts.single (shift_erase hlive)).trans
          (.single (.admitted trivial habsent (RuntimeConfig.isFresh_newSession hs)))
      exact (herase.trans hadmitted).trans (retains_route (htaken.orderly hb) id p)

/-- A session of a provider that can be withdrawn is live after an upgrade. -/
theorem alive_upgrade (hfound : b.sessions.find? id = some ⟨s, some p⟩) (halive : s.isAlive = true)
    (hp : p.canGo = true) (q : Quota) :
    ∃ s', (b.upgrade id q).2.sessions.find? id = some ⟨s', some p⟩ ∧ s'.isAlive = true := by
  have hopen : s.phase ≠ .closed := by simpa [Session.isAlive] using halive
  have hstored : ∀ {c : Broker} {s' : Session}, c.sessions = b.sessions.modify id (fun t => { t with session := s' }) →
      s'.isAlive = true → ∃ s', c.sessions.find? id = some ⟨s', some p⟩ ∧ s'.isAlive = true := by
    intro c s' hsessions hs'
    refine ⟨s', ?_, hs'⟩
    rw [hsessions, Table.find?_modify_of _ hfound]
  unfold upgrade
  rw [hfound]
  dsimp only
  rw [if_neg hopen]
  split
  · rename_i hready
    have hest := (Bool.and_eq_true_iff.1 hready).1
    have hpending : (s.requestUpgrade q).phase = .upgradeRequested := by rw [s.requestUpgrade_eq hest q]
    unfold initiateUpgrade
    dsimp only
    split
    · exact ⟨s, hfound, halive⟩
    · split
      · exact ⟨s, hfound, halive⟩
      · rename_i o ho
        have hlive := Registry.isAlive_initiate?_upgrade ho hp hpending
        split
        · refine hstored rfl ?_
          unfold Session.revertUpgrade
          split
          · exact halive
          · exact hlive
        · refine hstored (stores_concludeUpgrade _ id p _).sessions ?_
          split
          · exact hlive
          · exact hlive
  · exact ⟨s, hfound, halive⟩

/-! ### Children -/

theorem retains_announce (hb : b.Orderly) (k : ChildKey) (account : AccountId) (p : Provider) :
    Retains b (b.announce k account) p := by
  unfold announce
  split
  · exact .refl b p
  · refine retains_provided hb (.announce k account) (shift_announced b k account) (.of_sessions rfl ?_)
    rintro ⟨u, hu, hgone⟩
    rw [Registry.standing?_announced] at hu
    split at hu
    · obtain rfl := Option.some.inj hu
      cases hgone
    · exact ⟨u, hu, hgone⟩

/-- Only sessions of the service end, and it is forgotten. -/
theorem retains_removeService (hb : b.Orderly) (k : ChildKey) (p : Provider) : Retains b (b.removeService k) p := by
  rintro ⟨u, hu, hgone⟩
  have hstanding : (b.removeService k).providers.standing? p = if p = k.provider then none else
      (b.sessions.keys.foldl (dismiss k) b).providers.standing? p := Registry.standing?_forgotten _ k p
  rw [hstanding] at hu
  split at hu
  · cases hu
  · rename_i hp
    have hdismiss : ∀ b id, b.Orderly → (dismiss k b id).Orderly ∧ Retains b (dismiss k b id) p := by
      intro b id hb
      refine ⟨(handles_dismiss hb k id).orderly hb, ?_⟩
      by_cases hown : b.Owns p id
      · obtain ⟨s, hs⟩ := hown
        unfold dismiss
        rw [hs]
        dsimp only
        rw [if_neg fun h => hp (Option.some.inj h.1)]
        exact .refl b p
      · exact .of_handles (handles_dismiss hb k id) hown
    exact Retains.foldl hdismiss b.sessions.keys b hb ⟨u, hu, hgone⟩

/-! ### Local code -/

theorem retains_answers (hb : b.Orderly) (hp : p.canGo = true) (service : String)
    {callback : Nat → Request → Option Response} {requests : List (ServerId × Request)}
    (hshown : ∀ e ∈ requests, e ∈ b.localRequests service) :
    Retains b (b.applyLocal service (collect callback requests)) p := by
  refine answers_induction (P := fun b b' => Retains b b' p) (fun b => .refl b p) (fun _ _ _ => .trans)
    (fun b id r hb hown _ => .of_handles (handles_applyResponse hb hown r) fun hother => ?_) _ b hb
    fun _ he => owns_of_mem_collect hb hshown he
  obtain ⟨s, hs⟩ := hown
  obtain rfl := hother.eq hs
  cases hp

/-! ### The operations -/

/-- A sweep leaves every provider tidy. -/
theorem tidy_sweep (b : Broker) (p : Provider) : b.sweep.Tidy p := by
  rintro ⟨u, hu, hgone⟩
  have hkept : (b.providers.standing? p).filter (fun t => !t.withdrawn || b.inUse p) = some u :=
    (Registry.standing?_sweep b.providers b.inUse p).symm.trans hu
  have huse : b.inUse p = true := by simpa [hgone] using (Option.filter_eq_some_iff.1 hkept).2
  exact huse

/-- The operations that end the service of withdrawn providers.  An answer of a child does if it is taken. -/
def Op.Sweeps (b : Broker) : Op → Prop
  | .withdraw _ | .applyRouting _ => True
  | .childAnswer k request r => (b.childAnswer k request r).1.isOk = true
  | _ => False

/-- An operation that sweeps leaves every provider tidy. -/
theorem tidy_of_sweeps (hb : b.Orderly) {op : Op} (hop : op.Sweeps b) (p : Provider) : (b.step op).2.Tidy p := by
  cases op with
  | withdraw k => exact tidy_sweep _ p
  | applyRouting rules =>
    have hswept : Shift (fun _ => False) .reap b _ := shift_rerouted b rules fun n => rules.any fun r => r.names n
    exact (retains_retryWaiting (hswept.orderly hb) p).tidy (tidy_sweep _ p)
  | childAnswer k request r =>
    rcases childAnswer_cases b k request r with ⟨hrefused, -⟩ | ⟨-, c, -, heq⟩
    · cases hrefused.symm.trans hop
    · show (b.childAnswer k request r).2.Tidy p
      rw [heq]
      exact tidy_sweep c p
  | _ => exact hop.elim

/-- Any other operation keeps what is tidy, but for a close of a session of the provider. -/
theorem retains_step (hb : b.Orderly) {op : Op} (hop : op.StartsEmpty) (hsweeps : ¬op.Sweeps b) (hp : p.canGo = true)
    (hclose : ∀ id, op = .close id → ¬b.Owns p id) : Retains b (b.step op).2 p := by
  cases op with
  | create id service args affinity => exact retains_create hb id service args affinity p
  | upgrade id q =>
    exact .of_handles_alive (handles_upgrade hb id q) fun s hs halive => alive_upgrade hs halive hp q
  | close id => exact .of_handles (handles_close hb id) (hclose id rfl)
  | childAnswer k request r =>
    rcases childAnswer_cases b k request r with ⟨-, heq⟩ | ⟨htaken, -⟩
    · show Retains b (b.childAnswer k request r).2 p
      rw [heq]
      exact .refl b p
    · exact absurd htaken hsweeps
  | announce k account => exact retains_announce hb k account p
  | withdraw k => exact absurd trivial hsweeps
  | removeChild child =>
    have hone : ∀ b k, b.Orderly → (b.removeService k).Orderly ∧ Retains b (b.removeService k) p := by
      intro b k hb
      have hshifts : Shifts (fun _ => False) .reap b (b.removeService k) := shifts_removeService hb k
      exact ⟨hshifts.orderly hb, retains_removeService hb k p⟩
    exact .foldl hone _ b hb
  | applyRouting rules => exact absurd trivial hsweeps
  | registerLocal service =>
    refine retains_provided hb (.registerLocal service) (shift_registerLocal b service)
      (.of_sessions rfl fun hgone => ?_)
    cases p with
    | here n | later n => cases hp
    | parent n | child c n => exact hgone
  | registerDesk d =>
    refine retains_provided hb (.registerDesk d) (.opened d rfl hop) (.of_sessions rfl fun hgone => ?_)
    cases p with
    | here n | later n => cases hp
    | parent n | child c n => exact hgone
  | answerRequested service callback => exact retains_answers hb hp service fun e he => (List.mem_filter.1 he).1
  | answerUpgraded service applied => exact retains_answers hb hp service fun e he => (List.mem_filter.1 he).1
  | answerClosing service closed => exact retains_answers hb hp service fun e he => (List.mem_filter.1 he).1
  | reap =>
    exact .of_alive (fun h => h) fun id s hs halive => ⟨s, Table.find?_filter_of hs halive, halive⟩

/-! ### Histories -/

/-- Provider `p` was withdrawn, one session was the last that needed it, and the parent closes that session. -/
structure ClosesLast (c : Broker) (id : ServerId) (p : Provider) : Prop where
  gone : c.Gone p
  owns : c.Owns p id
  inUse : c.inUse p = true
  unused : (c.close id).2.inUse p = false

theorem not_tidy_iff : ¬b.Tidy p ↔ b.Gone p ∧ b.inUse p = false := by
  unfold Tidy
  rw [Classical.not_imp, Bool.not_eq_true]

/-- An operation that leaves a provider over is a close. -/
theorem closesLast_of_step (hb : b.Orderly) {op : Op} (hop : op.StartsEmpty) (htidy : b.Tidy p)
    (hleft : ¬(b.step op).2.Tidy p) : ∃ id, op = .close id ∧ b.ClosesLast id p := by
  obtain ⟨hgone, hunused⟩ := not_tidy_iff.1 hleft
  have hclose : ∃ id, op = .close id ∧ b.Owns p id := by
    by_contra hnone
    have hretains := retains_step hb hop (fun h => hleft (tidy_of_sweeps hb h p)) hgone.canGo fun id hid hown =>
      hnone ⟨id, hid, hown⟩
    exact hleft (hretains.tidy htidy)
  obtain ⟨id, rfl, hown⟩ := hclose
  have hstood : b.Gone p := hgone.of_stands (chores_close b id).stands
  exact ⟨id, rfl, hstood, hown, htidy hstood, hunused⟩

variable {allowed : Broker → Op → Prop} {env : Env} {config : RuntimeConfig}

/-- A provider that is left over was left over by a close, and no operation came after it that sweeps. -/
theorem Leads.left (h : Leads allowed (start env config) b) (hleft : ¬b.Tidy p) :
    ∃ c id, Leads allowed (start env config) c ∧ c.ClosesLast id p ∧
      Leads (fun d op => ¬op.Sweeps d) (c.close id).2 b := by
  induction h with
  | refl =>
    obtain ⟨⟨u, hu, -⟩, -⟩ := not_tidy_iff.1 hleft
    cases p <;> cases hu
  | @op d op hreach hop _ ih =>
    have hd := hreach.orderly (orderly_start env config)
    by_cases htidy : d.Tidy p
    · obtain ⟨id, rfl, hlast⟩ := closesLast_of_step hd hop htidy hleft
      exact ⟨d, id, hreach, hlast, .refl⟩
    · obtain ⟨c, id, hc, hlast, hrest⟩ := ih htidy
      exact ⟨c, id, hc, hlast, .op op hrest hop fun h => hleft (tidy_of_sweeps hd h p)⟩
  | around env _ ih =>
    obtain ⟨c, id, hc, hlast, hrest⟩ := ih hleft
    exact ⟨c, id, hc, hlast, .around env hrest⟩

/-- In every state that is reached: withdrawing a service, new rules and a taken answer of a child leave no withdrawn
provider without a live session.  If a provider is withdrawn and no live session needs it, then a close of the parent
ended its last session, and none of these came after it. -/
theorem leftovers_of_close (h : Leads (fun _ _ => True) (start env config) b) (p : Provider) :
    (∀ op : Op, op.Sweeps b → (b.step op).2.Tidy p) ∧
      (¬b.Tidy p → ∃ c id, Leads (fun _ _ => True) (start env config) c ∧ c.ClosesLast id p ∧
        Leads (fun d op => ¬op.Sweeps d) (c.close id).2 b) :=
  ⟨fun _ hop => tidy_of_sweeps (h.orderly (orderly_start env config)) hop p, h.left⟩

/-- The child refuses a session and withdraws its service, and then the parent closes the session. -/
def closedLast : Broker :=
  requestedOnce.run [.childAnswer ⟨"fs", "log"⟩ ⟨0⟩ .denied, .withdraw ⟨"fs", "log"⟩, .close ⟨1⟩]

theorem leads_closedLast : Leads (fun _ _ => True) (start sampleEnv sampleConfig) closedLast :=
  leads_run _ (.op (.create ⟨1⟩ "log" "ram_quota=5" {})
    (leads_run [.announce ⟨"fs", "log"⟩ 1] .refl (by simp [Op.StartsEmpty])) trivial trivial)
    (by simp [Op.StartsEmpty])

theorem not_tidy_closedLast : ¬closedLast.Tidy (.child "fs" "log") := by
  have hstanding : closedLast.providers.standing? (.child "fs" "log") =
      some { withdrawn := true, bell := some "fs/log" } := by decide +kernel
  exact not_tidy_iff.2 ⟨⟨_, hstanding, rfl⟩, by decide +kernel⟩

/-- The close left the service over. -/
theorem leftover_closedLast : ∃ c id, Leads (fun _ _ => True) (start sampleEnv sampleConfig) c ∧
    c.ClosesLast id (.child "fs" "log") ∧ Leads (fun d op => ¬op.Sweeps d) (c.close id).2 closedLast :=
  (leftovers_of_close leads_closedLast (.child "fs" "log")).2 not_tidy_closedLast

/-- Not every provider that was withdrawn is needed by a live session. -/
theorem exists_leftover : ¬∀ b, Leads (fun _ _ => True) (start sampleEnv sampleConfig) b → ∀ p, b.Gone p →
    ∃ id s, b.sessions.find? id = some ⟨s, some p⟩ ∧ s.isAlive = true := fun h =>
  not_tidy_closedLast fun hgone => inUse_iff.2 (h closedLast leads_closedLast _ hgone)

end Broker

end SessionBroker
