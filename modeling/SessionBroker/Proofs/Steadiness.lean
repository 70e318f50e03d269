import SessionBroker.Proofs.Histories

/-!
# SessionBroker.Proofs.Steadiness — what leaves a session of a child as it is

* `Phase.isRunning`: the session waits for its create, or it is established.
* `Broker.Done b id`: no session runs under the id.
* `Broker.Spares b b' k id`: a running session of service `k` stands as it stood, or it runs no longer.
* `Op.Concerns id`: the operations by which the parent upgrades session `id`, or a child answers.
* `spares_step`: all other operations spare the session, unless they open the id again.
-/

namespace SessionBroker

/-- Whether a session waits for its create or is established. -/
def Phase.isRunning : Phase → Bool
  | .createRequested | .available | .capHandedOut | .upgradeRequested => true
  | _ => false

theorem Phase.isRunning_of_isEstablished {p : Phase} (h : p.isEstablished = true) : p.isRunning = true := by
  cases p <;> first | rfl | cases h

theorem Phase.not_isRunning_of_isEnded {p : Phase} (h : p.isEnded = true) : p.isRunning = false := by
  cases p <;> first | rfl | cases h

theorem Session.isAlive_of_isRunning {s : Session} (h : s.phase.isRunning = true) : s.isAlive = true := by
  refine isAlive_of_ne_closed fun hclosed => ?_
  rw [hclosed] at h
  cases h

/-- A session that runs no longer never runs again. -/
theorem Transition.not_isRunning {t t' : Slot} {m : Payment} {ns : List Notice} (h : Transition t m ns t')
    (hdone : t.session.phase.isRunning = false) : t'.session.phase.isRunning = false := by
  have hcreate : ∀ {s : Session}, s.phase.isRunning = false → s.phase ≠ .createRequested := by
    intro s hs hphase
    rw [hphase] at hs
    cases hs
  have hestablished : ∀ {s : Session}, s.phase.isRunning = false → s.phase.isEstablished = true → False := by
    intro s hs hest
    rw [Phase.isRunning_of_isEstablished hest] at hs
    cases hs
  cases h with
  | refused hphase | granted hphase | posted hphase | delivered hphase | denied hphase =>
    exact absurd hphase (hcreate hdone)
  | upgrading hest | upgraded hest => exact (hestablished hdone hest).elim
  | closing | stuck | closed => rfl

namespace Broker

variable {b b' b'' : Broker} {k : ChildKey} {id j : ServerId}

/-- No session runs under the id. -/
def Done (b : Broker) (id : ServerId) : Prop :=
  ∀ t, b.sessions.find? id = some t → t.session.phase.isRunning = false

/-- What runs no longer does not run again, unless its id is taken again. -/
theorem Change.done {new : ServerId → Prop} (h : Change new b b') (hid : ¬new id) (hdone : b.Done id) : b'.Done id :=
  fun _ hfound => h.slot (P := fun t => t.session.phase.isRunning = false)
    (fun _ _ _ _ htransition => htransition.not_isRunning) (fun hnew => absurd hnew hid) hdone hfound

theorem Changes.done {new : ServerId → Prop} (h : Changes new b b') (hid : ¬new id) (hdone : b.Done id) :
    b'.Done id := by
  induction h with
  | refl => exact hdone
  | tail _ hchange ih => exact hchange.done hid ih

/-- A running session of service `k` stands as it stood, or it runs no longer.  Its id was not taken again. -/
structure Spares (b b' : Broker) (k : ChildKey) (id : ServerId) : Prop where
  changes : Changes (fun j => j ≠ id) b b'
  stands : ∀ t, b.sessions.find? id = some t → t.provider = some k.provider → t.session.phase.isRunning = true →
    b'.sessions.find? id = some t ∨ b'.Done id

namespace Spares

theorem refl (b : Broker) : Spares b b k id := ⟨.refl b, fun _ ht _ _ => .inl ht⟩

theorem of_find? (changes : Changes (fun j => j ≠ id) b b')
    (same : b'.sessions.find? id = b.sessions.find? id) : Spares b b' k id :=
  ⟨changes, fun _ ht _ _ => .inl (same.trans ht)⟩

theorem trans (h : Spares b b' k id) (h' : Spares b' b'' k id) : Spares b b'' k id where
  changes := h.changes.trans h'.changes
  stands t ht hp hrun := by
    rcases h.stands t ht hp hrun with ht' | hdone
    · exact h'.stands t ht' hp hrun
    · exact .inr (h'.changes.done (fun hne => hne rfl) hdone)

theorem sound (h : Spares b b' k id) (hb : b.Sound) : b'.Sound := h.changes.sound hb

/-- Steps one after the other, each of which spares the session. -/
theorem foldl {α : Type} {f : Broker → α → Broker} (h : ∀ b x, b.Sound → Spares b (f b x) k id) :
    ∀ (l : List α) (b : Broker), b.Sound → Spares b (l.foldl f b) k id
  | [], b, _ => .refl b
  | x :: l, b, hb => (h b x hb).trans (foldl h l (f b x) ((h b x hb).sound hb))

/-- What happens to another session spares this one. -/
theorem of_affects (hj : j ≠ id) (h : b' = b ∨ Affects b b' j) : Spares b b' k id := by
  refine .of_find? (.of_affects h) ?_
  rcases h with rfl | ⟨t, t', m, ns, heffect⟩
  · rfl
  · exact heffect.find?_of_ne hj.symm

theorem of_rearranged (h : Rearranged b b') : Spares b b' k id :=
  .of_find? (.single (.providers h)) (by rw [h.sessions])

theorem of_endings (hb : b.Sound) (h : Endings b b') : Spares b b' k id where
  changes := h.changes
  stands t ht _ _ := by
    obtain ⟨ids, hids⟩ := h.ended hb
    by_cases hid : id ∈ ids
    · obtain ⟨u, hu, hended⟩ := (hids.ended id hid).2
      refine .inr fun v hv => ?_
      obtain rfl := Option.some.inj (hu.symm.trans hv)
      exact Phase.not_isRunning_of_isEnded hended
    · rw [hids.others id hid]
      exact .inl ht

end Spares

/-! ### The operations -/

/-- A session that was routed is not routed again. -/
theorem spares_route (hb : b.Sound) (j : ServerId) : Spares b (b.route j) k id := by
  by_cases hj : j = id
  · subst hj
    refine ⟨changes_route hb j, fun t ht hp _ => .inl ?_⟩
    have hrouted : t.isWaiting = false := by
      unfold Slot.isWaiting
      rw [hp]
      rfl
    have hsame : b.route j = b := by
      unfold route
      rw [ht]
      simp only [hrouted, Bool.false_eq_true, if_false]
    rw [hsame]
    exact ht
  · exact .of_affects hj (route_cases hb j)

theorem spares_retryWaiting (hb : b.Sound) : Spares b b.retryWaiting k id :=
  .foldl (fun _ j hb => spares_route hb j) _ b hb

theorem spares_rearranged (hb : b.Sound) (h : Rearranged b b') : Spares b b'.retryWaiting k id :=
  (Spares.of_rearranged h).trans (spares_retryWaiting (h.sound hb))

/-- Local code answers sessions of this component only. -/
theorem spares_answers (hb : b.Sound) (service : String) {callback : Nat → Request → Option Response}
    {requests : List (ServerId × Request)} (hshown : ∀ e ∈ requests, e ∈ b.localRequests service) :
    Spares b (b.applyLocal service (collect callback requests)) k id := by
  refine applyLocal_induction (P := fun b c => Spares b c k id) .refl (fun _ _ _ => .trans)
    (fun b j r hb hserves => ?_) _ b hb fun _ he => serves_of_mem_collect hb hshown he
  have hcases := applyResponse_cases hb hserves r
  by_cases hj : j = id
  · subst hj
    refine ⟨.of_affects hcases, fun t ht hp _ => ?_⟩
    cases hp.symm.trans (hserves t ht).1
  · exact .of_affects hj hcases

theorem spares_create (hb : b.Sound) (service args : String) (affinity : Affinity)
    (hopens : ¬(Op.create j service args affinity).Opens b id) :
    Spares b (b.create j service args affinity).2 k id := by
  rcases create_cases b j service args affinity with hsame | ⟨hlive, c, htaken, hothers, hrouted⟩
  · rw [hsame]
    exact .refl b
  · have hj : j ≠ id := by
      rintro rfl
      exact hopens ⟨rfl, hlive⟩
    have htaken : Changes (fun i => i ≠ id) b c := htaken.mono fun i hi => by rw [hi]; exact hj
    have hspares : Spares b c k id := .of_find? htaken (hothers id hj.symm)
    rcases hrouted with hrouted | hrouted
    · rw [hrouted]
      exact hspares
    · rw [hrouted]
      exact hspares.trans (spares_route (hspares.sound hb) j)

/-- A close ends a session, or it is to be ended. -/
theorem spares_close (hb : b.Sound) : Spares b (b.close j).2 k id := by
  by_cases hj : j = id
  · subst hj
    refine ⟨.of_affects (close_cases hb j), fun t ht _ hrun => .inr ?_⟩
    have hclosed : t.session.phase ≠ .closed := fun hphase => by rw [hphase] at hrun; cases hrun
    have hclosing : t.session.phase ≠ .closeRequested := fun hphase => by rw [hphase] at hrun; cases hrun
    obtain ⟨-, t', m, ns, heffect, hphase⟩ := close_effect hb ht hclosed hclosing
    intro u hu
    obtain rfl := Option.some.inj (heffect.find?_self.symm.trans hu)
    rcases hphase with hphase | hphase
    · rw [hphase]
      rfl
    · rw [hphase]
      rfl
  · exact .of_affects hj (close_cases hb j)

/-- A session that runs is not reaped. -/
theorem spares_reap : Spares b b.reap.2 k id where
  changes := .single (.forgotten (fun _ t => t.session.isAlive) fun _ _ _ h => h)
  stands _ ht _ hrun := .inl (Table.find?_filter_of ht (Session.isAlive_of_isRunning hrun))

/-- The operations by which the parent upgrades session `id`, or a child answers. -/
def Op.Concerns (id : ServerId) : Op → Prop
  | .upgrade i _ => i = id
  | .childAnswer _ _ _ => True
  | _ => False

/-- A running session of a child stands as it stood, or it runs no longer, unless it is upgraded or its child
answers. -/
theorem spares_step (hb : b.Sound) {op : Op} (hop : op.IsBuiltIn) (hopens : ¬op.Opens b id)
    (hconcerns : ¬op.Concerns id) : Spares b (b.step op).2 k id := by
  cases op with
  | create i service args affinity => exact spares_create hb service args affinity hopens
  | upgrade i q => exact .of_affects hconcerns (upgrade_cases hb i q)
  | close i => exact spares_close hb
  | childAnswer k request r => exact (hconcerns trivial).elim
  | announce k' account =>
    show Spares b (b.announce k' account) k id
    unfold announce
    split
    · exact .refl b
    · rename_i hfree
      exact spares_rearranged hb (rearranged_announce hb (by simpa using hfree) account)
  | withdraw k' =>
    have hone := rearranged_withdraw hb k'
    exact (Spares.of_rearranged hone).trans (.of_rearranged (rearranged_sweep (hone.sound hb)))
  | removeChild child => exact .of_endings hb (endings_removeChild hb child)
  | applyRouting rules =>
    have hone := rearranged_abandonParents hb rules fun n => rules.any fun r => r.names n
    exact (Spares.of_rearranged hone).trans (spares_rearranged (hone.sound hb) (rearranged_sweep (hone.sound hb)))
  | registerLocal service =>
    obtain ⟨l, rfl⟩ := hop
    exact spares_rearranged hb (.of_alike rfl rfl rfl (.insert_local hb.builtIn _ l))
  | registerDesk d => exact spares_rearranged hb (rearranged_registerDesk hb hop)
  | answerRequested service callback => exact spares_answers hb service fun e he => (List.mem_filter.1 he).1
  | answerUpgraded service applied => exact spares_answers hb service fun e he => (List.mem_filter.1 he).1
  | answerClosing service closed => exact spares_answers hb service fun e he => (List.mem_filter.1 he).1
  | reap => exact spares_reap

end Broker

end SessionBroker
