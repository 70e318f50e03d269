import SessionBroker.Proofs.Histories

/-!
# SessionBroker.Proofs.Thinning — a broker without some of its closed sessions

What a broker does, it does in the same way without sessions that are closed: it finds the other sessions under their
ids, it lists what it lists for them, and closed sessions take no part in anything.

* `Broker.thin b keep`: the broker with the sessions that are kept.
* `Broker.KeepsLive b keep`: only closed sessions go.
* `route_thin`, `upgrade_thin`, `close_thin`, `applyResponse_thin`, `dismiss_thin`: whatever is done to one session may
  be done before or after.
* `retryWaiting_thin`, `sweep_thin`, `removeService_thin`, `applyLocal_thin`: and so may what is done to many.
* `childRequests_thin`, `localRequests_thin`, `requestsFor_thin`: providers are asked for the same.
* `step_thin`: so every operation may be done before or after.
-/

namespace SessionBroker.Broker

variable {b b' : Broker} {keep : ServerId → Bool} {id : ServerId}

/-- The broker with the sessions that are kept. -/
def thin (b : Broker) (keep : ServerId → Bool) : Broker :=
  { b with sessions := b.sessions.filter fun id _ => keep id }

/-- A result, and the broker with the sessions that are kept. -/
def thinned (r : Except Error Unit × Broker) (keep : ServerId → Bool) : Except Error Unit × Broker :=
  (r.1, r.2.thin keep)

/-- The sessions that are not kept are closed. -/
def KeepsLive (b : Broker) (keep : ServerId → Bool) : Prop := ∀ id, keep id = false → b.isLive id = false

@[simp] theorem thin_env (b : Broker) (keep : ServerId → Bool) : (b.thin keep).env = b.env := rfl

@[simp] theorem thin_config (b : Broker) (keep : ServerId → Bool) : (b.thin keep).config = b.config := rfl

@[simp] theorem thin_rules (b : Broker) (keep : ServerId → Bool) : (b.thin keep).rules = b.rules := rfl

@[simp] theorem thin_providers (b : Broker) (keep : ServerId → Bool) : (b.thin keep).providers = b.providers := rfl

/-- Nothing happens to a broker if all sessions are kept. -/
theorem thin_all (b : Broker) : b.thin (fun _ => true) = b := by
  have hsessions : b.sessions.filter (fun _ _ => true) = b.sessions :=
    Table.ext_find? fun id => Table.find?_filter_keys b.sessions (fun _ => true) id
  unfold thin
  rw [hsessions]

theorem find?_thin (b : Broker) (keep : ServerId → Bool) (id : ServerId) :
    (b.thin keep).sessions.find? id = if keep id then b.sessions.find? id else none :=
  Table.find?_filter_keys b.sessions keep id

theorem find?_thin_of (hid : keep id = true) : (b.thin keep).sessions.find? id = b.sessions.find? id := by
  rw [find?_thin, if_pos hid]

theorem find?_thin_of_not (hid : keep id = false) : (b.thin keep).sessions.find? id = none := by
  rw [find?_thin, hid]
  rfl

namespace KeepsLive

variable (h : b.KeepsLive keep)

include h

theorem not_alive {t : Slot} (hid : keep id = false) (ht : b.sessions.find? id = some t) :
    t.session.isAlive = false := not_alive_of_isLive (h id hid) ht

theorem phase_eq {t : Slot} (hid : keep id = false) (ht : b.sessions.find? id = some t) :
    t.session.phase = .closed := by
  have halive := h.not_alive hid ht
  simpa [Session.isAlive] using halive

/-- A session that is not closed is kept. -/
theorem keeps {t : Slot} (ht : b.sessions.find? id = some t) (halive : t.session.isAlive = true) : keep id = true := by
  cases hid : keep id with
  | true => rfl
  | false => cases halive.symm.trans (h.not_alive hid ht)

/-- Sessions that are posted at their provider are kept. -/
theorem of_posted (hb : b.Sound) {p : Provider} {i : ClientId} (hi : b.providers.request? p i = some id) :
    keep id = true := by
  obtain ⟨t, ht, -, hdown⟩ := hb.posted p i id hi
  exact h.keeps ht ((hb.slots id t ht).isAlive_of_downstream hdown)

/-- Closed sessions stay closed, and sessions start only under ids that are kept. -/
theorem of_changes {new : ServerId → Prop} (hchanges : Changes new b b') (hnew : ∀ id, new id → keep id = true) :
    b'.KeepsLive keep := by
  intro id hid
  have hold : ¬new id := fun hid' => by cases hid.symm.trans (hnew id hid')
  cases hlive : b'.isLive id with
  | false => rfl
  | true => cases (h id hid).symm.trans (hchanges.isLive hold hlive)

theorem isLive_thin (id : ServerId) : (b.thin keep).isLive id = b.isLive id := by
  cases hid : keep id with
  | true =>
    unfold isLive session?
    rw [find?_thin_of hid]
  | false =>
    rw [h id hid]
    unfold isLive session?
    rw [find?_thin_of_not hid]
    rfl

end KeepsLive

/-! ### What providers are asked -/

theorem requestsAt_thin (h : b.KeepsLive keep) (service : String) (d : Desk) :
    (b.thin keep).requestsAt service d = b.requestsAt service d := by
  refine List.filterMap_congr fun e _ => ?_
  unfold session?
  cases hid : keep e.2 with
  | true => rw [find?_thin_of hid]
  | false =>
    rw [find?_thin_of_not hid]
    cases ht : b.sessions.find? e.2 with
    | none => rfl
    | some t =>
      have hnothing : t.session.requestKind? = none := by simp [Session.requestKind?, h.phase_eq hid ht]
      simp [hnothing]

theorem childRequests_thin (h : b.KeepsLive keep) (child : String) :
    (b.thin keep).childRequests child = b.childRequests child := by
  unfold childRequests
  simp only [thin_providers, requestsAt_thin h]

theorem localRequests_thin (h : b.KeepsLive keep) (service : String) :
    (b.thin keep).localRequests service = b.localRequests service := by
  unfold localRequests
  simp only [thin_providers, requestsAt_thin h]

theorem requestsFor_thin (h : b.KeepsLive keep) (p : Provider) :
    (b.thin keep).requestsFor p = b.requestsFor p := by
  cases p with
  | later n => exact localRequests_thin h n
  | child c n =>
    unfold requestsFor
    simp only [thin_providers, requestsAt_thin h]
  | here n | parent n => rfl

/-! ### Storing sessions -/

/-- Nothing was done to the sessions that are not kept. -/
theorem KeepsLive.congr (h : b.KeepsLive keep)
    (hsame : ∀ j, keep j = false → b'.sessions.find? j = b.sessions.find? j) : b'.KeepsLive keep := by
  intro j hj
  unfold isLive session?
  rw [hsame j hj]
  exact h j hj

theorem KeepsLive.modify (h : b.KeepsLive keep) (hid : keep id = true) (f : Slot → Slot)
    (hsessions : b'.sessions = b.sessions.modify id f) : b'.KeepsLive keep := by
  refine h.congr fun j hj => ?_
  have hne : j ≠ id := fun heq => by cases hj.symm.trans (heq ▸ hid)
  rw [hsessions, Table.find?_modify_of_ne _ _ hne]

theorem modify_thin (b : Broker) (keep : ServerId → Bool) (id : ServerId) (f : Slot → Slot) :
    (b.thin keep).sessions.modify id f = (b.sessions.modify id f).filter fun id _ => keep id :=
  Table.modify_filter_keys b.sessions keep id f

theorem setSession_thin (b : Broker) (keep : ServerId → Bool) (id : ServerId) (s : Session) :
    (b.thin keep).setSession id s = (b.setSession id s).thin keep := by
  unfold setSession
  rw [modify_thin]
  rfl

theorem refund_thin (b : Broker) (keep : ServerId → Bool) (payer : AccountRef) (id : ServerId) (s : Session) :
    (b.thin keep).refund payer id s = (b.refund payer id s).thin keep :=
  setSession_thin (b.takeBack payer s.donated) keep id _

theorem release_thin (b : Broker) (keep : ServerId → Bool) (p : Provider) (s : Session) :
    (b.thin keep).release p s = (b.release p s).thin keep := by
  unfold release
  split <;> rfl

theorem refuse_thin (b : Broker) (keep : ServerId → Bool) (id : ServerId) (s : Session) (next : Phase) :
    (b.thin keep).refuse id s next = (b.refuse id s next).thin keep := by
  unfold refuse
  rw [setSession_thin]
  dsimp only
  split <;> rfl

/-- A provider that is woken finds the same requests posted. -/
theorem wakeIfAsync_thin (h : b.KeepsLive keep) (p : Provider) :
    (b.thin keep).wakeIfAsync p = (b.wakeIfAsync p).thin keep := by
  unfold wakeIfAsync
  rw [thin_providers, requestsFor_thin h]
  split <;> rfl

/-- A session is stored, and then its provider is woken. -/
theorem wakeIfAsync_setSession_thin (h : b.KeepsLive keep) (hid : keep id = true) (s : Session) (p : Provider) :
    ((b.thin keep).setSession id s).wakeIfAsync p = ((b.setSession id s).wakeIfAsync p).thin keep := by
  rw [setSession_thin]
  exact wakeIfAsync_thin (h.modify hid (fun t => { t with session := s }) rfl) p

theorem donate_thin (b : Broker) (keep : ServerId → Bool) (payee : AccountRef) (q : Quota) :
    (b.thin keep).donate payee q = (b.donate payee q).map (·.thin keep) := by
  unfold donate ownAccount
  rw [thin_env]
  split <;> rfl

/-! ### What is done to one session

A session that is not kept is closed, so nothing is done to it. -/

theorem handOut_thin (b : Broker) (keep : ServerId → Bool) (id : ServerId) (s : Session) :
    (b.thin keep).handOut id s = (b.handOut id s).thin keep := by
  unfold handOut
  split
  · rename_i cap _
    exact setSession_thin { b with env := b.env.deliver id cap } keep id _
  · exact setSession_thin b keep id s

theorem concludeCreate_thin (h : b.KeepsLive keep) (hid : keep id = true) (p : Provider) (s : Session)
    (error : Option SessionError) :
    (b.thin keep).concludeCreate id p s error = (b.concludeCreate id p s error).thin keep := by
  unfold concludeCreate
  split
  · exact handOut_thin b keep id s
  · exact wakeIfAsync_setSession_thin h hid s p
  · exact refuse_thin b keep id s _
  · rw [setSession_thin]
    rfl
  · exact refuse_thin b keep id s _

theorem initiateCreate_thin (h : b.KeepsLive keep) (hid : keep id = true) (p : Provider) (s : Session) :
    (b.thin keep).initiateCreate id p s = (b.initiateCreate id p s).thin keep := by
  unfold initiateCreate
  dsimp only
  rw [donate_thin, thin_providers]
  cases b.donate (b.providers.account p) s.resources with
  | error e => exact refuse_thin b keep id s _
  | ok paid =>
    simp only [Except.map, thin_env]
    cases b.providers.initiate? s paid.env p with
    | none => exact refuse_thin b keep id s _
    | some o =>
      dsimp only
      split
      · exact concludeCreate_thin (b := { b with env := o.env, providers := o.service }) h hid p _ _
      · exact concludeCreate_thin (b := takeBack { b with env := o.env, providers := o.service } _ _) h hid p _ _

theorem routeSession_thin (h : b.KeepsLive keep) (hid : keep id = true) (s : Session) :
    (b.thin keep).routeSession id s = (b.routeSession id s).thin keep := by
  unfold routeSession
  rw [thin_rules, thin_providers, thin_config]
  split
  · exact refuse_thin b keep id s _
  · split
    · rfl
    · exact refuse_thin b keep id s _
    · dsimp only
      rw [modify_thin]
      exact initiateCreate_thin (b := { b with providers := _, sessions := b.sessions.modify id fun _ => _ })
        (h.modify hid _ rfl) hid _ _

theorem route_thin (h : b.KeepsLive keep) (id : ServerId) : (b.thin keep).route id = (b.route id).thin keep := by
  unfold route
  cases hid : keep id with
  | true =>
    rw [find?_thin_of hid]
    split
    · split
      · exact routeSession_thin h hid _
      · rfl
    · rfl
  | false =>
    rw [find?_thin_of_not hid]
    cases ht : b.sessions.find? id with
    | none => rfl
    | some t =>
      have hidle : t.isWaiting = false := by simp [Slot.isWaiting, h.phase_eq hid ht]
      simp [hidle]

theorem concludeUpgrade_thin (h : b.KeepsLive keep) (hid : keep id = true) (p : Provider) (s : Session) :
    (b.thin keep).concludeUpgrade id p s = (b.concludeUpgrade id p s).thin keep := by
  unfold concludeUpgrade
  dsimp only
  split
  · rw [setSession_thin]
    rfl
  · exact wakeIfAsync_setSession_thin h hid s p
  · exact setSession_thin b keep id s

theorem initiateUpgrade_thin (h : b.KeepsLive keep) (hid : keep id = true) (p : Provider) (s : Session) (q : Quota) :
    (b.thin keep).initiateUpgrade id p s q = thinned (b.initiateUpgrade id p s q) keep := by
  unfold initiateUpgrade
  dsimp only
  rw [donate_thin, thin_providers]
  cases b.donate (b.providers.account p) q with
  | error e => rfl
  | ok paid =>
    simp only [Except.map, thin_env]
    cases b.providers.initiate? (s.requestUpgrade q) paid.env p with
    | none => rfl
    | some o =>
      dsimp only
      split
      · refine congrArg (Prod.mk _) ?_
        exact congrArg (takeBack · _ q) (setSession_thin { b with env := o.env, providers := o.service } keep id _)
      · refine congrArg (Prod.mk _) ?_
        exact concludeUpgrade_thin (b := { b with env := o.env, providers := o.service }) h hid p _

theorem upgrade_thin (h : b.KeepsLive keep) (hid : keep id = true) (q : Quota) :
    (b.thin keep).upgrade id q = thinned (b.upgrade id q) keep := by
  unfold upgrade
  rw [find?_thin_of hid, thin_providers]
  split
  · rfl
  · dsimp only
    split
    · rfl
    · split
      · split
        · exact initiateUpgrade_thin h hid _ _ q
        · rfl
      · rfl

theorem upgrade_missing (hnone : b.sessions.find? id = none) (q : Quota) :
    b.upgrade id q = (.error (.protocol (.unknownSession id.num)), b) := by
  unfold upgrade
  rw [hnone]

theorem upgrade_closed {t : Slot} (ht : b.sessions.find? id = some t) (hclosed : t.session.phase = .closed)
    (q : Quota) : b.upgrade id q = (.error (.protocol (.sessionClosed id.num)), b) := by
  unfold upgrade
  rw [ht]
  exact if_pos hclosed

/-- An upgrade of a session that is not kept changes nothing. -/
theorem snd_upgrade_thin (h : b.KeepsLive keep) (id : ServerId) (q : Quota) :
    ((b.thin keep).upgrade id q).2 = (b.upgrade id q).2.thin keep := by
  cases hid : keep id with
  | true => exact congrArg Prod.snd (upgrade_thin h hid q)
  | false =>
    rw [upgrade_missing (find?_thin_of_not hid) q]
    cases ht : b.sessions.find? id with
    | none => rw [upgrade_missing ht q]
    | some t => rw [upgrade_closed ht (h.phase_eq hid ht) q]

theorem concludeClose_thin (b : Broker) (keep : ServerId → Bool) (id : ServerId) (payer : AccountRef) (s : Session) :
    (b.thin keep).concludeClose id payer s = (b.concludeClose id payer s).thin keep := by
  unfold concludeClose
  split
  · rw [refund_thin]
    rfl
  · exact setSession_thin b keep id s

theorem initiateClose_thin (h : b.KeepsLive keep) (hid : keep id = true) (p : Provider) (s : Session) :
    (b.thin keep).initiateClose id p s = (b.initiateClose id p s).thin keep := by
  unfold initiateClose
  dsimp only
  rw [thin_providers, thin_env]
  cases b.providers.initiate? s b.env p with
  | none => exact concludeClose_thin b keep id _ _
  | some o =>
    dsimp only
    split
    · exact wakeIfAsync_setSession_thin (b := { b with env := o.env, providers := o.service }) h hid _ p
    · exact concludeClose_thin { b with env := o.env, providers := o.service } keep id _ _

theorem close_thin (h : b.KeepsLive keep) (hid : keep id = true) :
    (b.thin keep).close id = thinned (b.close id) keep := by
  unfold close
  rw [find?_thin_of hid]
  split
  · rfl
  · split
    · rfl
    · dsimp only
      split
      · rw [setSession_thin]
        rfl
      · exact congrArg (Prod.mk _) (initiateClose_thin h hid _ _)

theorem close_missing (hnone : b.sessions.find? id = none) :
    b.close id = (.error (.protocol (.unknownSession id.num)), b) := by
  unfold close
  rw [hnone]

theorem close_closed {t : Slot} (ht : b.sessions.find? id = some t) (hclosed : t.session.phase = .closed) :
    b.close id = (.ok (), b) := by
  unfold close
  rw [ht]
  exact if_pos (.inl hclosed)

/-- Closing a session that is not kept changes nothing. -/
theorem snd_close_thin (h : b.KeepsLive keep) (id : ServerId) :
    ((b.thin keep).close id).2 = (b.close id).2.thin keep := by
  cases hid : keep id with
  | true => exact congrArg Prod.snd (close_thin h hid)
  | false =>
    rw [close_missing (find?_thin_of_not hid)]
    cases ht : b.sessions.find? id with
    | none => rw [close_missing ht]
    | some t => rw [close_closed ht (h.phase_eq hid ht)]

theorem finish_thin (b : Broker) (keep : ServerId → Bool) (p : Provider) (id : ServerId) (s : Session) (next : Phase)
    (a : Answer) : (b.thin keep).finish p id s next a = (b.finish p id s next a).thin keep := by
  unfold finish
  rw [release_thin, refund_thin]
  rfl

theorem settle_thin (b : Broker) (keep : ServerId → Bool) (p : Provider) (id : ServerId) (s : Session) (r : Response) :
    (b.thin keep).settle p id s r = (b.settle p id s r).map (·.thin keep) := by
  unfold settle
  dsimp only
  split
  · exact congrArg some (finish_thin b keep p id _ _ _)
  · cases r with
    | deliver cap =>
      dsimp only
      split
      · exact congrArg some (handOut_thin b keep id _)
      · rfl
    | denied | insufficientRam | insufficientCaps | closed =>
      dsimp only
      split
      · exact congrArg some (finish_thin b keep p id _ _ _)
      · rfl
    | upgradeDone =>
      dsimp only
      split
      · rw [setSession_thin]
        rfl
      · rfl

theorem settle_over (b : Broker) (p : Provider) (id : ServerId) {s : Session} (hclosed : s.phase = .closed)
    (r : Response) : b.settle p id s r = none := by
  unfold settle
  cases r <;> simp [Session.isAlive, hclosed]

theorem applyResponse_thin (hid : keep id = true) (p : Provider) (r : Response) :
    (b.thin keep).applyResponse p id r = thinned (b.applyResponse p id r) keep := by
  unfold applyResponse session?
  rw [find?_thin_of hid]
  split
  · rfl
  · rename_i s _
    rw [settle_thin]
    cases b.settle p id s r <;> rfl

/-- An answer to a session that is not kept changes nothing. -/
theorem snd_applyResponse_thin (h : b.KeepsLive keep) (p : Provider) (id : ServerId) (r : Response) :
    ((b.thin keep).applyResponse p id r).2 = (b.applyResponse p id r).2.thin keep := by
  cases hid : keep id with
  | true => exact congrArg Prod.snd (applyResponse_thin hid p r)
  | false =>
    unfold applyResponse session?
    rw [find?_thin_of_not hid]
    cases ht : b.sessions.find? id with
    | none => rfl
    | some t =>
      simp only [Option.map_some, settle_over b p id (h.phase_eq hid ht) r]
      rfl

theorem dismiss_thin (h : b.KeepsLive keep) (k : ChildKey) (id : ServerId) :
    (b.thin keep).dismiss k id = (b.dismiss k id).thin keep := by
  unfold dismiss
  cases hid : keep id with
  | true =>
    rw [find?_thin_of hid]
    split
    · rfl
    · dsimp only
      split
      · split
        · exact finish_thin b keep k.provider id _ _ _
        · exact finish_thin b keep k.provider id _ _ _
      · rfl
  | false =>
    rw [find?_thin_of_not hid]
    cases ht : b.sessions.find? id with
    | none => rfl
    | some t => simp [h.not_alive hid ht]

/-! ### What is done to many sessions -/

/-- Steps one after the other, each of which may be done before or after. -/
theorem foldl_thin {α : Type} {f : Broker → α → Broker}
    (hchanges : ∀ b x, b.Sound → Changes (fun _ => False) b (f b x))
    (hone : ∀ b x, b.Sound → b.KeepsLive keep → f (b.thin keep) x = (f b x).thin keep) (l : List α) (hb : b.Sound)
    (h : b.KeepsLive keep) : l.foldl f (b.thin keep) = (l.foldl f b).thin keep := by
  induction l generalizing b with
  | nil => rfl
  | cons x l ih =>
    have hx := hchanges b x hb
    rw [List.foldl_cons, List.foldl_cons, hone b x hb h]
    exact ih (hx.sound hb) (h.of_changes hx fun _ hid => hid.elim)

/-- The sessions that wait are kept. -/
theorem retryWaiting_thin (hb : b.Sound) (h : b.KeepsLive keep) :
    (b.thin keep).retryWaiting = b.retryWaiting.thin keep := by
  have hsame : (b.thin keep).sessions.filter (fun _ t => t.isWaiting) = b.sessions.filter fun _ t => t.isWaiting :=
    Table.filter_filter_keys b.sessions fun id t ht hid => by simp [Slot.isWaiting, h.phase_eq hid ht]
  unfold retryWaiting
  rw [hsame]
  exact foldl_thin (fun _ id hb => changes_route hb id) (fun _ id _ h => route_thin h id) _ hb h

theorem inUse_thin (h : b.KeepsLive keep) (p : Provider) : (b.thin keep).inUse p = b.inUse p := by
  rw [Bool.eq_iff_iff, inUse_iff, inUse_iff]
  constructor
  · rintro ⟨id, s, hfound, halive⟩
    exact ⟨id, s, Table.find?_of_filter hfound, halive⟩
  · rintro ⟨id, s, hfound, halive⟩
    exact ⟨id, s, (find?_thin_of (h.keeps hfound halive)).trans hfound, halive⟩

theorem sweep_thin (h : b.KeepsLive keep) : (b.thin keep).sweep = b.sweep.thin keep := by
  have huse : (b.thin keep).inUse = b.inUse := funext fun p => inUse_thin h p
  unfold sweep
  rw [huse]
  rfl

/-- A session that is not kept is dismissed without an effect, so it need not be dismissed. -/
theorem dismissAll_thin (k : ChildKey) (l : List ServerId) (hb : b.Sound) (h : b.KeepsLive keep) :
    (l.filter keep).foldl (dismiss k) (b.thin keep) = (l.foldl (dismiss k) b).thin keep := by
  induction l generalizing b with
  | nil => rfl
  | cons id l ih =>
    have hid : Changes (fun _ => False) b _ := (endings_dismiss hb k id).changes
    have hrest := ih (hid.sound hb) (h.of_changes hid fun _ hid => hid.elim)
    rw [← dismiss_thin h] at hrest
    cases hkeep : keep id with
    | true =>
      rw [List.filter_cons_of_pos hkeep]
      exact hrest
    | false =>
      have hsame : (b.thin keep).dismiss k id = b.thin keep := by
        unfold dismiss
        rw [find?_thin_of_not hkeep]
      rw [hsame] at hrest
      rw [List.filter_cons_of_neg (by simp [hkeep])]
      exact hrest

theorem removeService_thin (hb : b.Sound) (h : b.KeepsLive keep) (k : ChildKey) :
    (b.thin keep).removeService k = (b.removeService k).thin keep := by
  have hkeys : (b.thin keep).sessions.keys = b.sessions.keys.filter keep := Table.keys_filter_keys b.sessions keep
  unfold removeService
  rw [hkeys, dismissAll_thin k _ hb h]
  rfl

theorem removeChild_thin (hb : b.Sound) (h : b.KeepsLive keep) (child : String) :
    (b.thin keep).removeChild child = (b.removeChild child).thin keep :=
  foldl_thin (fun _ k hb => (endings_removeService hb k).changes) (fun _ k hb h => removeService_thin hb h k) _ hb h

theorem applyLocal_thin (hb : b.Sound) (h : b.KeepsLive keep) (service : String)
    {answers : List (ServerId × Response)} (hserves : ∀ e ∈ answers, b.Serves (.later service) e.1) :
    (b.thin keep).applyLocal service answers = (b.applyLocal service answers).thin keep := by
  refine answers_rec (P := fun answers b => b.KeepsLive keep →
    (b.thin keep).applyLocal service answers = (b.applyLocal service answers).thin keep) (fun _ _ => rfl)
    (fun e answers b hb hserves hrest h => ?_) answers b hb hserves h
  have hone : Changes (fun _ => False) b _ := .of_affects (applyResponse_cases hb hserves e.2)
  have hkeeps := h.of_changes hone fun _ hid => hid.elim
  refine Eq.trans ?_ (hrest hkeeps)
  unfold applyLocal
  rw [List.foldl_cons, snd_applyResponse_thin h]

/-! ### The operations -/

/-- What is kept when an id is taken. -/
def keepAlso (keep : ServerId → Bool) (id j : ServerId) : Bool := decide (j = id) || keep j

theorem keepAlso_self (keep : ServerId → Bool) (id : ServerId) : keepAlso keep id id = true := by simp [keepAlso]

theorem keepAlso_of_ne {j : ServerId} (hj : j ≠ id) : keepAlso keep id j = keep j := by simp [keepAlso, hj]

theorem keepAlso_of_keep {j : ServerId} (hj : keep j = true) : keepAlso keep id j = true := by simp [keepAlso, hj]

theorem keepAlso_eq (hid : keep id = true) : keepAlso keep id = keep := by
  funext j
  by_cases hj : j = id
  · rw [hj, keepAlso_self, hid]
  · exact keepAlso_of_ne hj

theorem KeepsLive.also (h : b.KeepsLive keep) (id : ServerId) : b.KeepsLive (keepAlso keep id) := by
  intro j hj
  cases hkeep : keep j with
  | false => exact h j hkeep
  | true => cases (keepAlso_of_keep hkeep).symm.trans hj

/-- The id that a create takes is kept from then on. -/
theorem create_thin (h : b.KeepsLive keep) (id : ServerId) (service args : String) (affinity : Affinity) :
    (b.thin keep).create id service args affinity =
      thinned (b.create id service args affinity) (keepAlso keep id) := by
  unfold create
  rw [h.isLive_thin]
  split
  · rename_i hlive
    obtain ⟨t, ht, halive⟩ := isLive_iff.1 hlive
    rw [keepAlso_eq (h.keeps ht halive)]
    rfl
  · rename_i hfree
    have hfree : b.isLive id = false := by simpa using hfree
    have herase : (b.thin keep).sessions.erase id =
        (b.sessions.erase id).filter fun j _ => keepAlso keep id j :=
      Table.erase_filter_keys b.sessions fun _ hj => keepAlso_of_ne hj
    rw [herase, thin_config]
    dsimp only
    split
    · rfl
    · rename_i s hs
      have htaken : Changes (fun j => j = id) b _ := (Changes.single (change_forget hfree)).trans
        (.single (.admitted rfl (Table.find?_erase_self _ _) (RuntimeConfig.isFresh_newSession hs)))
      have hroute := route_thin ((h.also id).of_changes htaken fun j hj => hj ▸ keepAlso_self keep id) id
      rw [Table.insert_filter_keys _ (keepAlso_self keep id)]
      exact congrArg (Prod.mk _) hroute

theorem childAnswer_thin (hb : b.Sound) (h : b.KeepsLive keep) (k : ChildKey) (request : ClientId) (r : Response) :
    (b.thin keep).childAnswer k request r = thinned (b.childAnswer k request r) keep := by
  unfold childAnswer
  rw [thin_providers]
  split
  · rfl
  · rename_i c hc
    split
    · rfl
    · rename_i id hid
      have hi : b.providers.request? k.provider request = some id := by
        rw [Registry.request?_child, hc]
        exact hid
      have hanswer : (b.thin keep).applyResponse k.provider id r = thinned _ keep :=
        applyResponse_thin (h.of_posted hb hi) k.provider r
      have hone : Changes (fun _ => False) b _ := .of_affects (applyResponse_cases hb (serves_of_request? hb hi) r)
      have hsweep := sweep_thin (h.of_changes hone fun _ hid => hid.elim)
      rw [hanswer]
      cases heq : b.applyResponse k.provider id r with
      | mk result b' =>
        rw [heq] at hsweep
        cases result with
        | ok _ => exact congrArg (Prod.mk _) hsweep
        | error e => rfl

/-- Providers come and go, and the sessions that wait are routed again. -/
theorem provided_thin (hb : b.Sound) (h : b.KeepsLive keep) (hprovided : Rearranged b b') :
    (b'.thin keep).retryWaiting = b'.retryWaiting.thin keep :=
  retryWaiting_thin (hprovided.sound hb)
    (h.of_changes (Changes.single (.providers hprovided) : Changes (fun _ => False) b b') fun _ hid => hid.elim)

theorem announce_thin (hb : b.Sound) (h : b.KeepsLive keep) (k : ChildKey) (account : AccountId) :
    (b.thin keep).announce k account = (b.announce k account).thin keep := by
  have htaken : (b.thin keep).isTaken k = b.isTaken k := rfl
  unfold announce
  rw [htaken]
  split
  · rfl
  · rename_i hfree
    exact provided_thin hb h (rearranged_announce hb (by simpa using hfree) account)

theorem withdraw_thin (h : b.KeepsLive keep) (k : ChildKey) :
    (b.thin keep).withdraw k = (b.withdraw k).thin keep :=
  have hkeeps : KeepsLive { b with
      providers.children := b.providers.children.modify k fun c => { c with abandoned := true } } keep := h
  sweep_thin hkeeps

theorem applyRouting_thin (hb : b.Sound) (h : b.KeepsLive keep) (rules : List Rule) :
    (b.thin keep).applyRouting rules = (b.applyRouting rules).thin keep := by
  have hrules := rearranged_abandonParents hb rules fun n => rules.any fun r => r.names n
  have hkeeps : KeepsLive { b with
      rules, providers := b.providers.abandonParents fun n => rules.any fun r => r.names n } keep := h
  have hsweep := sweep_thin hkeeps
  unfold applyRouting
  rw [← provided_thin (hrules.sound hb) hkeeps (rearranged_sweep (hrules.sound hb)), ← hsweep]
  rfl

/-- Only closed sessions are forgotten, and they are no more than were not kept. -/
theorem reap_thin (h : b.KeepsLive keep) : (b.thin keep).reap.2 = b.thin b.isLive := by
  have hsessions : (b.thin keep).sessions.filter (fun _ t => t.session.isAlive) =
      b.sessions.filter fun id _ => b.isLive id := by
    refine (Table.filter_filter_keys b.sessions fun id t ht hid => h.not_alive hid ht).trans ?_
    refine Table.ext_find? fun id => ?_
    rw [Table.find?_filter, Table.find?_filter_keys]
    unfold isLive session?
    cases b.sessions.find? id with
    | none => rfl
    | some t => exact Option.filter_some
  unfold reap
  rw [hsessions]
  rfl

theorem reap_eq (b : Broker) : b.reap.2 = b.thin b.isLive := by
  have hall : b.KeepsLive fun _ => true := fun _ hid => by cases hid
  have hreap := reap_thin hall
  rwa [thin_all] at hreap

/-- Local code is shown the same requests, and its answers are for sessions that are kept. -/
theorem answers_thin (hb : b.Sound) (h : b.KeepsLive keep) (service : String)
    (callback : Nat → Request → Option Response) (wanted : ServerId × Request → Bool) :
    (b.thin keep).applyLocal service (collect callback (((b.thin keep).localRequests service).filter wanted)) =
      (b.applyLocal service (collect callback ((b.localRequests service).filter wanted))).thin keep := by
  rw [localRequests_thin h]
  exact applyLocal_thin hb h service fun _ he => serves_of_mem_collect hb (fun _ he => (List.mem_filter.1 he).1) he

/-- What operations do, they do in the same way without closed sessions. -/
theorem step_thin (hb : b.Sound) (h : b.KeepsLive keep) {op : Op} (hop : op.IsBuiltIn) :
    ∃ keep', (b.step op).2.KeepsLive keep' ∧ ((b.thin keep).step op).2 = (b.step op).2.thin keep' := by
  have hchanges := changes_step hb hop
  -- only a create changes what has to be kept
  have hkeeps : (∀ id, ¬op.Opens b id) → (b.step op).2.KeepsLive keep :=
    fun hnone => h.of_changes hchanges fun id hid => (hnone id hid).elim
  cases op with
  | create id service args affinity =>
    refine ⟨keepAlso keep id, (h.also id).of_changes hchanges fun j hj => ?_, ?_⟩
    · rw [← hj.1]
      exact keepAlso_self keep id
    · exact congrArg Prod.snd (create_thin h id service args affinity)
  | upgrade id q => exact ⟨keep, hkeeps fun _ hid => hid, snd_upgrade_thin h id q⟩
  | close id => exact ⟨keep, hkeeps fun _ hid => hid, snd_close_thin h id⟩
  | childAnswer k request r =>
    exact ⟨keep, hkeeps fun _ hid => hid, congrArg Prod.snd (childAnswer_thin hb h k request r)⟩
  | announce k account => exact ⟨keep, hkeeps fun _ hid => hid, announce_thin hb h k account⟩
  | withdraw k => exact ⟨keep, hkeeps fun _ hid => hid, withdraw_thin h k⟩
  | removeChild child => exact ⟨keep, hkeeps fun _ hid => hid, removeChild_thin hb h child⟩
  | applyRouting rules => exact ⟨keep, hkeeps fun _ hid => hid, applyRouting_thin hb h rules⟩
  | registerLocal service =>
    obtain ⟨l, rfl⟩ := hop
    have hregistered : Rearranged b { b with providers.locals := b.providers.locals.insert l.name (.made l) } :=
      .of_alike rfl rfl rfl (.insert_local hb.builtIn l.name l)
    exact ⟨keep, hkeeps fun _ hid => hid, provided_thin hb h hregistered⟩
  | registerDesk d =>
    exact ⟨keep, hkeeps fun _ hid => hid, provided_thin hb h (rearranged_registerDesk hb hop)⟩
  | answerRequested service callback | answerUpgraded service callback | answerClosing service callback =>
    exact ⟨keep, hkeeps fun _ hid => hid, answers_thin hb h service _ _⟩
  | reap =>
    refine ⟨fun _ => true, fun _ hid => (by cases hid), ?_⟩
    rw [thin_all]
    exact (reap_thin h).trans (reap_eq b).symm

end SessionBroker.Broker
