import SessionBroker.Proofs.Steadiness
import SessionBroker.Proofs.Upgrading

/-!
# SessionBroker.Proofs.UpgradeBooks — upgrades between the parent and a child

A child is shown what is pending when it asks for its requests, and its answer applies what is pending when the answer
comes.  An upgrade that the parent is granted in between is applied without having been shown.

* `UpgradeBooks`: what was granted, what the child answered, and what was applied unseen.
* `Broker.Booked r id k request b c books`: a history leads from `b` to `c`, and its upgrades of session `id` are as the
  books say.
* `UpgradeBooks.Agrees`: what is pending for a session agrees with the books.
* `upgrades_booked`: when the capability is handed out again, what was granted is what the child answered and what was
  applied unseen.
-/

namespace SessionBroker

/-- The upgrades of a session, for one resource. -/
structure UpgradeBooks where
  /-- The sum of the deltas that the parent was granted. -/
  accepted : Nat := 0
  /-- The sum of the deltas in the entries that the child answered. -/
  answered : Nat := 0
  /-- What answers applied although it was granted after the child had last asked. -/
  unseen : Nat := 0
  /-- The delta in the entry that the child was last shown, until it answers. -/
  polled : Nat := 0
  /-- What was granted since the child last asked or answered. -/
  since : Nat := 0
  deriving DecidableEq

namespace UpgradeBooks

variable {books : UpgradeBooks} {r : Resource} {s s' : Session} {b : Broker} {id : ServerId} {k : ChildKey}
  {request : ClientId}

def accept (books : UpgradeBooks) (n : Nat) : UpgradeBooks :=
  { books with accepted := books.accepted + n, since := books.since + n }

def poll (books : UpgradeBooks) (n : Nat) : UpgradeBooks := { books with polled := n, since := 0 }

def answer (books : UpgradeBooks) : UpgradeBooks :=
  { books with
    answered := books.answered + books.polled
    unseen := books.unseen + books.since
    polled := 0
    since := 0 }

/-- The books of session `id` after an operation.  The child knows the session by `request`. -/
def after (books : UpgradeBooks) (r : Resource) (b : Broker) (id : ServerId) (k : ChildKey) (request : ClientId) :
    Broker.Op → UpgradeBooks
  | .upgrade i q => if i = id ∧ (b.upgrade i q).1.isOk = true then books.accept (q.get r).val else books
  | .childAnswer k' i answer =>
    if (k' = k ∧ i = request) ∧ answer = .upgradeDone ∧ (b.childAnswer k' i answer).1.isOk = true then books.answer
    else books
  | _ => books

theorem after_upgrade (q : Quota) :
    books.after r b id k request (.upgrade id q) =
      if (b.upgrade id q).1.isOk = true then books.accept (q.get r).val else books := by
  show (if id = id ∧ _ then _ else _) = _
  simp only [true_and]

theorem after_childAnswer (k' : ChildKey) (i : ClientId) (answer : Response) :
    books.after r b id k request (.childAnswer k' i answer) =
      if (k' = k ∧ i = request) ∧ answer = .upgradeDone ∧ (b.childAnswer k' i answer).1.isOk = true then books.answer
      else books := rfl

theorem after_of_not_concerns {op : Broker.Op} (h : ¬op.Concerns id) : books.after r b id k request op = books := by
  cases op with
  | upgrade i q => exact if_neg fun hi => h hi.1
  | childAnswer k' i answer => exact (h trivial).elim
  | _ => rfl

/-- What is pending for a session agrees with the books.  The sums stay below what was granted even where what is
pending does not fit a word any more. -/
structure Agrees (books : UpgradeBooks) (s : Session) (r : Resource) : Prop where
  within : books.answered + books.unseen + books.polled + books.since ≤ books.accepted
  pending_le : (s.pendingUpgrade.get r).val ≤ books.polled + books.since
  exact : books.accepted < 0x10000000000000000 →
    books.answered + books.unseen + books.polled + books.since = books.accepted ∧
      (s.pendingUpgrade.get r).val = books.polled + books.since
  settled : s.phase ≠ .upgradeRequested → books.polled + books.since = 0

namespace Agrees

theorem start (hpending : s.pendingUpgrade = 0) : Agrees {} s r where
  within := Nat.le_refl 0
  pending_le := by
    rw [hpending, Quota.val_get_zero]
    exact Nat.le_refl 0
  exact _ := by
    rw [hpending, Quota.val_get_zero]
    exact ⟨rfl, rfl⟩
  settled _ := rfl

/-- An upgrade that is granted is pending. -/
theorem accept (h : books.Agrees s r) (q : Quota) (hpending : s'.pendingUpgrade = s.pendingUpgrade + q)
    (hphase : s'.phase = .upgradeRequested) : (books.accept (q.get r).val).Agrees s' r := by
  have hsum : (s'.pendingUpgrade.get r).val =
      min ((s.pendingUpgrade.get r).val + (q.get r).val) 0xFFFFFFFFFFFFFFFF := by
    rw [hpending, Quota.val_get_add]
  have hle := h.pending_le
  have hwithin := h.within
  constructor
  · show books.answered + books.unseen + books.polled + (books.since + (q.get r).val) ≤ books.accepted + (q.get r).val
    omega
  · show _ ≤ books.polled + (books.since + (q.get r).val)
    omega
  · intro hfit
    have hfit : books.accepted + (q.get r).val < 0x10000000000000000 := hfit
    obtain ⟨heq, hpend⟩ := h.exact (by omega)
    show books.answered + books.unseen + books.polled + (books.since + (q.get r).val) =
      books.accepted + (q.get r).val ∧ _ = books.polled + (books.since + (q.get r).val)
    omega
  · exact fun hne => absurd hphase hne

/-- A child that asks is shown what is pending. -/
theorem poll (h : books.Agrees s r) {n : Nat}
    (hn : n = if s.phase = .upgradeRequested then (s.pendingUpgrade.get r).val else 0) : (books.poll n).Agrees s r := by
  have hle := h.pending_le
  have hwithin := h.within
  by_cases hphase : s.phase = .upgradeRequested
  · rw [if_pos hphase] at hn
    constructor
    · show books.answered + books.unseen + n + 0 ≤ books.accepted
      omega
    · show _ ≤ n + 0
      omega
    · intro hfit
      obtain ⟨heq, hpend⟩ := h.exact hfit
      show books.answered + books.unseen + n + 0 = books.accepted ∧ _ = n + 0
      omega
    · exact fun hne => absurd hphase hne
  · rw [if_neg hphase] at hn
    have hnone := h.settled hphase
    have hsame : books.poll n = books := by
      unfold UpgradeBooks.poll
      have hpolled : n = books.polled := by omega
      have hsince : 0 = books.since := by omega
      rw [hpolled]
      conv_lhs => rw [hsince]
    rw [hsame]
    exact h

/-- An answer applies all that is pending, what was shown and what was not. -/
theorem answer (h : books.Agrees s r) (hpending : s'.pendingUpgrade = 0) : books.answer.Agrees s' r := by
  have hzero : (s'.pendingUpgrade.get r).val = 0 := by rw [hpending, Quota.val_get_zero]
  have hwithin := h.within
  constructor
  · show books.answered + books.polled + (books.unseen + books.since) + 0 + 0 ≤ books.accepted
    omega
  · exact Nat.le_of_eq hzero
  · intro hfit
    obtain ⟨heq, -⟩ := h.exact hfit
    refine ⟨?_, hzero⟩
    show books.answered + books.polled + (books.unseen + books.since) + 0 + 0 = books.accepted
    omega
  · exact fun _ => rfl

/-- Where no upgrade is pending, all that was granted is answered or was applied unseen. -/
theorem balance (h : books.Agrees s r) (hphase : s.phase ≠ .upgradeRequested) :
    books.answered + books.unseen ≤ books.accepted ∧
      (books.accepted < 0x10000000000000000 → books.answered + books.unseen = books.accepted) := by
  have hnone := h.settled hphase
  have hwithin := h.within
  refine ⟨by omega, fun hfit => ?_⟩
  obtain ⟨heq, -⟩ := h.exact hfit
  omega

end Agrees

end UpgradeBooks

namespace Broker

variable {b c : Broker} {id : ServerId} {k : ChildKey} {request : ClientId} {books : UpgradeBooks} {r : Resource}
  {s : Session}

/-- A history leads from `b` to a broker, and its upgrades of session `id` are as the books say.  The child asks for its
requests and answers when it likes; all other operations and changes of the surroundings may come in between, except
that the id is not taken again. -/
inductive Booked (r : Resource) (id : ServerId) (k : ChildKey) (request : ClientId) (b : Broker) :
    Broker → UpgradeBooks → Prop
  | start : Booked r id k request b b {}
  | op {c : Broker} {books : UpgradeBooks} (op : Op) :
      Booked r id k request b c books → op.IsBuiltIn → ¬op.Opens c id →
      Booked r id k request b (c.step op).2 (books.after r c id k request op)
  /-- The child asks for its requests. -/
  | poll {c : Broker} {books : UpgradeBooks} :
      Booked r id k request b c books →
      Booked r id k request b c (books.poll ((c.shownUpgrade? k request).elim 0 fun d => (d.get r).val))
  | around {c : Broker} {books : UpgradeBooks} (env : Env) :
      Booked r id k request b c books → Booked r id k request b { c with env := env } books

/-- A session of a child runs and agrees with the books, or it runs no longer. -/
def Tracks (c : Broker) (r : Resource) (id : ServerId) (k : ChildKey) (request : ClientId) (books : UpgradeBooks) :
    Prop :=
  (∃ s, c.sessions.find? id = some ⟨s, some k.provider⟩ ∧ s.downstream = some request ∧ s.phase.isRunning = true ∧
    books.Agrees s r) ∨ c.Done id

/-- An upgrade is granted and pending, or it is refused. -/
theorem tracks_upgrade (hc : c.Sound) (hfound : c.sessions.find? id = some ⟨s, some k.provider⟩)
    (hdown : s.downstream = some request) (hrun : s.phase.isRunning = true) (hagrees : books.Agrees s r) (q : Quota) :
    Tracks (c.upgrade id q).2 r id k request (books.after r c id k request (.upgrade id q)) := by
  rw [UpgradeBooks.after_upgrade]
  rcases upgrade_child hc hfound q with ⟨herror, hsame⟩ | ⟨hok, -, d, hstored⟩
  · rw [hsame, herror, if_neg Bool.false_ne_true]
    exact .inl ⟨s, hfound, hdown, hrun, hagrees⟩
  · rw [if_pos hok]
    exact .inl ⟨_, hstored, hdown, rfl, hagrees.accept q rfl rfl⟩

/-- An answer of the child that owns the session takes it on, and the books with it. -/
theorem tracks_responded {s' : Session} {n : Notice} {answer : Response}
    (hdown : s.downstream = some request) (hagrees : books.Agrees s r) (hr : s.Responds answer s' n)
    (hfound' : c.sessions.find? id = some ⟨s', some k.provider⟩) :
    Tracks c r id k request (if answer = .upgradeDone then books.answer else books) := by
  have hdone : s'.phase.isRunning = false →
      Tracks c r id k request (if answer = .upgradeDone then books.answer else books) := by
    intro hover
    refine .inr fun t ht => ?_
    obtain rfl := Option.some.inj (hfound'.symm.trans ht)
    exact hover
  cases hr with
  | givenUp | closed => exact hdone rfl
  | refused _ _ _ ha =>
    refine hdone (Phase.not_isRunning_of_isEnded (Phase.isEnded_iff.2 (.inr ?_)))
    exact Phase.isCreateFailure_of_answer ha
  | delivered hphase =>
    have hsettled : s.phase ≠ .upgradeRequested := fun h => by rw [hphase] at h; cases h
    refine .inl ⟨_, hfound', hdown, rfl, ?_⟩
    exact ⟨hagrees.within, hagrees.pending_le, hagrees.exact, fun _ => hagrees.settled hsettled⟩
  | upgraded => exact .inl ⟨_, hfound', hdown, rfl, hagrees.answer rfl⟩

theorem tracks_childAnswer (hc : c.Sound) (hfound : c.sessions.find? id = some ⟨s, some k.provider⟩)
    (hdown : s.downstream = some request) (hrun : s.phase.isRunning = true) (hagrees : books.Agrees s r)
    (k' : ChildKey) (i : ClientId) (answer : Response) :
    Tracks (c.childAnswer k' i answer).2 r id k request
      (books.after r c id k request (.childAnswer k' i answer)) := by
  have hrefers : c.Refers id k request := ⟨_, hfound, rfl, hdown⟩
  rw [UpgradeBooks.after_childAnswer]
  cases hresult : (c.childAnswer k' i answer).1 with
  | error e =>
    rw [childAnswer_error hresult, if_neg fun h => Bool.false_ne_true h.2.2]
    exact .inl ⟨s, hfound, hdown, hrun, hagrees⟩
  | ok u =>
    obtain ⟨j, t, s', n, hfound', hdown', hr, heq⟩ := childAnswer_ok hc hresult
    have hrefers' : c.Refers j k' i := ⟨_, hfound', rfl, hdown'⟩
    by_cases hj : j = id
    · subst hj
      obtain ⟨rfl, rfl⟩ := hrefers'.eq hrefers
      obtain ⟨rfl, -⟩ := Slot.mk.inj (Option.some.inj (hfound.symm.trans hfound'))
      have hafter : (c.childAnswer k' i answer).2.sessions.find? j = some ⟨s', some k'.provider⟩ := by
        rw [heq]
        show (c.responded k'.provider j s s' n).sessions.find? j = _
        exact find?_responded_self hfound
      have hbooks := tracks_responded hdown hagrees hr hafter
      have hok : (Except.ok u : Except Error Unit).isOk = true := rfl
      simpa only [hok, true_and, and_true, and_self] using hbooks
    · -- the answer is for another session, so it is not for this request
      have hother : ¬(k' = k ∧ i = request) := by
        rintro ⟨rfl, rfl⟩
        exact hj (hrefers'.unique hc hrefers)
      have hafter : (c.childAnswer k' i answer).2.sessions.find? id = some ⟨s, some k.provider⟩ := by
        rw [heq]
        show (c.responded k'.provider j t s' n).sessions.find? id = _
        exact (find?_responded_of_ne (Ne.symm hj)).trans hfound
      rw [if_neg fun h => hother h.1]
      exact .inl ⟨s, hafter, hdown, hrun, hagrees⟩

/-- An operation keeps a session in agreement with the books. -/
theorem tracks_step (hc : c.Sound) (h : Tracks c r id k request books) {op : Op} (hop : op.IsBuiltIn)
    (hopens : ¬op.Opens c id) : Tracks (c.step op).2 r id k request (books.after r c id k request op) := by
  rcases h with ⟨s, hfound, hdown, hrun, hagrees⟩ | hdone
  · by_cases hconcerns : op.Concerns id
    · cases op with
      | upgrade i q =>
        obtain rfl : i = id := hconcerns
        exact tracks_upgrade hc hfound hdown hrun hagrees q
      | childAnswer k' i answer => exact tracks_childAnswer hc hfound hdown hrun hagrees k' i answer
      | _ => exact hconcerns.elim
    · rw [UpgradeBooks.after_of_not_concerns hconcerns]
      refine ((spares_step hc hop hopens hconcerns).stands _ hfound rfl hrun).imp_left fun hstands => ?_
      exact ⟨s, hstands, hdown, hrun, hagrees⟩
  · exact .inr ((changes_step hc hop).done hopens hdone)

/-- A child that asks is shown what is pending. -/
theorem tracks_poll (hc : c.Sound) (h : Tracks c r id k request books) :
    Tracks c r id k request (books.poll ((c.shownUpgrade? k request).elim 0 fun d => (d.get r).val)) := by
  refine h.imp_left ?_
  rintro ⟨s, hfound, hdown, hrun, hagrees⟩
  refine ⟨s, hfound, hdown, hrun, hagrees.poll ?_⟩
  rw [shownUpgrade?_eq hc hfound hdown]
  split <;> rfl

/-- Along a history the session agrees with the books. -/
theorem Booked.tracks (h : Booked r id k request b c books) (hb : b.Sound) (hstart : Tracks b r id k request {}) :
    c.Sound ∧ Tracks c r id k request books := by
  induction h with
  | start => exact ⟨hb, hstart⟩
  | op op _ hop hopens ih =>
    obtain ⟨hc, htracks⟩ := ih
    exact ⟨(changes_step hc hop).sound hc, tracks_step hc htracks hop hopens⟩
  | poll _ ih =>
    obtain ⟨hc, htracks⟩ := ih
    exact ⟨hc, tracks_poll hc htracks⟩
  | around env _ ih => exact ⟨ih.1.with_env env, ih.2⟩

/-- Whenever the capability of a session is handed out again, the sum of what the parent was granted is the sum of what
the child answered and of what was granted between a poll of the child and its answer.  So the child answered all of it
exactly if nothing was granted in between. -/
theorem upgrades_booked {env : Env} {config : RuntimeConfig}
    (hb : Reaches (fun _ _ => True) (fun _ _ => True) (start env config) b)
    (hfound : b.sessions.find? id = some ⟨s, some k.provider⟩) (hdown : s.downstream = some request)
    (hsettled : s.phase.isSettled = true) (h : Booked r id k request b c books) {t : Slot}
    (ht : c.sessions.find? id = some t) (hback : t.session.phase = .capHandedOut) :
    books.answered + books.unseen ≤ books.accepted ∧
      (books.accepted < 0x10000000000000000 →
        books.answered + books.unseen = books.accepted ∧ (books.answered = books.accepted ↔ books.unseen = 0)) := by
  have hsound := hb.sound (sound_start env config)
  have hrun : s.phase.isRunning = true := by
    cases hphase : s.phase <;> rw [hphase] at hsettled <;> first | rfl | cases hsettled
  have hstart : Tracks b r id k request {} :=
    .inl ⟨s, hfound, hdown, hrun, .start (hb.nothingPending id _ hfound hsettled)⟩
  rcases (h.tracks hsound hstart).2 with ⟨u, hu, -, -, hagrees⟩ | hdone
  · obtain rfl := Option.some.inj (hu.symm.trans ht)
    obtain ⟨hle, hexact⟩ := hagrees.balance fun hphase => by cases hback.symm.trans hphase
    refine ⟨hle, fun hfit => ?_⟩
    have hsum := hexact hfit
    omega
  · have hover := hdone t ht
    rw [hback] at hover
    cases hover

/-! ### An upgrade between a poll and its answer -/

/-- The child delivers a session, and it is upgraded twice before the child answers the first upgrade. -/
def raced : Broker :=
  requestedOnce.run [.childAnswer ⟨"fs", "log"⟩ ⟨0⟩ (.deliver (.mint "log" 0)), .upgrade ⟨1⟩ { ram := 1 },
    .upgrade ⟨1⟩ { ram := ⟨2, by decide⟩ }, .childAnswer ⟨"fs", "log"⟩ ⟨0⟩ .upgradeDone]

/-- The child asks for its requests between the two upgrades. -/
theorem booked_raced : Booked .ram ⟨1⟩ ⟨"fs", "log"⟩ ⟨0⟩ requestedOnce raced
    { accepted := 3, answered := 1, unseen := 2 } := by
  have hdelivered := Booked.op (r := .ram) (.childAnswer ⟨"fs", "log"⟩ ⟨0⟩ (.deliver (.mint "log" 0)))
    (.start : Booked .ram ⟨1⟩ ⟨"fs", "log"⟩ ⟨0⟩ requestedOnce requestedOnce {}) trivial id
  have hpolled := (hdelivered.op (.upgrade ⟨1⟩ { ram := 1 }) trivial id).poll
  have hanswered := (hpolled.op (.upgrade ⟨1⟩ { ram := ⟨2, by decide⟩ }) trivial id).op
    (.childAnswer ⟨"fs", "log"⟩ ⟨0⟩ .upgradeDone) trivial id
  exact hanswered

/-- The second upgrade is granted and never answered: the capability is handed out again, and the child is asked for
nothing more. -/
theorem upgrade_unanswered : ∃ c books, Booked .ram ⟨1⟩ ⟨"fs", "log"⟩ ⟨0⟩ requestedOnce c books ∧
    (c.session? ⟨1⟩).map Session.phase = some .capHandedOut ∧ books.accepted = 3 ∧ books.answered = 1 ∧
    c.childRequests "fs" = [] :=
  ⟨raced, _, booked_raced, by decide +kernel, rfl, rfl, by decide +kernel⟩

/-- What the child answered and what was applied unseen are all that was granted. -/
theorem balance_raced : ∃ books, Booked .ram ⟨1⟩ ⟨"fs", "log"⟩ ⟨0⟩ requestedOnce raced books ∧ books.accepted = 3 ∧
    books.answered + books.unseen = books.accepted ∧ books.answered ≠ books.accepted := by
  obtain ⟨s, hs, hdown, hsettled⟩ : ∃ s, requestedOnce.sessions.find? ⟨1⟩ =
      some ⟨s, some (ChildKey.mk "fs" "log").provider⟩ ∧ s.downstream = some ⟨0⟩ ∧ s.phase.isSettled = true :=
    ⟨_, rfl, by decide +kernel, by decide +kernel⟩
  obtain ⟨t, ht, hback⟩ : ∃ t, raced.sessions.find? ⟨1⟩ = some t ∧ t.session.phase = .capHandedOut :=
    ⟨_, rfl, by decide +kernel⟩
  obtain ⟨-, hexact⟩ := upgrades_booked reaches_requestedOnce hs hdown hsettled booked_raced ht hback
  obtain ⟨hsum, hseen⟩ := hexact (by decide)
  exact ⟨_, booked_raced, rfl, hsum, fun h => absurd (hseen.1 h) (by decide)⟩

end Broker

end SessionBroker
