import SessionBroker.Proofs.Announcing
import SessionBroker.Proofs.Reaping
import SessionBroker.Proofs.Relabelling

/-!
# SessionBroker.Proofs.Rejections — what a create leaves of a broker that rejects it

A create is rejected if its id is in use, or if its arguments cannot be read.  In the second case the table was edited
before the arguments were read: a closed session of the id, which waits to be reaped, is forgotten.

* `Args.Unreadable`: arguments that do not parse, or that name a quota that is no amount.  The default quota neither
  hides that nor causes it (`newSession_eq_error_iff`).
* `Broker.Rejects b b' id`: nothing is changed but for a closed session of the id, and the parent is told of a denial.
* `create_rejected`: when a create is rejected, and what it leaves.
* `closed_session_lost`: a rejected create that forgets a session.
-/

namespace SessionBroker

namespace Args

variable {a : Args} {q : Quota} {r r' : Resource} {e : ArgsError}

/-! ### Quotas by default -/

/-- An amount that cannot be read is there. -/
theorem contains_of_donation_error (h : a.donation r = .error e) : a.contains (quotaKey r) = true := by
  obtain ⟨-, ⟨v, ⟨pre, post, hentries, -⟩, -⟩, -⟩ := amount_eq_error_iff.1 h
  refine List.any_eq_true.2 ⟨(quotaKey r, v), ?_, beq_self_eq_true (quotaKey r)⟩
  rw [hentries]
  exact List.mem_append_right _ List.mem_cons_self

/-- An amount that is filled in replaces none that cannot be read, and it is itself read. -/
theorem donation_error_default (a : Args) (r : Resource) (w : Word) :
    (if a.contains (quotaKey r) || w == 0 then a else a.setAmount (quotaKey r) w).donation r' = .error e ↔
      a.donation r' = .error e := by
  split
  · exact Iff.rfl
  · rename_i habsent
    by_cases hr : r' = r
    · subst hr
      rw [donation_setAmount]
      constructor
      · intro h
        cases h
      · intro h
        rw [contains_of_donation_error h] at habsent
        exact absurd rfl habsent
    · rw [donation_setAmount_of_ne a w hr]

/-- Whether a text cannot be read as arguments: it does not parse, or it names a quota that is no amount. -/
def Unreadable (text : String) (e : ArgsError) : Prop :=
  parse text = .error e ∨ ∃ a, parse text = .ok a ∧ a.quota = .error e

end Args

/-- The quota by default neither hides that a quota cannot be read nor is the reason for it. -/
theorem RuntimeConfig.quota_withDefaults_error_iff (c : RuntimeConfig) (a : Args) (e : ArgsError) :
    (c.withDefaults a).quota = .error e ↔ a.quota = .error e := by
  have hdonation : ∀ r e, (c.withDefaults a).donation r = .error e ↔ a.donation r = .error e := by
    intro r e
    exact (Args.donation_error_default _ .caps _).trans (Args.donation_error_default a .ram _)
  rw [Args.quota_eq_error_iff, Args.quota_eq_error_iff, hdonation, hdonation]
  simp only [ne_eq, hdonation]

theorem RuntimeConfig.newSession_eq_error_iff {c : RuntimeConfig} {service args : String} {affinity : Affinity}
    {e : ArgsError} : c.newSession service args affinity = .error e ↔ Args.Unreadable args e := by
  have hquota : ∀ a, (c.withDefaults a).quota = .error e ↔ a.quota = .error e :=
    fun a => c.quota_withDefaults_error_iff a e
  unfold newSession Session.create Args.Unreadable
  cases Args.parse args with
  | error e' => simp
  | ok a =>
    have hunread : (∃ a', Except.ok a = (Except.ok a' : Except ArgsError Args) ∧ a'.quota = .error e) ↔
        (c.withDefaults a).quota = .error e := by simp [hquota]
    rw [hunread]
    cases hq : (c.withDefaults a).quota with
    | error e' => simp [hq]
    | ok q => simp [hq]

namespace Broker

variable {b b' : Broker} {id : ServerId} {service args : String} {affinity : Affinity}

/-- From `b` to `b'`, a create for session `id` was rejected.  If the id was in use, that is all; if not, the parent was
told of a denial, and what was left of an earlier session of the id is forgotten. -/
structure Rejects (b b' : Broker) (id : ServerId) : Prop where
  rules : b'.rules = b.rules
  config : b'.config = b.config
  /-- Services and posted requests are as they were. -/
  providers : b'.providers = b.providers
  /-- So are all balances, and what the parent holds and granted. -/
  env : b'.env = { b.env with
    trace := b.env.trace ++ if b.isLive id then [] else [.answered id .serviceDenied] }
  others : ∀ j, j ≠ id → b'.sessions.find? j = b.sessions.find? j
  own : b'.sessions.find? id = if b.isLive id then b.sessions.find? id else none

/-- The sessions are as they were exactly if there was no closed session under the id. -/
theorem Rejects.sessions_eq_iff (h : Rejects b b' id) :
    b'.sessions = b.sessions ↔ ∀ t, b.sessions.find? id = some t → t.session.isAlive = true := by
  have hown := h.own
  constructor
  · intro hsame t ht
    by_cases hlive : b.isLive id = true
    · simpa [isLive, session?, ht] using hlive
    · rw [if_neg hlive, hsame, ht] at hown
      cases hown
  · intro halive
    refine Table.ext_find? fun j => ?_
    by_cases hj : j = id
    · subst hj
      rw [hown]
      split
      · rfl
      · rename_i hdead
        cases ht : b.sessions.find? j with
        | none => rfl
        | some t => exact absurd (by simpa [isLive, session?, ht] using halive t ht) hdead
    · exact h.others j hj

/-- What a create that is rejected does, and why it is rejected. -/
theorem create_error {e : Error} (h : (b.create id service args affinity).1 = .error e) :
    b.isLive id = true ∧ e = .protocol (.conflictingId id.num) ∧ (b.create id service args affinity).2 = b ∨
      b.isLive id = false ∧ ∃ e', Args.Unreadable args e' ∧ e = .args e' ∧
        (b.create id service args affinity).2 =
          { b with sessions := b.sessions.erase id }.answer id .serviceDenied := by
  cases hlive : b.isLive id with
  | true =>
    rw [create_of_isLive hlive] at h ⊢
    exact .inl ⟨rfl, (Except.error.inj h).symm, rfl⟩
  | false =>
    refine .inr ⟨rfl, ?_⟩
    cases hs : b.config.newSession service args affinity with
    | error e' =>
      rw [create_of_malformed hlive hs] at h ⊢
      exact ⟨e', RuntimeConfig.newSession_eq_error_iff.1 hs, (Except.error.inj h).symm, rfl⟩
    | ok s =>
      obtain ⟨c, hcreate, -⟩ := create_eq_route hlive hs
      rw [hcreate] at h
      cases h

theorem rejects_create {e : Error} (h : (b.create id service args affinity).1 = .error e) :
    Rejects b (b.create id service args affinity).2 id := by
  rcases create_error h with ⟨hlive, -, heq⟩ | ⟨hdead, e', -, -, heq⟩
  · rw [heq]
    exact
      { rules := rfl
        config := rfl
        providers := rfl
        env := by rw [if_pos hlive, List.append_nil]
        others := fun _ _ => rfl
        own := by rw [if_pos hlive] }
  · have hnot : ¬b.isLive id = true := by
      rw [hdead]
      exact Bool.false_ne_true
    rw [heq]
    exact
      { rules := rfl
        config := rfl
        providers := rfl
        env := by
          rw [if_neg hnot]
          rfl
        others := fun j hj => Table.find?_erase_of_ne _ hj
        own := by
          rw [if_neg hnot]
          exact Table.find?_erase_self _ _ }

/-- A create is rejected exactly if its id is in use or its arguments cannot be read, whatever the state is.  Then
nothing is changed but for a closed session of the id, which is forgotten if the id is not in use. -/
theorem create_rejected (b : Broker) (id : ServerId) (service args : String) (affinity : Affinity) :
    (∀ e, (b.create id service args affinity).1 = .error e ↔
      b.isLive id = true ∧ e = .protocol (.conflictingId id.num) ∨
        b.isLive id = false ∧ ∃ e', Args.Unreadable args e' ∧ e = .args e') ∧
      ∀ e, (b.create id service args affinity).1 = .error e →
        Rejects b (b.create id service args affinity).2 id ∧
          ((b.create id service args affinity).2.sessions = b.sessions ↔
            ∀ t, b.sessions.find? id = some t → t.session.isAlive = true) := by
  refine ⟨fun e => ⟨fun h => ?_, ?_⟩, fun e h => ⟨rejects_create h, (rejects_create h).sessions_eq_iff⟩⟩
  · rcases create_error h with ⟨hlive, he, -⟩ | ⟨hdead, e', hread, he, -⟩
    · exact .inl ⟨hlive, he⟩
    · exact .inr ⟨hdead, e', hread, he⟩
  · rintro (⟨hlive, rfl⟩ | ⟨hdead, e', hread, rfl⟩)
    · rw [create_of_isLive hlive]
    · rw [create_of_malformed hdead (RuntimeConfig.newSession_eq_error_iff.2 hread)]

/-- A quota that is no number cannot be read. -/
theorem error_closedOnce :
    (closedOnce.create ⟨1⟩ "Rom" "ram_quota=x" {}).1 = .error (.args (.invalidValue "ram_quota" "x")) := by
  decide +kernel

theorem create_rejected_closedOnce :
    (closedOnce.create ⟨1⟩ "Rom" "ram_quota=x" {}).1 = .error (.args (.invalidValue "ram_quota" "x")) ∧
      Rejects closedOnce (closedOnce.create ⟨1⟩ "Rom" "ram_quota=x" {}).2 ⟨1⟩ :=
  ⟨error_closedOnce, ((create_rejected closedOnce ⟨1⟩ "Rom" "ram_quota=x" {}).2 _ error_closedOnce).1⟩

theorem reaches_closedOnce : Reaches (fun _ _ => True) (fun _ _ => True) (start sampleEnv {}) closedOnce :=
  reaches_run _ .refl (by simp [Op.IsBuiltIn])

/-- A rejected create does not always leave the sessions as they were: a session that was closed and not reaped is
forgotten. -/
theorem closed_session_lost : ¬∀ c, Reaches (fun _ _ => True) (fun _ _ => True) (start sampleEnv {}) c →
    ∀ id service args affinity e, (c.create id service args affinity).1 = .error e →
      (c.create id service args affinity).2.sessions = c.sessions := by
  intro h
  have hthere : closedOnce.sessions.find? ⟨1⟩ ≠ none := by decide +kernel
  have hgone : (closedOnce.create ⟨1⟩ "Rom" "ram_quota=x" {}).2.sessions.find? ⟨1⟩ = none := by decide +kernel
  rw [h closedOnce reaches_closedOnce _ _ _ _ _ error_closedOnce] at hgone
  exact hthere hgone

end Broker

end SessionBroker
