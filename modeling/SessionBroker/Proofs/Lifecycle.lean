import SessionBroker.Proofs.Notices

/-!
# SessionBroker.Proofs.Lifecycle — what can happen to a session

* `Slot.Sound id`: what the fields of session `id` have to do with its phase and its provider.
* `Transition t m ns t'`: one change of a session, with the quota that is moved for it and what its requester is told.
  Every operation of a broker changes its sessions by such steps.
* `Transition.sound`, `Transition.talk`: a transition keeps a session sound, and what is said fits the stage.
* `Transition.of_givenUp`: a session that was given up is closed by the first transition it makes.
-/

namespace SessionBroker

/-- Whether nothing is held for a session in the phase any more: its create failed, or it is closed. -/
def Phase.isEnded (p : Phase) : Bool := p == .closed || p.isCreateFailure

theorem Phase.isEnded_iff {p : Phase} : p.isEnded = true ↔ p = .closed ∨ p.isCreateFailure = true := by
  cases p <;> decide

theorem Phase.isEnded_of_established {p : Phase} (h : p.isEstablished = true) : p.isEnded = false := by
  cases p <;> first | rfl | cases h

theorem Phase.isCreateFailure_of_answer {p : Phase} {a : Answer} (h : Answer.ofCreateFailure? p = some a) :
    p.isCreateFailure = true := by
  cases p <;> first | rfl | cases h

namespace Session

theorem isAlive_of_ne_closed {s : Session} (h : s.phase ≠ .closed) : s.isAlive = true := by
  simp [isAlive, h]

theorem phase_of_not_alive {s : Session} (h : s.isAlive = false) : s.phase = .closed := by
  simpa [isAlive] using h

theorem isEnded_of_not_alive {s : Session} (h : s.isAlive = false) : s.phase.isEnded = true :=
  Phase.isEnded_iff.2 (.inl (phase_of_not_alive h))

theorem stage_of_established {s : Session} (h : s.phase.isEstablished = true) : s.stage = .handedOut := by
  unfold stage
  cases hp : s.phase <;> first | rfl | (rw [hp] at h; cases h)

theorem stage_of_createFailure {s : Session} (h : s.phase.isCreateFailure = true) : s.stage = .refused := by
  unfold stage
  cases hp : s.phase <;> first | rfl | (rw [hp] at h; cases h)

theorem stage_of_waiting {s : Session} (h : s.phase = .createRequested) : s.stage = .waiting := by
  unfold stage
  rw [h]

theorem phase_of_waiting {s : Session} (h : s.stage = .waiting) : s.phase = .createRequested := by
  unfold stage at h
  cases hp : s.phase <;> simp_all
  split at h
  · cases h
  · split at h <;> cases h

theorem phase_of_givenUp {s : Session} (h : s.stage = .givenUp) : s.phase = .closeRequested := by
  unfold stage at h
  cases hp : s.phase <;> simp_all

theorem abandoned_of_givenUp {s : Session} (h : s.stage = .givenUp) : s.abandoned = true := by
  cases hab : s.abandoned with
  | true => rfl
  | false =>
    have hphase := phase_of_givenUp h
    unfold stage at h
    simp only [hphase, hab, Bool.false_eq_true, if_false] at h
    split at h <;> cases h

theorem phase_of_over {s : Session} (h : s.stage = .over) : s.phase = .closed := by
  unfold stage at h
  cases hp : s.phase <;> simp_all
  split at h
  · cases h
  · split at h <;> cases h

end Session

/-- What the fields of session `id` have to do with its phase and its provider. -/
structure Slot.Sound (id : ServerId) (t : Slot) : Prop where
  serverId : t.session.serverId = some id
  /-- A capability is handed out as soon as it is there. -/
  handedOut : t.session.phase ≠ .available
  waiting : t.session.phase = .createRequested → t.session.handle = none ∧ t.session.abandoned = false
  established : t.session.phase.isEstablished = true → t.session.handle.isSome = true
  ended : t.session.phase.isEnded = true →
    t.session.handle = none ∧ t.session.downstream = none ∧ t.session.donated = 0
  /-- Only a session that is being closed, or is closed, was given up. -/
  abandoned : t.session.abandoned = true → t.session.phase = .closeRequested ∨ t.session.phase = .closed
  unrouted : t.provider = none →
    t.session.downstream = none ∧ (t.session.phase = .createRequested ∨ t.session.phase.isEnded = true)
  /-- A provider that answers at once leaves nothing pending, unless it is a service of the parent that may not try:
  then a create that failed stays to be closed. -/
  sync : ∀ p, t.provider = some p → p.isAsync = false →
    t.session.phase = .capHandedOut ∨ t.session.phase.isEnded = true ∨
      t.session.phase = .closeRequested ∧ t.session.handle = none
  /-- A provider that answers later knows the session by a request. -/
  async : ∀ p, t.provider = some p → p.isAsync = true → t.session.phase.isEnded = false →
    t.session.downstream.isSome = true
  here : ∀ n, t.provider = some (.here n) → t.session.downstream = none
  /-- Only children have accounts of their own. -/
  donated : (∀ c n, t.provider ≠ some (.child c n)) → t.session.donated = 0

theorem Slot.Sound.not_abandoned {id : ServerId} {t : Slot} (h : t.Sound id)
    (hest : t.session.phase.isEstablished = true) : t.session.abandoned = false := by
  cases hab : t.session.abandoned with
  | false => rfl
  | true => rcases h.abandoned hab with hp | hp <;> (rw [hp] at hest; cases hest)

/-- A session that has a request at its provider is not closed. -/
theorem Slot.Sound.isAlive_of_downstream {id : ServerId} {t : Slot} (h : t.Sound id) {i : ClientId}
    (hdown : t.session.downstream = some i) : t.session.isAlive = true := by
  cases halive : t.session.isAlive with
  | true => rfl
  | false =>
    have hgone := (h.ended (Session.isEnded_of_not_alive halive)).2.1
    cases hdown.symm.trans hgone

/-- The quota that is moved for a session: from the own account to that of its provider, or all of it back. -/
inductive Payment where
  | none
  | paid (q : Quota)
  | refunded

/-- The donation on record after a payment. -/
def Payment.record : Payment → Quota → Quota
  | .none, d => d
  | .paid q, d => d + q
  | .refunded, _ => 0

/-- What a payment to a provider can be: only children are paid. -/
def Payment.IsDonation (m : Payment) (p : Provider) : Prop := m = .none ∨ ∃ c n q, p = .child c n ∧ m = .paid q

/-- One change of a session, with the quota moved for it and what its requester is told. -/
inductive Transition : Slot → Payment → List Notice → Slot → Prop
  /-- A create that waits is refused: by the rules, by the own account or by a provider that answers at once. -/
  | refused {s : Session} {l : Label} {args : Args} {next : Phase} {a : Answer} {p : Option Provider} :
      s.phase = .createRequested → s.abandoned = false → Answer.ofCreateFailure? next = some a →
      Transition ⟨s, none⟩ .none [.answered a] ⟨{ s with label := l, args := args, phase := next }, p⟩
  /-- A create that waits is granted by a provider that answers at once. -/
  | granted {s : Session} {l : Label} {args : Args} {h : Handle} {d : Option ClientId} {p : Provider} :
      s.phase = .createRequested → s.abandoned = false → p.isAsync = false → (∀ n, p = .here n → d = none) →
      Transition ⟨s, none⟩ .none [.delivered h.cap]
        ⟨{ s with label := l, args := args, handle := some h, downstream := d, phase := .capHandedOut }, some p⟩
  /-- A create that waits is posted at a provider that answers later. -/
  | posted {s : Session} {l : Label} {args : Args} {d : ClientId} {m : Payment} {p : Provider} :
      s.phase = .createRequested → s.abandoned = false → p.isAsync = true → m.IsDonation p →
      Transition ⟨s, none⟩ m []
        ⟨{ s with label := l, args := args, downstream := some d, notify := true, donated := m.record s.donated },
          some p⟩
  /-- A provider delivers the capability of a create that was posted. -/
  | delivered {s : Session} {h : Handle} {p : Provider} :
      s.phase = .createRequested → s.abandoned = false →
      Transition ⟨s, some p⟩ .none [.delivered h.cap]
        ⟨{ s with notify := false, handle := some h, phase := .capHandedOut }, some p⟩
  /-- A provider refuses a create that was posted, or it goes away. -/
  | denied {s : Session} {notify : Bool} {next : Phase} {a : Answer} {p : Provider} :
      s.phase = .createRequested → s.abandoned = false → Answer.ofCreateFailure? next = some a →
      Transition ⟨s, some p⟩ .refunded [.answered a]
        ⟨{ s with notify := notify, handle := none, downstream := none, donated := 0, phase := next }, some p⟩
  /-- An upgrade is paid, and its provider is to apply it. -/
  | upgrading {s : Session} {q : Quota} {m : Payment} {p : Provider} :
      s.phase.isEstablished = true → p.isAsync = true → m.IsDonation p →
      Transition ⟨s, some p⟩ m []
        ⟨{ s with
            pendingUpgrade := s.pendingUpgrade + q
            donated := m.record s.donated
            phase := .upgradeRequested }, some p⟩
  /-- The pending upgrade was applied. -/
  | upgraded {s : Session} {p : Provider} :
      s.phase.isEstablished = true →
      Transition ⟨s, some p⟩ .none [.answered .sessionOk]
        ⟨{ s with pendingUpgrade := 0, phase := .capHandedOut }, some p⟩
  /-- The requester closes a session that its provider has to release first. -/
  | closing {s : Session} {p : Provider} :
      s.phase = .createRequested ∨ s.phase.isEstablished = true → p.isAsync = true →
      Transition ⟨s, some p⟩ .none []
        ⟨{ s with abandoned := s.abandoned || s.phase == .createRequested, phase := .closeRequested }, some p⟩
  /-- The requester closes a session whose create failed, and its provider may not try to release it. -/
  | stuck {s : Session} {p : Provider} :
      s.phase.isCreateFailure = true → p.isAsync = false →
      Transition ⟨s, some p⟩ .none [] ⟨{ s with phase := .closeRequested }, some p⟩
  /-- A session is closed. -/
  | closed {s : Session} {abandoned : Bool} {p : Option Provider} :
      s.isAlive = true →
      Transition ⟨s, p⟩ .refunded [.answered .sessionClosed]
        ⟨{ s with handle := none, downstream := none, donated := 0, abandoned := abandoned, phase := .closed }, p⟩

namespace Transition

variable {id : ServerId} {t t' : Slot} {m : Payment} {ns : List Notice}

/-- A session that was routed stays with its provider. -/
theorem provider_eq {p : Provider} (h : Transition t m ns t') (hp : t.provider = some p) : t'.provider = some p := by
  cases h <;> first | exact hp | cases hp

/-- A session that is refunded was routed before, or never. -/
theorem provider_eq_of_refunded (h : Transition t .refunded ns t') : t'.provider = t.provider := by
  cases h with
  | denied => rfl
  | closed => rfl
  | posted _ _ _ hm | upgrading _ _ hm => rcases hm with hm | ⟨_, _, _, _, hm⟩ <;> cases hm

/-- The donation on record changes with the payment. -/
theorem donated_eq (h : Transition t m ns t') : t'.session.donated = m.record t.session.donated := by
  cases h <;> rfl

/-- A provider that answers at once establishes a session when it is created, and not later. -/
theorem established_of_sync {p : Provider} (h : Transition t m ns t') (ht : t.Sound id) (hp : t.provider = some p)
    (hsync : p.isAsync = false) (h' : t'.session.phase.isEstablished = true) :
    t.session.phase.isEstablished = true := by
  have hphase := ht.sync p hp hsync
  cases h with
  | refused | granted | posted => cases hp
  | delivered h | denied h =>
    rw [show Session.phase _ = _ from h] at hphase
    rcases hphase with hphase | hphase | ⟨hphase, -⟩ <;> cases hphase
  | upgrading h | upgraded h => exact h
  | closing | stuck | closed => cases h'

/-- A session that was given up is closed by the first transition it makes. -/
theorem of_givenUp (h : Transition t m ns t') (ht : t.session.stage = .givenUp) :
    m = .refunded ∧ ns = [.answered .sessionClosed] ∧ t'.provider = t.provider ∧ ∃ abandoned,
      t'.session = { t.session with
        handle := none, downstream := none, donated := 0, abandoned := abandoned, phase := .closed } := by
  have hphase := Session.phase_of_givenUp ht
  cases h with
  | closed => exact ⟨rfl, rfl, rfl, _, rfl⟩
  | refused h | granted h | posted h | delivered h | denied h => cases hphase.symm.trans h
  | upgrading h | upgraded h | stuck h =>
    rw [show Session.phase _ = _ from hphase] at h
    cases h
  | closing h =>
    rw [show Session.phase _ = _ from hphase] at h
    rcases h with h | h <;> cases h

/-- A transition keeps a session sound. -/
theorem sound (h : Transition t m ns t') (ht : t.Sound id) : t'.Sound id := by
  have hid := ht.serverId
  have hhere := ht.here
  have hdonated := ht.donated
  cases h with
  | @refused s l args next a p hs hab hnext =>
    obtain ⟨hd, -⟩ := ht.unrouted rfl
    have hh := (ht.waiting hs).1
    cases next <;> cases hnext
    all_goals constructor <;> simp_all [Phase.isEnded, Phase.isCreateFailure, Phase.isEstablished]
  | granted hs hab hsync hhere =>
    constructor <;> simp_all [Phase.isEnded, Phase.isCreateFailure]
  | @posted s l args d m p hs hab hasync hm =>
    have hh := (ht.waiting hs).1
    have hnothere : ∀ n, p ≠ .here n := by rintro n rfl; cases hasync
    rcases hm with rfl | ⟨c, n, q, rfl, rfl⟩
    all_goals constructor <;> simp_all [Phase.isEnded, Phase.isCreateFailure, Phase.isEstablished, Payment.record]
  | @delivered s h p hs hab =>
    have hd := ht.async p rfl
    rw [hs] at hd
    constructor <;> simp_all [Phase.isEnded, Phase.isCreateFailure]
  | @denied s notify next a p hs hab hnext =>
    cases next <;> cases hnext
    all_goals constructor <;> simp_all [Phase.isEnded, Phase.isCreateFailure, Phase.isEstablished]
  | @upgrading s q m p hs hasync hm =>
    have hab := ht.not_abandoned hs
    have hh := ht.established hs
    have hd := ht.async p rfl hasync (Phase.isEnded_of_established hs)
    rcases hm with rfl | ⟨c, n, q, rfl, rfl⟩
    all_goals constructor <;> simp_all [Phase.isEnded, Phase.isCreateFailure, Payment.record]
  | @upgraded s p hs =>
    have hab := ht.not_abandoned hs
    have hh := ht.established hs
    have hd := fun hasync => ht.async p rfl hasync (Phase.isEnded_of_established hs)
    constructor <;> simp_all [Phase.isEnded, Phase.isCreateFailure]
  | @closing s p hs hasync =>
    have hlive : s.phase.isEnded = false := by
      rcases hs with hs | hs
      · rw [hs]; rfl
      · exact Phase.isEnded_of_established hs
    have hd := ht.async p rfl hasync hlive
    constructor <;> simp_all [Phase.isEnded, Phase.isCreateFailure, Phase.isEstablished]
  | @stuck s p hs hsync =>
    obtain ⟨hh, hd, hz⟩ := ht.ended (Phase.isEnded_iff.2 (.inr hs))
    constructor <;> simp_all [Phase.isEnded, Phase.isCreateFailure, Phase.isEstablished]
  | @closed s abandoned p halive =>
    constructor <;> simp_all [Phase.isEnded, Phase.isCreateFailure, Phase.isEstablished]

/-- What is said fits the stage of the session. -/
theorem talk (h : Transition t m ns t') (ht : t.Sound id) : Talk t.session.stage ns t'.session.stage := by
  cases h with
  | refused hs _ hnext =>
    exact .between (.refuse _ hnext (.silence _)) (Session.stage_of_waiting hs)
      (Session.stage_of_createFailure (Phase.isCreateFailure_of_answer hnext))
  | granted hs => exact .between (.deliver _ (.silence _)) (Session.stage_of_waiting hs) rfl
  | posted hs => exact .between (.silence _) (Session.stage_of_waiting hs) (Session.stage_of_waiting hs)
  | delivered hs => exact .between (.deliver _ (.silence _)) (Session.stage_of_waiting hs) rfl
  | denied hs _ hnext =>
    exact .between (.refuse _ hnext (.silence _)) (Session.stage_of_waiting hs)
      (Session.stage_of_createFailure (Phase.isCreateFailure_of_answer hnext))
  | upgrading hs => exact .between (.silence _) (Session.stage_of_established hs) rfl
  | upgraded hs => exact .between (.upgrade (.silence _)) (Session.stage_of_established hs) rfl
  | @closing s p hs =>
    rcases hs with hs | hs
    · exact .between (.giveUp (.silence _)) (Session.stage_of_waiting hs) (by simp [Session.stage, hs])
    · have hab : s.abandoned = false := ht.not_abandoned hs
      have hne : s.phase ≠ .createRequested := fun h => by rw [h] at hs; cases hs
      have hh : s.handle.isSome = true := ht.established hs
      exact .between (.silence _) (Session.stage_of_established hs) (by simp [Session.stage, hab, hne, hh])
  | @stuck s p hs =>
    have hh : s.handle = none := (ht.ended (Phase.isEnded_iff.2 (.inr hs))).1
    have hab : s.abandoned = false := by
      cases h : s.abandoned with
      | false => rfl
      | true => rcases ht.abandoned h with hp | hp <;> (rw [show s.phase = _ from hp] at hs; cases hs)
    exact .between (.silence _) (Session.stage_of_createFailure hs) (by simp [Session.stage, hab, hh])
  | @closed s abandoned p halive =>
    refine .between (.close ?_ (.silence _)) (rfl : s.stage = s.stage) rfl
    intro hover
    rw [Session.isAlive, Session.phase_of_over hover] at halive
    cases halive

end Transition

end SessionBroker
