import SessionBroker.Proofs.ChildRequests

/-!
# SessionBroker.Proofs.Upgrading — upgrades of the sessions of children

* `Reaches.nothingPending`: a session that waits for its create, or whose capability is handed out, has no upgrade
  pending.
* `upgrade_child`: an upgrade of a session of a child is refused and changes nothing, or it is added to what is pending.
* `Broker.shownUpgrade?`: the delta in the upgrade entry that a child is shown for a request.
* `shownUpgrade?_eq`: it is all that is pending.
-/

namespace SessionBroker

/-- Whether a session in the phase waits for its create, or its capability is handed out. -/
def Phase.isSettled : Phase → Bool
  | .createRequested | .capHandedOut => true
  | _ => false

/-- A session that comes to a settled phase has no upgrade pending. -/
theorem Transition.pendingUpgrade_eq_zero {t t' : Slot} {m : Payment} {ns : List Notice} (h : Transition t m ns t')
    (ht : t.session.phase.isSettled = true → t.session.pendingUpgrade = 0)
    (hphase : t'.session.phase.isSettled = true) : t'.session.pendingUpgrade = 0 := by
  cases h with
  | refused hcreate | granted hcreate | posted hcreate | delivered hcreate | denied hcreate =>
    exact ht (by rw [hcreate]; rfl)
  | upgraded => rfl
  | upgrading | closing | stuck | closed => cases hphase

/-- The delta in a request, if it asks for an upgrade of the session of the given request. -/
def Request.upgradeOf? (e : Request) (service : String) (id : ClientId) : Option Quota :=
  match e.kind with
  | .upgrade d => if e.service = service ∧ e.id = id then some d else none
  | _ => none

namespace Broker

variable {b b' : Broker} {id : ServerId} {k : ChildKey} {request : ClientId} {s : Session} {p : Provider} {q : Quota}

/-! ### Sessions without a pending upgrade -/

/-- No settled session has an upgrade pending. -/
def NothingPending (b : Broker) : Prop :=
  ∀ id t, b.sessions.find? id = some t → t.session.phase.isSettled = true → t.session.pendingUpgrade = 0

theorem Change.nothingPending {new : ServerId → Prop} (h : Change new b b') (hI : b.NothingPending) :
    b'.NothingPending := fun id _ hfound =>
  h.slot (P := fun t => t.session.phase.isSettled = true → t.session.pendingUpgrade = 0)
    (fun _ _ _ _ htransition ht => htransition.pendingUpgrade_eq_zero ht) (fun _ _ hs _ => hs.pendingUpgrade) (hI id)
    hfound

/-- In every state that is reached, no settled session has an upgrade pending. -/
theorem Reaches.nothingPending {around : Env → Env → Prop} {allowed : Broker → Op → Prop} {env : Env}
    {config : RuntimeConfig} (h : Reaches around allowed (start env config) b) : b.NothingPending := by
  have hstart : (start env config).NothingPending := fun _ _ hfound => by cases hfound
  exact (h.invariant (fun _ => True) (sound_start env config) hstart (fun _ _ _ _ _ => trivial)
    (fun _ _ _ hI hchange => hchange.nothingPending hI) fun _ _ hI _ => hI).2

/-! ### Upgrades by the parent -/

/-- An upgrade of a session of a child is refused and changes nothing, or the session is established and the delta is
added to what is pending. -/
theorem upgrade_child (hb : b.Sound) (hfound : b.sessions.find? id = some ⟨s, some k.provider⟩) (q : Quota) :
    ((b.upgrade id q).1.isOk = false ∧ (b.upgrade id q).2 = b) ∨
      ((b.upgrade id q).1.isOk = true ∧ s.phase.isEstablished = true ∧ ∃ d,
        (b.upgrade id q).2.sessions.find? id =
          some ⟨{ s with pendingUpgrade := s.pendingUpgrade + q, donated := d, phase := .upgradeRequested },
            some k.provider⟩) := by
  unfold upgrade
  rw [hfound]
  simp only
  split
  · exact .inl ⟨rfl, rfl⟩
  · split
    · rename_i hready
      have hest := (Bool.and_eq_true_iff.1 hready).1
      refine (initiateUpgrade_async hb hest q rfl).imp_right ?_
      rintro ⟨m, bank, providers, -, -, -, heq⟩
      rw [heq]
      refine ⟨rfl, hest, m.record s.donated, ?_⟩
      exact Table.find?_modify_of _ hfound
    · exact .inl ⟨rfl, rfl⟩

/-! ### Upgrades that a child is shown -/

/-- The delta in the upgrade entry that a child is shown for a request, if there is one. -/
def shownUpgrade? (b : Broker) (k : ChildKey) (request : ClientId) : Option Quota :=
  (b.childRequests k.child).findSome? fun q => q.upgradeOf? k.service request

/-- An upgrade entry for the request of a session shows all that is pending. -/
theorem eq_pendingUpgrade_of_shown (hb : b.Sound) (hfound : b.sessions.find? id = some ⟨s, some k.provider⟩)
    (hdown : s.downstream = some request) {e : Request} (he : e ∈ b.childRequests k.child)
    (hshown : e.upgradeOf? k.service request = some q) : s.phase = .upgradeRequested ∧ q = s.pendingUpgrade := by
  obtain ⟨service, i, kind⟩ := e
  obtain ⟨j, t, ht, htdown, hdue⟩ := (mem_childRequests_iff hb).1 he
  unfold Request.upgradeOf? at hshown
  cases kind with
  | upgrade d =>
    obtain ⟨⟨rfl, rfl⟩, heq⟩ := Option.ite_none_right_eq_some.1 hshown
    obtain rfl := Option.some.inj heq
    have hrefers : b.Refers j k i := ⟨_, ht, rfl, htdown⟩
    obtain rfl := hrefers.unique hb ⟨_, hfound, rfl, hdown⟩
    obtain ⟨rfl, -⟩ := Slot.mk.inj (Option.some.inj (ht.symm.trans hfound))
    unfold Session.due? at hdue
    split at hdue
    · cases hdue
    · rename_i hphase
      exact ⟨hphase, (RequestKind.upgrade.inj (Option.some.inj hdue)).symm⟩
    · cases hdue
    · cases hdue
  | create | close => cases hshown

/-- A child is shown an upgrade of a session while one is pending, and it is shown all of it. -/
theorem shownUpgrade?_eq (hb : b.Sound) (hfound : b.sessions.find? id = some ⟨s, some k.provider⟩)
    (hdown : s.downstream = some request) :
    b.shownUpgrade? k request = if s.phase = .upgradeRequested then some s.pendingUpgrade else none := by
  unfold shownUpgrade?
  cases hshown : (b.childRequests k.child).findSome? fun e => e.upgradeOf? k.service request with
  | some d =>
    obtain ⟨e, he, heq⟩ := List.exists_of_findSome?_eq_some hshown
    obtain ⟨hphase, rfl⟩ := eq_pendingUpgrade_of_shown hb hfound hdown he heq
    rw [if_pos hphase]
  | none =>
    refine (if_neg fun hphase => ?_).symm
    have hawaits : b.Awaits id k.child ⟨k.service, request, .upgrade s.pendingUpgrade⟩ := by
      refine ⟨s, hfound, hdown, ?_⟩
      unfold Session.due?
      rw [hphase]
    have hlisted := (mem_childRequests_iff hb).2 ⟨id, hawaits⟩
    have hnone := List.findSome?_eq_none_iff.1 hshown _ hlisted
    simp [Request.upgradeOf?] at hnone

end Broker

end SessionBroker
