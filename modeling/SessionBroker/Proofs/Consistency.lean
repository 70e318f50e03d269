import SessionBroker.Proofs.Histories

/-!
# SessionBroker.Proofs.Consistency — the session table stays consistent

* `sessions_consistent`: in every state that a broker with built-in services reaches, the fields of every session fit
  its phase, a create that is pending was not given up, and nothing is held for a session that is over.
-/

namespace SessionBroker

/-- The fields of a sound session fit its phase. -/
theorem Slot.Sound.isConsistent {id : ServerId} {t : Slot} (h : t.Sound id) : t.session.isConsistent = true := by
  have hended := h.ended
  unfold Session.isConsistent
  cases hp : t.session.phase with
  | createRequested => simp [(h.waiting hp).1]
  | available | capHandedOut | upgradeRequested => exact h.established (by rw [hp]; rfl)
  | closeRequested => rfl
  | closed | serviceDenied | insufficientRam | insufficientCaps =>
    obtain ⟨hhandle, hdown, -⟩ := hended (by rw [hp]; rfl)
    simp [hhandle, hdown]

namespace Broker

variable {env : Env} {config : RuntimeConfig} {b : Broker}

/-- In every state that is reached, whatever the parent and its surroundings do, every session is consistent, no
session in `createRequested` is abandoned, and a session that is closed or whose create failed has no donation, no
handle and no downstream id. -/
theorem sessions_consistent (h : Reaches (fun _ _ => True) (fun _ _ => True) (start env config) b) {id : ServerId}
    {s : Session} (hs : b.session? id = some s) :
    s.isConsistent = true ∧ (s.phase = .createRequested → s.abandoned = false) ∧
      (s.phase = .closed ∨ s.phase.isCreateFailure = true →
        s.donated = 0 ∧ s.handle = none ∧ s.downstream = none) := by
  obtain ⟨t, ht, rfl⟩ := Option.map_eq_some_iff.1 hs
  have hsound := (h.sound (sound_start env config)).slots id t ht
  refine ⟨hsound.isConsistent, fun hphase => (hsound.waiting hphase).2, fun hphase => ?_⟩
  obtain ⟨hhandle, hdown, hdonated⟩ := hsound.ended (Phase.isEnded_iff.2 hphase)
  exact ⟨hdonated, hhandle, hdown⟩

/-- The one session of a broker whose child has not answered is consistent. -/
theorem session_consistent_requestedOnce : ∃ s, requestedOnce.session? ⟨1⟩ = some s ∧ s.phase = .createRequested ∧
    s.isConsistent = true ∧ s.abandoned = false := by
  obtain ⟨s, hs, hphase⟩ : ∃ s, requestedOnce.session? ⟨1⟩ = some s ∧ s.phase = .createRequested := ⟨_, rfl, rfl⟩
  obtain ⟨hconsistent, hwaiting, -⟩ := sessions_consistent reaches_requestedOnce hs
  exact ⟨s, hs, hphase, hconsistent, hwaiting hphase⟩

end Broker

end SessionBroker
