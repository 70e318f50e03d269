import SessionBroker.Proofs.AnyFactories
import SessionBroker.Proofs.LocalObjects

/-!
# SessionBroker.Proofs.LocalTurns — the turns of a session at a service over some factory

* `Deed`, `Doing`: what a factory is asked to do, and for which place of the registry.
* `FactoryService.Serves`: what a session's turn does with the registry and the factory, case by case;
  `serves_initiate`: every turn is one of these.
* `Session.concedes`: what callers may do to a session between its turns.  They neither touch the handle nor close a
  session that has one, so such a session waits for its next turn (`perform_handle`, `perform_phase`).
-/

namespace SessionBroker

/-! ### One turn of a session -/

/-- What a factory did with an object. -/
inductive Deed (O : Type) where
  | create (o : O)
  /-- The object was given to the factory as `o`, and left as `o'`. -/
  | upgrade (o : O) (args : Args) (o' : O)
  | destroy (o : O)

def Deed.creates {O : Type} : Deed O → Bool
  | .create _ => true
  | _ => false

def Deed.destroys {O : Type} : Deed O → Bool
  | .destroy _ => true
  | _ => false

/-- What a factory did with the object in a place of the registry. -/
structure Doing (O : Type) where
  slot : Word
  deed : Deed O

namespace FactoryService

variable {F O : Type} {l : FactoryService F O} {s : Session} {env : Env} {slot : Word} {o : O}

theorem shelved?_eq_some : l.shelved? s = some (slot, o) ↔ s.place? = some slot ∧ l.objects.find? slot = some o := by
  unfold shelved?
  rw [Option.bind_eq_some_iff]
  constructor
  · rintro ⟨a, ha, hmap⟩
    obtain ⟨o', ho', heq⟩ := Option.map_eq_some_iff.1 hmap
    obtain ⟨rfl, rfl⟩ := Prod.mk.inj heq
    exact ⟨ha, ho'⟩
  · rintro ⟨ha, ho⟩
    exact ⟨slot, ha, Option.map_eq_some_iff.2 ⟨o, ho, rfl⟩⟩

/-- What the factory does in the turn of a session. -/
def doing? (l : FactoryService F O) (s : Session) (env : Env) : Option (Doing O) :=
  match s.phase with
  | .createRequested =>
    match (l.hooks.create l.factory s.args s.affinity env).1 with
    | .ok o => some ⟨l.nextSlot, .create o⟩
    | .error _ => none
  | .upgradeRequested => (l.shelved? s).map fun (slot, o) =>
    ⟨slot, .upgrade o s.upgradeArgs (l.hooks.upgrade l.factory o s.upgradeArgs env).1⟩
  | .closeRequested => (l.shelved? s).map fun (slot, o) => ⟨slot, .destroy o⟩
  | _ => none

/-- What the turn of a session leads to, and what the factory does in it. -/
inductive Serves (l : FactoryService F O) (s : Session) (env : Env) :
    Option (Doing O) → Outcome (FactoryService F O) → Prop
  | created {o : O} {f : F} {env' : Env} (hphase : s.phase = .createRequested)
      (hmade : l.hooks.create l.factory s.args s.affinity env = (.ok o, f, env')) :
      Serves l s env (some ⟨l.nextSlot, .create o⟩)
        { service := { l with factory := f, objects := l.objects.insert l.nextSlot o, made := l.made + 1 }
          session := { s with phase := .available, handle := some ⟨l.hooks.cap o, some l.nextSlot⟩ }
          env := env' }
  /-- The create failed, or it is left for another try. -/
  | refused {e : SessionError} {f : F} {env' : Env} {error : Option SessionError} {phase : Phase}
      (hphase : s.phase = .createRequested)
      (hfailed : l.hooks.create l.factory s.args s.affinity env = (.error e, f, env'))
      (hend : e.terminalPhase? = some phase ∧ error = none ∨
        e.terminalPhase? = none ∧ error = some e ∧ phase = .createRequested) :
      Serves l s env none { error, service := { l with factory := f }, session := { s with phase }, env := env' }
  | upgraded {slot : Word} {o o' : O} {f : F} {env' : Env} (hphase : s.phase = .upgradeRequested)
      (hplace : s.place? = some slot) (hfound : l.objects.find? slot = some o)
      (hgrown : l.hooks.upgrade l.factory o s.upgradeArgs env = (o', f, env')) :
      Serves l s env (some ⟨slot, .upgrade o s.upgradeArgs o'⟩)
        { service := { l with factory := f, objects := l.objects.insert slot o' }
          session := { s with pendingUpgrade := 0, phase := .capHandedOut }
          env := env' }
  | settled (hphase : s.phase = .upgradeRequested) (hnone : l.shelved? s = none) :
      Serves l s env none
        { service := l, session := { s with pendingUpgrade := 0, phase := .capHandedOut }, env }
  | destroyed {slot : Word} {o : O} {f : F} {env' : Env} (hphase : s.phase = .closeRequested)
      (hplace : s.place? = some slot) (hfound : l.objects.find? slot = some o)
      (hgone : l.hooks.destroy l.factory o env = (f, env')) :
      Serves l s env (some ⟨slot, .destroy o⟩)
        { service := { l with factory := f, objects := l.objects.erase slot }
          session := { s with phase := .closed, handle := none }
          env := env' }
  | closed (hphase : s.phase = .closeRequested) (hnone : l.shelved? s = none) :
      Serves l s env none { service := l, session := { s with phase := .closed, handle := none }, env }
  /-- Nothing is due. -/
  | idle (hcreate : s.phase ≠ .createRequested) (hupgrade : s.phase ≠ .upgradeRequested)
      (hclose : s.phase ≠ .closeRequested) : Serves l s env none { service := l, session := s, env }

theorem serves_create (hphase : s.phase = .createRequested) : l.Serves s env (l.doing? s env) (l.create s env) := by
  have hdoing : l.doing? s env = match (l.hooks.create l.factory s.args s.affinity env).1 with
      | .ok o => some ⟨l.nextSlot, .create o⟩
      | .error _ => none := by
    unfold doing?
    rw [hphase]
  rw [hdoing]
  unfold create
  obtain ⟨result, f, env', hresult⟩ : ∃ result f env',
    l.hooks.create l.factory s.args s.affinity env = (result, f, env') := ⟨_, _, _, rfl⟩
  rw [hresult]
  cases result with
  | ok o =>
    have hsession : ({ s with handle := some ⟨l.hooks.cap o, some l.nextSlot⟩ } : Session).advance .available =
        { s with phase := .available, handle := some ⟨l.hooks.cap o, some l.nextSlot⟩ } := by
      simp [Session.advance, Session.permits, hphase, Phase.canReach, Phase.next]
    dsimp only
    rw [hsession]
    exact .created hphase hresult
  | error e =>
    dsimp only
    cases hterminal : e.terminalPhase? with
    | some phase =>
      dsimp only
      rw [Session.advance_createFailure hphase (SessionError.isCreateFailure_of_terminalPhase hterminal)]
      exact .refused hphase hresult (.inl ⟨hterminal, rfl⟩)
    | none =>
      have hopen : e.terminalPhase? = none ∧ some e = some e ∧ Phase.createRequested = .createRequested :=
        ⟨hterminal, rfl, rfl⟩
      have hserves := Serves.refused hphase hresult (.inr hopen)
      rw [← hphase] at hserves
      exact hserves

theorem serves_upgrade (hphase : s.phase = .upgradeRequested) : l.Serves s env (l.doing? s env) (l.upgrade s env) := by
  have hdoing : l.doing? s env = (l.shelved? s).map fun (slot, o) =>
      ⟨slot, .upgrade o s.upgradeArgs (l.hooks.upgrade l.factory o s.upgradeArgs env).1⟩ := by
    unfold doing?
    rw [hphase]
  have hsession : s.confirmUpgrade.advance .capHandedOut =
      { s with pendingUpgrade := 0, phase := .capHandedOut } := by
    simp [Session.confirmUpgrade, Session.advance, Session.permits, hphase, Phase.canReach, Phase.next]
  rw [hdoing]
  unfold upgrade
  dsimp only
  rw [hsession]
  cases hshelved : l.shelved? s with
  | none => exact .settled hphase hshelved
  | some p =>
    obtain ⟨hplace, hfound⟩ := shelved?_eq_some.1 hshelved
    exact .upgraded hphase hplace hfound rfl

theorem serves_close (hphase : s.phase = .closeRequested) : l.Serves s env (l.doing? s env) (l.close s env) := by
  have hdoing : l.doing? s env = (l.shelved? s).map fun (slot, o) => ⟨slot, .destroy o⟩ := by
    unfold doing?
    rw [hphase]
  have hsession : ({ s with handle := none } : Session).advance .closed =
      { s with phase := .closed, handle := none } := by
    simp [Session.advance, Session.permits, hphase, Phase.canReach, Phase.next]
  rw [hdoing]
  unfold close
  dsimp only
  rw [hsession]
  cases hshelved : l.shelved? s with
  | none => exact .closed hphase hshelved
  | some p =>
    obtain ⟨hplace, hfound⟩ := shelved?_eq_some.1 hshelved
    exact .destroyed hphase hplace hfound rfl

/-- Every turn of a session is one of these. -/
theorem serves_initiate (l : FactoryService F O) (s : Session) (env : Env) :
    l.Serves s env (l.doing? s env) (l.initiate s env) := by
  have hidle : s.phase ≠ .createRequested → s.phase ≠ .upgradeRequested → s.phase ≠ .closeRequested →
      l.doing? s env = none → l.initiate s env = { service := l, session := s, env } →
      l.Serves s env (l.doing? s env) (l.initiate s env) := by
    intro hcreate hupgrade hclose hdoing hinitiate
    rw [hdoing, hinitiate]
    exact .idle hcreate hupgrade hclose
  cases hphase : s.phase with
  | createRequested =>
    rw [show l.initiate s env = l.create s env by simp [initiate, hphase]]
    exact serves_create hphase
  | upgradeRequested =>
    rw [show l.initiate s env = l.upgrade s env by simp [initiate, hphase]]
    exact serves_upgrade hphase
  | closeRequested =>
    rw [show l.initiate s env = l.close s env by simp [initiate, hphase]]
    exact serves_close hphase
  | available | capHandedOut | closed | serviceDenied | insufficientRam | insufficientCaps =>
    refine hidle ?_ ?_ ?_ ?_ ?_ <;> simp [hphase, doing?, initiate]

end FactoryService

/-! ### Sessions between their turns -/

namespace Session

variable {s : Session} {a : Act}

/-- What the callers of a service may do to a session between its turns: anything but touch the handle, or close a
session that has one.  Only a session that was established goes back from an upgrade. -/
def concedes (s : Session) : Act → Bool
  | .setHandle _ | .takeHandle => false
  | .advance .closed => s.handle.isNone
  | .revertUpgrade _ previous => previous.isEstablished
  | _ => true

theorem phase_advance_cases (s : Session) (p : Phase) :
    (s.advance p).phase = s.phase ∨ s.phase.canReach p = true ∧ (s.advance p).phase = p := by
  cases hpermits : s.permits p with
  | false => exact .inl (by rw [advance_of_not_permits hpermits])
  | true =>
    have hphase := phase_advance_of_permits hpermits
    rcases Bool.or_eq_true_iff.1 hpermits with hsame | hreach
    · exact .inl (hphase.trans (beq_iff_eq.1 hsame).symm)
    · exact .inr ⟨hreach, hphase⟩

theorem handle_requestUpgrade (s : Session) (q : Quota) : (s.requestUpgrade q).handle = s.handle := by
  unfold requestUpgrade
  split
  · exact s.handle_advance _
  · rfl

theorem phase_requestUpgrade_cases (s : Session) (q : Quota) : (s.requestUpgrade q).phase = s.phase ∨
    s.phase.canReach .upgradeRequested = true ∧ (s.requestUpgrade q).phase = .upgradeRequested := by
  unfold requestUpgrade
  split
  · exact s.phase_advance_cases .upgradeRequested
  · exact .inl rfl

/-- A session that is closed stays closed. -/
theorem perform_closed (hclosed : s.phase = .closed) (a : Act) : (s.perform a).phase = .closed := by
  have hend : ∀ p, Phase.closed.canReach p ≠ true := fun p => by cases p <;> decide
  cases a with
  | advance next =>
    rcases s.phase_advance_cases next with hsame | ⟨hreach, -⟩
    · exact hsame.trans hclosed
    · rw [hclosed] at hreach
      exact absurd hreach (hend _)
  | requestUpgrade q =>
    rcases s.phase_requestUpgrade_cases q with hsame | ⟨hreach, -⟩
    · exact hsame.trans hclosed
    · rw [hclosed] at hreach
      exact absurd hreach (hend _)
  | revertUpgrade q previous =>
    show (s.revertUpgrade q previous).phase = .closed
    simp [revertUpgrade, hclosed]
  | relabel | setHandle | takeHandle | setServerId | setDownstream | takeDownstream | confirmUpgrade | donate
  | takeDonated | setNotify | abandon => exact hclosed

theorem perform_handle (h : s.concedes a = true) : (s.perform a).handle = s.handle := by
  cases a with
  | setHandle | takeHandle => cases h
  | advance next => exact s.handle_advance next
  | requestUpgrade q => exact s.handle_requestUpgrade q
  | revertUpgrade q previous =>
    show (s.revertUpgrade q previous).handle = s.handle
    unfold revertUpgrade
    split <;> rfl
  | relabel | setServerId | setDownstream | takeDownstream | confirmUpgrade | donate | takeDonated | setNotify
  | abandon => rfl

/-- A session with a handle is neither closed nor created again. -/
theorem perform_phase (h : s.concedes a = true) (hhandle : s.handle ≠ none) (hcreated : s.phase ≠ .createRequested)
    (hclosed : s.phase ≠ .closed) :
    (s.perform a).phase ≠ .createRequested ∧ (s.perform a).phase ≠ .closed := by
  have hnever : ∀ p : Phase, p.canReach .createRequested ≠ true := fun p => by cases p <;> decide
  cases a with
  | advance next =>
    rcases s.phase_advance_cases next with hsame | ⟨hreach, hnext⟩
    · rw [show (s.perform (.advance next)).phase = s.phase from hsame]
      exact ⟨hcreated, hclosed⟩
    · rw [show (s.perform (.advance next)).phase = next from hnext]
      refine ⟨?_, ?_⟩
      · rintro rfl
        exact hnever _ hreach
      · rintro rfl
        exact hhandle (Option.isNone_iff_eq_none.1 h)
  | requestUpgrade q =>
    rcases s.phase_requestUpgrade_cases q with hsame | ⟨-, hnext⟩
    · rw [show (s.perform (.requestUpgrade q)).phase = s.phase from hsame]
      exact ⟨hcreated, hclosed⟩
    · rw [show (s.perform (.requestUpgrade q)).phase = .upgradeRequested from hnext]
      exact ⟨Phase.noConfusion, Phase.noConfusion⟩
  | revertUpgrade q previous =>
    show (s.revertUpgrade q previous).phase ≠ _ ∧ (s.revertUpgrade q previous).phase ≠ _
    unfold revertUpgrade
    split
    · have hprevious : previous.isEstablished = true := h
      constructor <;> (rintro rfl; cases hprevious)
    · exact ⟨hcreated, hclosed⟩
  | setHandle | takeHandle => cases h
  | relabel | setServerId | setDownstream | takeDownstream | confirmUpgrade | donate | takeDonated | setNotify
  | abandon => exact ⟨hcreated, hclosed⟩

end Session

end SessionBroker
