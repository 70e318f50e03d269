import SessionBroker.Proofs.Correspondence

/-!
# SessionBroker.Proofs.Responding — what an answer of a provider makes of a session

* `Session.Responds s r s' n`: the rules by which answer `r` takes session `s` to `s'`, with what its requester is told.
* `Broker.responded`: the broker in which this has happened.
* `settle_eq_some_iff`: an answer is applied exactly if a rule fits, and as the rule says.
* `childAnswer_ok`, `childAnswer_of_responds`: the same for the answer of a child, which names a request.
-/

namespace SessionBroker

/-- The event by which the parent is told something about session `id`. -/
def Notice.event (id : ServerId) : Notice → Event
  | .delivered cap => .delivered id cap
  | .answered a => .answered id a

namespace Session

/-- A session of which nothing is left at its provider. -/
def released (s : Session) : Session := { s with handle := none, downstream := none, donated := 0, phase := .closed }

/-- A session whose create was refused by its provider. -/
def refused (s : Session) (p : Phase) : Session :=
  { s with notify := false, downstream := none, donated := 0, phase := p }

/-- What an answer makes of a session, and what the requester is told. -/
inductive Responds (s : Session) : Response → Session → Notice → Prop
  /-- Whatever is answered to a create that was given up, the session is closed. -/
  | givenUp {r : Response} :
      r.endsCreate = true → s.abandoned = true → s.isAlive = true → Responds s r s.released (.answered .sessionClosed)
  | delivered {cap : Capability} :
      s.phase = .createRequested → s.abandoned = false →
      Responds s (.deliver cap) { s with notify := false, handle := some ⟨cap, none⟩, phase := .capHandedOut }
        (.delivered cap)
  | refused {r : Response} {p : Phase} {a : Answer} :
      s.phase = .createRequested → s.abandoned = false → r.refusalPhase? = some p →
      Answer.ofCreateFailure? p = some a → Responds s r (s.refused p) (.answered a)
  | upgraded : s.phase = .upgradeRequested → Responds s .upgradeDone s.upgraded (.answered .sessionOk)
  | closed : s.isAlive = true → Responds s .closed s.released (.answered .sessionClosed)

variable {s s' : Session} {r : Response} {n : Notice}

/-- An answer that fits takes the session to another phase. -/
theorem Responds.phase_ne (h : s.Responds r s' n) : s'.phase ≠ s.phase := by
  cases h with
  | givenUp _ _ halive | closed halive =>
    intro hsame
    rw [isAlive, ← hsame] at halive
    cases halive
  | delivered hphase | upgraded hphase =>
    rw [hphase]
    exact Phase.noConfusion
  | refused hphase _ _ ha =>
    intro hsame
    have hfail : s.phase.isCreateFailure = true := by
      rw [← hsame]
      exact Phase.isCreateFailure_of_answer ha
    rw [hphase] at hfail
    cases hfail

end Session

namespace Broker

variable {b b' : Broker} {id : ServerId} {k : ChildKey} {p : Provider} {request : ClientId} {s s' : Session}
  {r : Response} {n : Notice}

/-- The broker after an answer took a session from `s` to `s'`.  If the session ended, its request is forgotten and its
donation is moved back. -/
def responded (b : Broker) (p : Provider) (id : ServerId) (s s' : Session) (n : Notice) : Broker :=
  { b with
    providers := if s'.phase.isEnded then (b.release p s).providers else b.providers
    sessions := b.sessions.modify id fun t => { t with session := s' }
    env := { b.env with
      bank := if s'.phase.isEnded then b.env.bank.tryPay (b.providers.account p) b.ownAccount s.donated else b.env.bank
      trace := b.env.trace ++ [n.event id] } }

theorem release_congr {u : Session} (h : u.downstream = s.downstream) : b.release p u = b.release p s := by
  unfold release
  rw [h]

theorem responded_of_ended (hended : s'.phase.isEnded = true) :
    b.responded p id s s' n =
      { b with
        providers := (b.release p s).providers
        sessions := b.sessions.modify id fun t => { t with session := s' }
        env := { b.env with
          bank := b.env.bank.tryPay (b.providers.account p) b.ownAccount s.donated
          trace := b.env.trace ++ [n.event id] } } := by
  unfold responded
  rw [if_pos hended, if_pos hended]

theorem responded_of_live (hlive : s'.phase.isEnded = false) :
    b.responded p id s s' n =
      { b with
        sessions := b.sessions.modify id fun t => { t with session := s' }
        env := { b.env with trace := b.env.trace ++ [n.event id] } } := by
  unfold responded
  rw [hlive]
  rfl

/-- Ending a session is one way to respond. -/
theorem finish_eq_responded {u : Session} {next : Phase} {a : Answer} (hdown : u.downstream = s.downstream)
    (hdonated : u.donated = s.donated) (hs' : { { u with downstream := none }.advance next with donated := 0 } = s')
    (hended : s'.phase.isEnded = true) : b.finish p id u next a = b.responded p id s s' (.answered a) := by
  subst hs'
  rw [finish_eq, responded_of_ended hended, release_congr hdown, hdonated]
  rfl

theorem finish_released {u : Session} (hdown : u.downstream = s.downstream) (hdonated : u.donated = s.donated)
    (hu : { u with downstream := none }.advance .closed =
      { s with handle := none, downstream := none, phase := .closed }) :
    b.finish p id u .closed .sessionClosed = b.responded p id s s.released (.answered .sessionClosed) := by
  refine finish_eq_responded hdown hdonated ?_ rfl
  rw [hu]
  rfl

theorem finish_refused {next : Phase} {a : Answer} (hphase : s.phase = .createRequested)
    (ha : Answer.ofCreateFailure? next = some a) :
    b.finish p id { s with notify := false } next a = b.responded p id s (s.refused next) (.answered a) := by
  have hfail := Phase.isCreateFailure_of_answer ha
  refine finish_eq_responded rfl rfl ?_ (Phase.isEnded_iff.2 (.inr hfail))
  have hadvance : { s with notify := false, downstream := none }.advance next =
      { s with notify := false, downstream := none, phase := next } := Session.advance_createFailure hphase hfail
  rw [hadvance]
  rfl

theorem handOut_responded (hphase : s.phase = .createRequested) (cap : Capability) :
    b.handOut id ({ s with notify := false, handle := some ⟨cap, none⟩ }.advance .available) =
      b.responded p id s { s with notify := false, handle := some ⟨cap, none⟩, phase := .capHandedOut }
        (.delivered cap) := by
  rw [responded_of_live rfl]
  simp [handOut, Session.cap?, setSession, Session.advance, Session.permits, hphase, Phase.canReach, Phase.next,
    Env.deliver, Env.record, Notice.event]

theorem confirm_responded (hphase : s.phase = .upgradeRequested) :
    (b.setSession id (s.confirmUpgrade.advance .capHandedOut)).answer id .sessionOk =
      b.responded p id s s.upgraded (.answered .sessionOk) := by
  rw [responded_of_live rfl, Session.settled_eq hphase]
  rfl

/-- A session that was given up is closed by an answer to its create. -/
theorem settle_givenUp (hr : r.endsCreate = true) (hab : s.abandoned = true) (halive : s.isAlive = true)
    (hclosing : s.phase = .closeRequested ∨ s.phase = .closed) :
    b.settle p id s r = some (b.responded p id s s.released (.answered .sessionClosed)) := by
  have hphase : s.phase = .closeRequested := by
    refine hclosing.resolve_right fun hclosed => ?_
    rw [Session.isAlive, hclosed] at halive
    cases halive
  have hfinish : b.finish p id { s with handle := none } .closed .sessionClosed =
      b.responded p id s s.released (.answered .sessionClosed) := finish_released rfl rfl (Session.closed_eq hphase)
  have hgiven : (r.endsCreate && s.abandoned && s.isAlive) = true := by rw [hr, hab, halive]; rfl
  unfold settle
  dsimp only
  rw [if_pos hgiven, hfinish]

/-- A session that is not closed is closed when its provider says so. -/
theorem settle_closed (halive : s.isAlive = true) :
    b.settle p id s .closed = some (b.responded p id s s.released (.answered .sessionClosed)) := by
  have hhandle : { s with handle := none }.isAlive = true := halive
  have hclosed := advance_closed_of_alive hhandle
  have hfinish : b.finish p id (if s.phase.canReach .closed then { s with handle := none }
      else { s with handle := none }.advance .closeRequested) .closed .sessionClosed =
      b.responded p id s s.released (.answered .sessionClosed) := by
    refine finish_released ?_ ?_ hclosed
    · split
      · rfl
      · exact Session.downstream_advance _ _
    · split
      · rfl
      · exact Session.donated_advance _ _
  simp only [settle, Response.endsCreate, halive, Bool.false_and, Bool.false_eq_true, if_false, if_true]
  rw [hfinish]

/-- Where a rule fits, the answer is applied as the rule says, if only a session that is being closed was given up. -/
theorem settle_of_closing
    (hclosing : r.endsCreate = true → s.abandoned = true → s.phase = .closeRequested ∨ s.phase = .closed)
    (h : s.Responds r s' n) : b.settle p id s r = some (b.responded p id s s' n) := by
  have hheld : s.abandoned = false → ¬(r.endsCreate && s.abandoned && s.isAlive) = true := by
    intro hab
    rw [hab]
    simp
  cases h with
  | givenUp hr hab halive => exact settle_givenUp hr hab halive (hclosing hr hab)
  | delivered hphase hab =>
    unfold settle
    dsimp only
    rw [if_neg (hheld hab), if_pos hphase, handOut_responded (p := p) hphase]
  | @refused _ next a hphase hab hr ha =>
    have hfinish : b.finish p id { s with notify := false } next a =
        b.responded p id s (s.refused next) (.answered a) := finish_refused hphase ha
    unfold settle
    dsimp only
    rw [if_neg (hheld hab)]
    cases r <;> cases hr <;> cases ha <;> exact (if_pos hphase).trans (congrArg some hfinish)
  | upgraded hphase =>
    have hlate : ¬(Response.upgradeDone.endsCreate && s.abandoned && s.isAlive) = true := Bool.false_ne_true
    unfold settle
    dsimp only
    rw [if_neg hlate, if_pos hphase, confirm_responded (p := p) hphase]
  | closed halive => exact settle_closed halive

/-- Where a rule fits, the answer is applied as the rule says. -/
theorem settle_of_responds (ht : Slot.Sound id ⟨s, some p⟩) (h : s.Responds r s' n) :
    b.settle p id s r = some (b.responded p id s s' n) :=
  settle_of_closing (fun _ => ht.abandoned) h

/-- An answer that is applied fits a rule. -/
theorem exists_responds (h : b.settle p id s r = some b') : ∃ s' n, s.Responds r s' n := by
  unfold settle at h
  simp only at h
  split at h
  · rename_i hgiven
    obtain ⟨⟨hr, hab⟩, halive⟩ : (r.endsCreate = true ∧ s.abandoned = true) ∧ s.isAlive = true := by
      simpa [Bool.and_eq_true] using hgiven
    exact ⟨_, _, .givenUp hr hab halive⟩
  · rename_i hgiven
    -- an answer to a create that is pending is one to a create that was not given up
    have hheld : r.endsCreate = true → s.phase = .createRequested → s.abandoned = false := by
      intro hr hphase
      have halive : s.isAlive = true := Session.isAlive_of_ne_closed (by rw [hphase]; decide)
      simpa [hr, halive] using hgiven
    cases r with
    | deliver cap =>
      obtain ⟨hphase, -⟩ := Option.ite_none_right_eq_some.1 h
      exact ⟨_, _, .delivered hphase (hheld rfl hphase)⟩
    | denied | insufficientRam | insufficientCaps =>
      obtain ⟨hphase, -⟩ := Option.ite_none_right_eq_some.1 h
      exact ⟨_, _, .refused hphase (hheld rfl hphase) rfl rfl⟩
    | upgradeDone =>
      obtain ⟨hphase, -⟩ := Option.ite_none_right_eq_some.1 h
      exact ⟨_, _, .upgraded hphase⟩
    | closed =>
      obtain ⟨halive, -⟩ := Option.ite_none_right_eq_some.1 h
      exact ⟨_, _, .closed halive⟩

/-- An answer is applied exactly if a rule fits, and as the rule says. -/
theorem settle_eq_some_iff (ht : Slot.Sound id ⟨s, some p⟩) :
    b.settle p id s r = some b' ↔ ∃ s' n, s.Responds r s' n ∧ b' = b.responded p id s s' n := by
  constructor
  · intro h
    obtain ⟨s', n, hr⟩ := exists_responds h
    have hsettle := settle_of_responds (b := b) ht hr
    exact ⟨s', n, hr, Option.some.inj (h.symm.trans hsettle)⟩
  · rintro ⟨s', n, hr, rfl⟩
    exact settle_of_responds ht hr

theorem find?_responded_self (hfound : b.sessions.find? id = some ⟨s, some p⟩) :
    (b.responded p id s s' n).sessions.find? id = some ⟨s', some p⟩ := by
  exact Table.find?_modify_of _ hfound

theorem find?_responded_of_ne {j : ServerId} (hj : j ≠ id) :
    (b.responded p id s s' n).sessions.find? j = b.sessions.find? j :=
  Table.find?_modify_of_ne _ _ hj

/-! ### Answers of children -/

/-- An answer of a child that fits keeps a broker sound. -/
theorem sound_responded (hb : b.Sound) (hfound : b.sessions.find? id = some ⟨s, some k.provider⟩)
    (hr : s.Responds r s' n) : (b.responded k.provider id s s' n).Sound := by
  have hsettle := settle_of_responds (b := b) (hb.slots id _ hfound) hr
  obtain ⟨t, t', m, ns, heffect⟩ := affects_settle hb hfound (holds_child hb hfound) hsettle
  exact heffect.sound hb

/-- The answer of a child to a request is the answer to the session that refers to it. -/
theorem childAnswer_of_refers (hb : b.Sound) (hfound : b.sessions.find? id = some ⟨s, some k.provider⟩)
    (hdown : s.downstream = some request) (r : Response) :
    b.childAnswer k request r =
      match b.settle k.provider id s r with
      | some b' => (.ok (), b'.sweep)
      | none => (.error (.protocol (.invalidState id.num s.phase)), b) := by
  have hrefers : b.Refers id k request := ⟨_, hfound, rfl, hdown⟩
  obtain ⟨c, hc⟩ := hrefers.exists_service hb
  have hlook : c.desk.lookup? request = some id := mem_posted_iff.1 ((posted_iff_refers hb hc).2 hrefers)
  have hsession : b.session? id = some s := by
    unfold session?
    rw [hfound]
    rfl
  simp only [childAnswer, hc, hlook, applyResponse, hsession]
  cases b.settle k.provider id s r <;> rfl

/-- A child whose answer fits the session is heard. -/
theorem childAnswer_of_responds (hb : b.Sound) (hfound : b.sessions.find? id = some ⟨s, some k.provider⟩)
    (hdown : s.downstream = some request) (hr : s.Responds r s' n) :
    b.childAnswer k request r = (.ok (), (b.responded k.provider id s s' n).sweep) := by
  rw [childAnswer_of_refers hb hfound hdown, settle_of_responds (hb.slots id _ hfound) hr]

/-- A child that is heard answered the session that refers to the request. -/
theorem childAnswer_ok (hb : b.Sound) (h : (b.childAnswer k request r).1 = .ok ()) :
    ∃ id s s' n, b.sessions.find? id = some ⟨s, some k.provider⟩ ∧ s.downstream = some request ∧ s.Responds r s' n ∧
      (b.childAnswer k request r).2 = (b.responded k.provider id s s' n).sweep := by
  have hposted : ∃ id, b.Refers id k request := by
    rcases childAnswer_taken b k request r with ⟨e, heq⟩ | ⟨id, hid, -⟩
    · rw [heq] at h
      cases h
    · exact ⟨id, hb.posted k.provider request id hid⟩
  obtain ⟨id, ⟨s, provider⟩, hfound, hp, hdown⟩ := hposted
  obtain rfl : provider = some k.provider := hp
  have heq := childAnswer_of_refers hb hfound hdown r
  cases hsettle : b.settle k.provider id s r with
  | none =>
    rw [heq, hsettle] at h
    cases h
  | some b' =>
    obtain ⟨s', n, hr, rfl⟩ := (settle_eq_some_iff (hb.slots id _ hfound)).1 hsettle
    exact ⟨id, s, s', n, hfound, hdown, hr, by rw [heq, hsettle]⟩

/-- A child that is not heard changes nothing. -/
theorem childAnswer_error {e : Error} (h : (b.childAnswer k request r).1 = .error e) :
    (b.childAnswer k request r).2 = b := by
  rcases childAnswer_taken b k request r with ⟨e', heq⟩ | ⟨id, -, heq⟩
  · rw [heq]
  · rw [heq] at h
    cases h

end Broker

end SessionBroker
