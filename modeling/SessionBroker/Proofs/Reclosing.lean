import SessionBroker.Proofs.AnyServices
import SessionBroker.Proofs.LocalTurns

/-!
# SessionBroker.Proofs.Reclosing — closing a session again

A session whose close was begun can only become closed, whatever its provider is and whatever happens to the broker.  So
closing it again finds nothing to do.

* `Session.Shut`: the close of a session was begun.  No service gets the session out of it (`Registry.shut_initiate?`).
* `Slot.Closable`: a session that was routed nowhere may be closed at once.
* `Broker.Follows b b' id`: the session stored under an id is the one that was stored there, and it is still shut if it
  was.  Every operation that does not start a session there is such a step (`follows_step`).
* `close_idempotent`: after a close that is taken, closes change nothing for as long as the session is there.
-/

namespace SessionBroker

/-- The only way on from a close that was begun is to be closed. -/
theorem Phase.eq_closed_of_canReach {p q : Phase} (hp : p = .closeRequested ∨ p = .closed) (h : p.canReach q = true) :
    q = .closed := by
  rcases hp with rfl | rfl
  · simpa [canReach, next] using h
  · simp [canReach, next] at h

namespace Session

variable {s s' : Session}

/-- Whether the close of a session was begun. -/
def Shut (s : Session) : Prop := s.phase = .closeRequested ∨ s.phase = .closed

instance (s : Session) : Decidable s.Shut := inferInstanceAs (Decidable (_ ∨ _))

namespace Shut

theorem of_phase (h : s.Shut) (hphase : s'.phase = s.phase) : s'.Shut := by
  unfold Shut
  rw [hphase]
  exact h

theorem advance (h : s.Shut) (next : Phase) : (s.advance next).Shut := by
  rcases s.phase_advance_cases next with hsame | ⟨hreach, hnext⟩
  · exact h.of_phase hsame
  · exact .inr (hnext.trans (Phase.eq_closed_of_canReach h hreach))

/-- A session whose close was begun may be closed. -/
theorem permits_closed (h : s.Shut) : s.permits .closed = true := by
  unfold permits
  rcases h with hphase | hphase <;> (rw [hphase]; rfl)

theorem not_established (h : s.Shut) : s.phase.isEstablished = false := by
  rcases h with hphase | hphase <;> (rw [hphase]; rfl)

theorem ne_createRequested (h : s.Shut) : s.phase ≠ .createRequested := by
  rcases h with hphase | hphase <;> (rw [hphase]; exact Phase.noConfusion)

theorem ne_upgradeRequested (h : s.Shut) : s.phase ≠ .upgradeRequested := by
  rcases h with hphase | hphase <;> (rw [hphase]; exact Phase.noConfusion)

/-- Nothing that a session allows gets it out of a close that was begun. -/
theorem perform (h : s.Shut) (a : Act) : (s.perform a).Shut := by
  cases a with
  | advance next => exact h.advance next
  | requestUpgrade q =>
    rcases s.phase_requestUpgrade_cases q with hsame | ⟨hreach, -⟩
    · exact h.of_phase hsame
    · cases Phase.eq_closed_of_canReach h hreach
  | revertUpgrade q previous =>
    have hsame : s.perform (.revertUpgrade q previous) = s := if_neg h.ne_upgradeRequested
    rw [hsame]
    exact h
  | relabel | setHandle | takeHandle | setServerId | setDownstream | takeDownstream | confirmUpgrade | donate
  | takeDonated | setNotify | abandon => exact h

end Shut

end Session

/-! ### Services -/

variable {s : Session}

/-- A service with a behaviour of its own does what the session allows. -/
theorem CustomService.shut_initiate (c : CustomService) (h : s.Shut) (env : Env) : (c.initiate s env).session.Shut := by
  have hstep : ∀ (st : CustomStep) (s : Session) (env : Env), s.Shut → (step c.name s env st).1.Shut := by
    intro st s env h
    cases st with
    | note | mint slot => exact h
    | act a => exact h.perform a
  have hsteps : ∀ (l : List CustomStep) (s : Session) (env : Env), s.Shut →
      (l.foldl (fun r st => step c.name r.1 r.2 st) (s, env)).1.Shut := by
    intro l
    induction l with
    | nil => exact fun _ _ h => h
    | cons st l ih => exact fun s env h => ih _ _ (hstep st s env h)
  exact hsteps _ s env h

theorem LocalService.shut_initiate (l : LocalService) (h : s.Shut) (env : Env) : (l.initiate s env).session.Shut := by
  have hsettled : ({ s with handle := none }.advance .closed).Shut := (h.perform .takeHandle).advance .closed
  unfold initiate
  split
  · rename_i hphase
    exact absurd hphase h.ne_createRequested
  · rename_i hphase
    exact absurd hphase h.ne_upgradeRequested
  · unfold close
    dsimp only
    split
    · exact hsettled
    · split
      · exact hsettled
      · exact hsettled
  · exact h

namespace ParentService

/-- Forwarding a close never fails. -/
theorem forward_of_shut (p : ParentService) (h : s.Shut) (env : Env) :
    (p.forward s env).1 = none ∧ (p.forward s env).2.1.Shut := by
  unfold forward
  split
  · rename_i hphase
    exact absurd hphase h.ne_createRequested
  · rename_i hphase
    exact absurd hphase h.ne_upgradeRequested
  · exact ⟨rfl, ((h.perform .takeDownstream).perform .takeHandle).advance .closed⟩
  · exact ⟨rfl, h⟩

theorem shut_initiate (p : ParentService) (h : s.Shut) (env : Env) : (p.initiate s env).session.Shut := by
  obtain ⟨hnone, hshut⟩ := p.forward_of_shut h env
  obtain ⟨error, s', env', hforward⟩ : ∃ error s' env', p.forward s env = (error, s', env') := ⟨_, _, _, rfl⟩
  rw [hforward] at hnone hshut
  obtain rfl : error = none := hnone
  unfold initiate
  split
  · rw [hforward]
    exact hshut
  · rename_i n _
    cases n with
    | zero =>
      show (if s.phase = .createRequested then s.advance .serviceDenied else s).Shut
      rw [if_neg h.ne_createRequested]
      exact h
    | succ n =>
      unfold attempt
      rw [hforward]
      exact hshut

end ParentService

theorem Desk.shut_initiate (d : Desk) (h : s.Shut) (env : Env) : (d.initiate s env).session.Shut := by
  unfold initiate
  split
  · rename_i hphase
    exact absurd hphase h.ne_createRequested
  · split
    · exact (h.perform .takeHandle).advance .closed
    · exact h
  · exact h

theorem Service.shut_initiate (service : Service) (h : s.Shut) (env : Env) : (service.initiate s env).session.Shut := by
  cases service with
  | made l => exact l.shut_initiate h env
  | custom c => exact c.shut_initiate h env
  | parent p => exact p.shut_initiate h env
  | desk d => exact d.shut_initiate h env
  | child c => exact c.desk.shut_initiate h env

/-- Whatever the provider of a session is, a close that was begun stays so. -/
theorem Registry.shut_initiate? {r : Registry} {env : Env} {p : Provider} {o : Outcome Registry} (h : s.Shut)
    (ho : r.initiate? s env p = some o) : o.session.Shut := by
  cases p with
  | here n =>
    obtain ⟨v, -, rfl⟩ := Option.map_eq_some_iff.1 ho
    exact v.shut_initiate h env
  | later n =>
    obtain ⟨d, -, rfl⟩ := Option.map_eq_some_iff.1 ho
    exact d.shut_initiate h env
  | parent n =>
    obtain ⟨v, -, rfl⟩ := Option.map_eq_some_iff.1 ho
    exact v.shut_initiate h env
  | child c n =>
    obtain ⟨v, -, rfl⟩ := Option.map_eq_some_iff.1 ho
    exact v.desk.shut_initiate h env

/-! ### Sessions of a broker -/

namespace Slot

variable {t t' t'' : Slot}

/-- A session that was routed nowhere may be closed at once. -/
def Closable (t : Slot) : Prop := t.provider = none → t.session.permits .closed = true

/-- What is stored as `t` may be stored as `t'` later. -/
structure Goes (t t' : Slot) : Prop where
  shut : t.session.Shut → t'.session.Shut
  closable : t.Closable → t'.Closable

namespace Goes

theorem refl (t : Slot) : Goes t t := ⟨id, id⟩

theorem trans (h : Goes t t') (h' : Goes t' t'') : Goes t t'' :=
  ⟨fun hs => h'.shut (h.shut hs), fun hc => h'.closable (h.closable hc)⟩

/-- A session that has a provider, and that is still shut if it was. -/
theorem of_routed (hp : t'.provider.isSome = true) (hshut : t.session.Shut → t'.session.Shut) : Goes t t' :=
  ⟨hshut, fun _ hnone => by rw [hnone] at hp; cases hp⟩

end Goes

end Slot

namespace Broker

variable {new : ServerId → Prop} {op : Op} {b b' b'' c : Broker} {id j : ServerId} {t : Slot} {s' : Session}
  {p : Provider}

/-- The session that is stored under an id was stored there before, and it went on. -/
def Follows (b b' : Broker) (id : ServerId) : Prop :=
  ∀ t', b'.sessions.find? id = some t' → ∃ t, b.sessions.find? id = some t ∧ t.Goes t'

namespace Follows

theorem of_find? (h : b'.sessions.find? id = b.sessions.find? id) : Follows b b' id :=
  fun t' ht' => ⟨t', h.symm.trans ht', .refl t'⟩

theorem refl (b : Broker) (id : ServerId) : Follows b b id := of_find? rfl

theorem trans (h : Follows b b' id) (h' : Follows b' b'' id) : Follows b b'' id := by
  intro t'' ht''
  obtain ⟨t', ht', hgoes'⟩ := h' t'' ht''
  obtain ⟨t, ht, hgoes⟩ := h t' ht'
  exact ⟨t, ht, hgoes.trans hgoes'⟩

/-- A session that was stored is stored anew. -/
theorem of_stored {t' : Slot} (hfound : b.sessions.find? id = some t) (hstored : b'.sessions.find? id = some t')
    (h : t.Goes t') : Follows b b' id := by
  intro u hu
  obtain rfl := Option.some.inj (hstored.symm.trans hu)
  exact ⟨t, hfound, h⟩

/-- Something is done to a session with a provider, and it stays shut if it was. -/
theorem of_handles (h : Handles b b' id) (hfound : b.sessions.find? id = some ⟨s, some p⟩)
    (hshut : s.Shut → ∀ u, b'.sessions.find? id = some u → u.session.Shut) : Follows b b' id := by
  obtain ⟨s', hs'⟩ := h.routed p ⟨s, hfound⟩
  exact of_stored hfound hs' (.of_routed rfl fun hs => hshut hs _ hs')

end Follows

/-! ### What a close comes to -/

/-- Closing a session whose close was begun does nothing. -/
theorem close_of_shut (hfound : b.sessions.find? id = some t) (h : t.session.Shut) : b.close id = (.ok (), b) := by
  unfold close
  rw [hfound]
  exact if_pos h.symm

/-- A session that is given to its provider to be closed is shut then. -/
theorem shut_initiateClose (hfound : b.sessions.find? id = some t) (hs : s.Shut) :
    ∃ s', (b.initiateClose id p s).sessions.find? id = some { t with session := s' } ∧ s'.Shut := by
  have hconclude : ∀ (c : Broker) (payer : AccountRef) (u : Session), c.sessions = b.sessions → u.Shut →
      ∃ s', (c.concludeClose id payer u).sessions.find? id = some { t with session := s' } ∧ s'.Shut := by
    intro c payer u hc hu
    obtain ⟨s', hstores, -, -, hphase⟩ := stores_concludeClose c id payer u
    exact ⟨s', hstores.find?_self (by rw [hc]; exact hfound), hu.of_phase hphase⟩
  unfold initiateClose
  dsimp only
  split
  · exact hconclude b _ _ rfl ((hs.of_phase rfl : (detach s).Shut).advance .closed)
  · rename_i o ho
    have hshut := Registry.shut_initiate? hs ho
    split
    · exact ⟨o.session, (stores_wakeIfAsync (.setSession _ id o.session) p).find?_self hfound, hshut⟩
    · exact hconclude _ _ _ rfl hshut

/-- A close that is taken leaves the session shut. -/
theorem shut_close (hfound : b.sessions.find? id = some t) (hclosable : t.Closable) :
    (b.close id).1 = .ok () ∧ ∃ t', (b.close id).2.sessions.find? id = some t' ∧ t'.session.Shut := by
  by_cases hshut : t.session.Shut
  · rw [close_of_shut hfound hshut]
    exact ⟨rfl, t, hfound, hshut⟩
  · obtain ⟨s, provider⟩ := t
    have hclosed : s.phase ≠ .closed := fun h => hshut (.inr h)
    have hopen : ¬(s.phase = .closed ∨ s.phase = .closeRequested) := fun h => hshut h.symm
    unfold close
    rw [hfound]
    dsimp only
    rw [if_neg hopen]
    cases provider with
    | none =>
      refine ⟨rfl, _, Table.find?_modify_of _ hfound, .inr (Session.phase_advance_of_permits ?_)⟩
      have hpermits : s.permits .closed = true := hclosable rfl
      split
      · exact hpermits
      · exact hpermits
    | some p =>
      dsimp only
      rw [advance_givenUp hclosed]
      obtain ⟨s', hs', hshut'⟩ := shut_initiateClose (p := p) hfound (s := givenUp s) (.inl rfl)
      exact ⟨rfl, _, hs', hshut'⟩

/-! ### The functions that work on one session -/

theorem follows_refuse (hfound : b.sessions.find? id = some ⟨s, none⟩) (hphase : s.phase = .createRequested)
    {next : Phase} (hnext : next.isCreateFailure = true) : Follows b (b.refuse id s next) id := by
  have hself : (b.refuse id s next).sessions.find? id = some ⟨{ s with phase := next }, none⟩ := by
    rw [(stores_refuse b id s next).find?_self hfound, Session.advance_createFailure hphase hnext]
  refine .of_stored hfound hself ⟨fun hshut => absurd hphase hshut.ne_createRequested, fun _ _ => ?_⟩
  cases next <;> first | rfl | cases hnext

theorem follows_route (b : Broker) (id : ServerId) : Follows b (b.route id) id := by
  unfold route
  split
  · rename_i t hfound
    split
    · rename_i hwaiting
      obtain ⟨s, provider⟩ := t
      obtain ⟨rfl, hphase, -⟩ := Slot.isWaiting_iff.1 hwaiting
      unfold routeSession
      split
      · exact follows_refuse hfound hphase rfl
      · rename_i route _
        split
        · exact .refl b id
        · exact follows_refuse hfound hphase rfl
        · rename_i p r _
          have hown : Owns { b with providers := r, sessions := b.sessions.modify id fun _ =>
              ⟨if route.relabels s.label then s.relabel route.label else s, some p⟩ } p id :=
            ⟨_, Table.find?_modify_of _ hfound⟩
          obtain ⟨s', hs'⟩ := owns_initiateCreate hown (if route.relabels s.label then s.relabel route.label else s)
          refine .of_stored hfound hs' (.of_routed ?_ fun hshut => absurd hphase hshut.ne_createRequested)
          rfl
    · exact .refl b id
  · exact .refl b id

theorem follows_upgrade (hb : b.Orderly) (id : ServerId) (q : Quota) : Follows b (b.upgrade id q).2 id := by
  have hhandles := handles_upgrade hb id q
  unfold upgrade at hhandles ⊢
  split
  · exact .refl b id
  · rename_i t hfound
    obtain ⟨s, provider⟩ := t
    rw [hfound] at hhandles
    dsimp only at hhandles ⊢
    split
    · exact .refl b id
    · rename_i hclosed
      rw [if_neg hclosed] at hhandles
      cases provider with
      | none => exact .refl b id
      | some p =>
        refine .of_handles hhandles hfound fun hshut u hu => ?_
        have hrefused : ¬(s.phase.isEstablished && b.providers.contains p) = true := by
          rw [hshut.not_established]
          exact Bool.false_ne_true
        dsimp only at hu
        rw [if_neg hrefused] at hu
        obtain rfl := Option.some.inj (hfound.symm.trans hu)
        exact hshut

theorem follows_close (b : Broker) (id : ServerId) : Follows b (b.close id).2 id := by
  cases hfound : b.sessions.find? id with
  | none =>
    have hsame : (b.close id).2 = b := by
      unfold close
      rw [hfound]
    rw [hsame]
    exact .refl b id
  | some t =>
    by_cases hshut : t.session.Shut
    · rw [close_of_shut hfound hshut]
      exact .refl b id
    · refine fun u hu => ⟨t, hfound, fun h => absurd h hshut, fun hclosable _ => ?_⟩
      obtain ⟨-, t', ht', hshut'⟩ := shut_close hfound hclosable
      obtain rfl := Option.some.inj (ht'.symm.trans hu)
      exact hshut'.permits_closed

/-- An answer of a provider to a session of it. -/
theorem follows_applyResponse (hb : b.Orderly) (hown : b.Owns p id) (r : Response) :
    Follows b (b.applyResponse p id r).2 id := by
  obtain ⟨s, hfound⟩ := hown
  refine .of_handles (handles_applyResponse hb ⟨s, hfound⟩ r) hfound fun hshut u hu => ?_
  unfold applyResponse session? at hu
  rw [hfound] at hu
  cases hsettle : b.settle p id s r with
  | none =>
    simp only [Option.map_some, hsettle] at hu
    obtain rfl := Option.some.inj (hfound.symm.trans hu)
    exact hshut
  | some b' =>
    simp only [Option.map_some, hsettle] at hu
    obtain ⟨s', n, hresponds⟩ := exists_responds hsettle
    have heq : b.settle p id s r = some (b.responded p id s s' n) := settle_of_closing (fun _ _ => hshut) hresponds
    obtain rfl := Option.some.inj (hsettle.symm.trans heq)
    obtain rfl := Option.some.inj ((find?_responded_self hfound).symm.trans hu)
    cases hresponds with
    | givenUp | closed => exact .inr rfl
    | delivered hphase | refused hphase => exact absurd hphase hshut.ne_createRequested
    | upgraded hphase => exact absurd hphase hshut.ne_upgradeRequested

/-- A session whose provider goes away is closed, if its close was begun. -/
theorem follows_dismiss (b : Broker) (k : ChildKey) (id : ServerId) : Follows b (b.dismiss k id) id := by
  unfold dismiss
  split
  · exact .refl b id
  · rename_i t hfound
    obtain ⟨s, provider⟩ := t
    dsimp only
    split
    · rename_i hlive
      obtain ⟨rfl, halive, -⟩ : provider = some k.provider ∧ s.isAlive = true ∧ _ := hlive
      split
      · rename_i hpending
        exact .of_stored hfound (find?_finish_self hfound _ _ _)
          (.of_routed rfl fun hshut => absurd hpending.1 hshut.ne_createRequested)
      · have hclosed := advance_closed_of_alive (s := { s with handle := none }) halive
        refine .of_stored hfound (find?_finish_self hfound _ _ _) (.of_routed rfl fun _ => .inr ?_)
        exact congrArg Session.phase hclosed
    · exact .refl b id

/-! ### Operations -/

theorem Applied.follows (h : Applied b b' id) (hb : b.Orderly) : Follows b b' id := by
  cases h with
  | routed => exact follows_route b id
  | upgraded _ q => exact follows_upgrade hb id q
  | closed => exact follows_close b id
  | answered r hown => exact follows_applyResponse hb hown r
  | dismissed k => exact follows_dismiss b k id

/-- A change lets the session of an id go on, or it starts one there, if the id is new. -/
theorem Shift.follows (h : Shift new op b b') (id : ServerId) :
    Follows b b' id ∨ new id ∧ ∀ t, b'.sessions.find? id = some t → t.Closable := by
  cases h with
  | @session _ j hb happlied =>
    by_cases hj : id = j
    · subst hj
      exact .inl (happlied.follows hb)
    · exact .inl (.of_find? ((happlied.handles hb).others id hj))
  | providers hsessions => exact .inl (.of_find? (by rw [hsessions]))
  | opened => exact .inl (.refl b id)
  | forgotten keep => exact .inl fun t ht => ⟨t, Table.find?_of_filter ht, .refl t⟩
  | @admitted j r hnew _ hfresh =>
    by_cases hj : id = j
    · subst hj
      refine .inr ⟨hnew, fun t ht _ => ?_⟩
      obtain rfl := Option.some.inj ((Table.find?_insert_self _ _ _).symm.trans ht)
      show (r.phase == .closed || r.phase.canReach .closed) = true
      rw [hfresh.phase]
      rfl
    · exact .inl (.of_find? (Table.find?_insert_of_ne _ _ hj))

theorem follows_shifts (h : Shifts new op b b') (hid : ¬new id) : Follows b b' id := by
  induction h with
  | refl => exact .refl b id
  | tail _ hshift ih => exact ih.trans ((hshift.follows id).resolve_right fun hnew => hid hnew.1)

/-- Whether every session that was routed nowhere may be closed at once. -/
def AllClosable (b : Broker) : Prop := ∀ id t, b.sessions.find? id = some t → t.Closable

theorem allClosable_shifts (h : Shifts new op b b') (hb : b.AllClosable) : b'.AllClosable := by
  induction h with
  | refl => exact hb
  | tail _ hshift ih =>
    intro id t ht
    rcases hshift.follows id with hfollows | ⟨-, hfresh⟩
    · obtain ⟨u, hu, hgoes⟩ := hfollows t ht
      exact hgoes.closable (ih id u hu)
    · exact hfresh t ht

/-- Whether the operation is a create for the id that is taken. -/
def Op.Replaces (b : Broker) (id : ServerId) (op : Op) : Prop :=
  (∃ service args affinity, op = .create id service args affinity) ∧ (b.step op).1 = .ok ()

/-- A create for an id that is not taken starts no session. -/
theorem find?_create_error {service args : String} {affinity : Affinity} (hlive : b.isLive id = false)
    (herror : (b.create id service args affinity).1 ≠ .ok ()) :
    (b.create id service args affinity).2.sessions.find? id = none := by
  rcases create_taken b id service args affinity with ⟨huse, -⟩ | ⟨-, taken, rfl, ⟨e, -, heq⟩ | ⟨r, -, heq⟩⟩
  · cases huse.symm.trans hlive
  · rw [heq]
    exact Table.find?_erase_self _ _
  · exact absurd (congrArg Prod.fst heq) herror

/-- An operation that does not replace a session leaves it there, or forgets it. -/
theorem follows_step (hb : b.Orderly) (hop : op.StartsEmpty) (hid : ¬op.Replaces b id) :
    Follows b (b.step op).2 id := by
  by_cases hopens : op.Opens b id
  · cases op with
    | create i service args affinity =>
      obtain ⟨rfl, hlive⟩ := hopens
      have hnone : (b.create i service args affinity).2.sessions.find? i = none :=
        find?_create_error hlive fun hok => hid ⟨⟨service, args, affinity, rfl⟩, hok⟩
      intro t ht
      cases hnone.symm.trans ht
    | upgrade | close | childAnswer | announce | withdraw | removeChild | applyRouting | registerLocal | registerDesk
    | answerRequested | answerUpgraded | answerClosing | reap => exact hopens.elim
  · exact follows_shifts (shifts_step hb hop) hopens

/-! ### Histories -/

variable {allowed : Broker → Op → Prop}

theorem Leads.allClosable (h : Leads allowed b c) (hb : b.Orderly) (hclosable : b.AllClosable) : c.AllClosable := by
  induction h with
  | refl => exact hclosable
  | op op hreach hop _ ih => exact allClosable_shifts (shifts_step (hreach.orderly hb) hop) ih
  | around env _ ih => exact ih

/-- Until a create replaces a session, it is there as it went on, or it was forgotten. -/
theorem Leads.follows (h : Leads (fun d op => ¬op.Replaces d id) b c) (hb : b.Orderly) : Follows b c id := by
  induction h with
  | refl => exact .refl b id
  | op op hreach hop hid ih => exact ih.trans (follows_step (hreach.orderly hb) hop hid)
  | around env _ ih => exact ih

/-- A close that is taken leaves the session closing or closed, whatever services are registered.  After that, and until
a create replaces the session, a close of it changes nothing: no provider is asked or woken, no quota is moved, and the
parent is told nothing. -/
theorem close_idempotent {env : Env} {config : RuntimeConfig} (h : Leads (fun _ _ => True) (start env config) b)
    (hok : (b.close id).1 = .ok ()) :
    (∃ t, (b.close id).2.sessions.find? id = some t ∧
        (t.session.phase = .closeRequested ∨ t.session.phase = .closed)) ∧
      ∀ c, Leads (fun d op => ¬op.Replaces d id) (b.close id).2 c →
        c.sessions.find? id = none ∨
          (∃ t, c.sessions.find? id = some t ∧
            (t.session.phase = .closeRequested ∨ t.session.phase = .closed)) ∧ c.close id = (.ok (), c) := by
  have hb := h.orderly (orderly_start env config)
  have hclosable := h.allClosable (orderly_start env config) fun _ _ hnone => by cases hnone
  obtain ⟨t, ht⟩ : ∃ t, b.sessions.find? id = some t := by
    cases hfound : b.sessions.find? id with
    | some t => exact ⟨t, rfl⟩
    | none =>
      unfold close at hok
      rw [hfound] at hok
      cases hok
  obtain ⟨-, t', ht', hshut⟩ := shut_close ht (hclosable id t ht)
  refine ⟨⟨t', ht', hshut⟩, fun c hlater => ?_⟩
  cases hfound : c.sessions.find? id with
  | none => exact .inl rfl
  | some u =>
    obtain ⟨v, hv, hgoes⟩ := hlater.follows ((handles_close hb id).orderly hb) u hfound
    obtain rfl := Option.some.inj (ht'.symm.trans hv)
    exact .inr ⟨⟨u, rfl, hgoes.shut hshut⟩, close_of_shut hfound (hgoes.shut hshut)⟩

/-- The parent closes the session that the child has not answered, and then the child says that it closed it. -/
def releasedOnce : Broker := ((requestedOnce.close ⟨1⟩).2.step (.childAnswer ⟨"fs", "log"⟩ ⟨0⟩ .closed)).2

theorem close_idempotent_releasedOnce :
    (requestedOnce.close ⟨1⟩).1 = .ok () ∧
      (requestedOnce.close ⟨1⟩).2.close ⟨1⟩ = (.ok (), (requestedOnce.close ⟨1⟩).2) ∧
      releasedOnce.close ⟨1⟩ = (.ok (), releasedOnce) := by
  have hstart : Reaches (fun _ _ => True) (fun _ _ => True) (start sampleEnv sampleConfig) requestedOnce :=
    reaches_requestedOnce
  have hok : (requestedOnce.close ⟨1⟩).1 = .ok () := rfl
  obtain ⟨⟨t, ht, -⟩, hagain⟩ := close_idempotent hstart.leads hok
  have hthere : releasedOnce.sessions.find? ⟨1⟩ ≠ none := by decide +kernel
  have hlater : Leads (fun d op => ¬op.Replaces d ⟨1⟩) (requestedOnce.close ⟨1⟩).2 releasedOnce :=
    .op _ .refl trivial fun ⟨⟨_, _, _, h⟩, _⟩ => by cases h
  refine ⟨rfl, ?_, ?_⟩
  · rcases hagain _ .refl with hnone | ⟨-, hsame⟩
    · cases hnone.symm.trans ht
    · exact hsame
  · rcases hagain _ hlater with hnone | ⟨-, hsame⟩
    · exact absurd hnone hthere
    · exact hsame

end Broker

end SessionBroker
