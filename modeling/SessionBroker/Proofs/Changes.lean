import Mathlib.Logic.Relation
import SessionBroker.Proofs.Settling

/-!
# SessionBroker.Proofs.Changes — the changes that operations are made of

* `Broker.Rearranged`: the providers change, and the sessions do not.
* `Broker.Change new`: one change: of a session, of the providers, the loss of closed sessions, or a new session whose
  id is one of `new`.
* `Broker.Changes new`: changes one after the other.
* `Change.slot`: what transitions keep of a session, changes keep.
* `Changes.sound`: what was sound stays sound.
* `Changes.isLive`: what is closed stays closed.
-/

namespace SessionBroker

/-- A session that nothing happened to yet. -/
structure Session.IsFresh (s : Session) : Prop where
  phase : s.phase = .createRequested
  handle : s.handle = none
  downstream : s.downstream = none
  pendingUpgrade : s.pendingUpgrade = 0
  donated : s.donated = 0
  abandoned : s.abandoned = false

theorem RuntimeConfig.isFresh_newSession {c : RuntimeConfig} {service args : String} {affinity : Affinity}
    {s : Session} (h : c.newSession service args affinity = .ok s) : s.IsFresh := by
  unfold newSession Session.create at h
  split at h
  · cases h
  · split at h
    · cases h
    · obtain rfl := Except.ok.inj h
      exact ⟨rfl, rfl, rfl, rfl, rfl, rfl⟩

/-- A fresh session fits any id under which it is stored. -/
theorem Slot.Sound.of_isFresh {s : Session} (h : s.IsFresh) (id : ServerId) :
    Slot.Sound id { session := s.perform (.setServerId id) } := by
  obtain ⟨hphase, hhandle, hdown, -, hdonated, hab⟩ := h
  constructor <;> simp_all [Session.perform, Phase.isEnded, Phase.isCreateFailure, Phase.isEstablished]

namespace Broker

/-- The providers change, and the sessions do not.  No request appears, and no session of a child loses its request;
the account of a provider changes only when its sessions are ended. -/
structure Rearranged (b b' : Broker) : Prop where
  sessions : b'.sessions = b.sessions
  env : b'.env = b.env
  config : b'.config = b.config
  builtIn : b'.providers.BuiltIn b.config.retryLimit
  posted : ∀ p i id, b'.providers.request? p i = some id → b.providers.request? p i = some id
  listed : ∀ id t c n i, b.sessions.find? id = some t → t.provider = some (.child c n) →
    t.session.downstream = some i → b'.providers.request? (.child c n) i = b.providers.request? (.child c n) i
  account : ∀ id t p, b.sessions.find? id = some t → t.provider = some p →
    t.session.phase.isEnded = true ∨ b'.providers.account p = b.providers.account p

theorem Rearranged.of_alike {b b' : Broker} (sessions : b'.sessions = b.sessions) (env : b'.env = b.env)
    (config : b'.config = b.config) (alike : b.providers.Alike b.config.retryLimit b'.providers) :
    Rearranged b b' where
  sessions := sessions
  env := env
  config := config
  builtIn := alike.builtIn
  posted p i id h := by rwa [← alike.request?]
  listed _ _ c n i _ _ _ := alike.request? _ _
  account _ _ p _ _ := .inr (alike.account p)

/-- One change of a broker.  A session can start under the ids in `new` only. -/
inductive Change (new : ServerId → Prop) : Broker → Broker → Prop
  /-- A session makes a transition. -/
  | session {b b' : Broker} {id : ServerId} {t t' : Slot} {m : Payment} {ns : List Notice} :
      Effect b b' id t t' m ns → Change new b b'
  /-- Providers come and go. -/
  | providers {b b' : Broker} : Rearranged b b' → Change new b b'
  /-- Closed sessions are forgotten. -/
  | forgotten {b : Broker} (keep : ServerId → Slot → Bool) :
      (∀ id t, b.sessions.find? id = some t → keep id t = false → t.session.isAlive = false) →
      Change new b { b with sessions := b.sessions.filter keep }
  /-- A request that cannot be read is denied. -/
  | malformed {b : Broker} {id : ServerId} :
      new id → b.sessions.find? id = none → Change new b (b.answer id .serviceDenied)
  /-- A request is taken. -/
  | admitted {b : Broker} {id : ServerId} {s : Session} :
      new id → b.sessions.find? id = none → s.IsFresh →
      Change new b { b with sessions := b.sessions.insert id { session := s.perform (.setServerId id) } }

/-- Changes one after the other. -/
def Changes (new : ServerId → Prop) : Broker → Broker → Prop := Relation.ReflTransGen (Change new)

variable {new : ServerId → Prop} {b b' b'' : Broker}

theorem Rearranged.sound (h : Rearranged b b') (hb : b.Sound) : b'.Sound where
  slots := by
    rw [h.sessions]
    exact hb.slots
  builtIn := by
    rw [h.config]
    exact h.builtIn
  retries := by
    rw [h.sessions, h.config]
    exact hb.retries
  posted p i id hi := by
    rw [h.sessions]
    exact hb.posted p i id (h.posted p i id hi)
  listed id t c n i ht hp hi := by
    rw [h.sessions] at ht
    rw [h.listed id t c n i ht hp hi]
    exact hb.listed id t c n i ht hp hi

/-- A change keeps a broker sound. -/
theorem Change.sound (h : Change new b b') (hb : b.Sound) : b'.Sound := by
  cases h with
  | session h => exact h.sound hb
  | providers h => exact h.sound hb
  | forgotten keep hkeep =>
    refine ⟨fun id t ht => hb.slots id t (Table.find?_of_filter ht), hb.builtIn,
      fun id t n ht => hb.retries id t n (Table.find?_of_filter ht), fun p i id hi => ?_,
      fun id t c n i ht => hb.listed id t c n i (Table.find?_of_filter ht)⟩
    obtain ⟨t, ht, hp, hdown⟩ := hb.posted p i id hi
    refine ⟨t, Table.find?_filter_of ht ?_, hp, hdown⟩
    -- what is referred to by a request is not closed, so it is kept
    cases hk : keep id t with
    | true => rfl
    | false => cases (hkeep id t ht hk).symm.trans ((hb.slots id t ht).isAlive_of_downstream hdown)
  | malformed => exact ⟨hb.slots, hb.builtIn, hb.retries, hb.posted, hb.listed⟩
  | @admitted id s _ habsent hs =>
    have hcases : ∀ {j t}, (b.sessions.insert id { session := s.perform (.setServerId id) }).find? j = some t →
        j = id ∧ t = { session := s.perform (.setServerId id) } ∨ b.sessions.find? j = some t := by
      intro j t ht
      by_cases hj : j = id
      · subst hj
        rw [Table.find?_insert_self] at ht
        exact .inl ⟨rfl, (Option.some.inj ht).symm⟩
      · rw [Table.find?_insert_of_ne _ _ hj] at ht
        exact .inr ht
    refine ⟨fun j t ht => ?_, hb.builtIn, fun j t n ht hp => ?_, fun p i j hj => ?_, fun j t c n i ht hp => ?_⟩
    · rcases hcases ht with ⟨rfl, rfl⟩ | ht
      · exact .of_isFresh hs j
      · exact hb.slots j t ht
    · rcases hcases ht with ⟨rfl, rfl⟩ | ht
      · cases hp
      · exact hb.retries j t n ht hp
    · obtain ⟨t, ht, hp, hdown⟩ := hb.posted p i j hj
      refine ⟨t, ?_, hp, hdown⟩
      have hne : j ≠ id := by
        rintro rfl
        rw [habsent] at ht
        cases ht
      show (b.sessions.insert id _).find? j = some t
      rw [Table.find?_insert_of_ne _ _ hne, ht]
    · rcases hcases ht with ⟨rfl, rfl⟩ | ht
      · cases hp
      · exact hb.listed j t c n i ht hp

/-- What transitions keep of the session of an id, changes keep, if a session that starts under the id has it. -/
theorem Change.slot {P : Slot → Prop} {id : ServerId} (h : Change new b b')
    (step : ∀ t t' m ns, Transition t m ns t' → P t → P t')
    (fresh : new id → ∀ s : Session, s.IsFresh → P { session := s.perform (.setServerId id) })
    (hI : ∀ t, b.sessions.find? id = some t → P t) {t : Slot} (ht : b'.sessions.find? id = some t) : P t := by
  cases h with
  | @session _ j u u' m ns heffect =>
    by_cases hj : id = j
    · subst hj
      obtain rfl := Option.some.inj (heffect.find?_self.symm.trans ht)
      exact step u u' m ns heffect.transition (hI u heffect.found)
    · rw [heffect.find?_of_ne hj] at ht
      exact hI t ht
  | providers hrearranged =>
    rw [hrearranged.sessions] at ht
    exact hI t ht
  | forgotten keep => exact hI t (Table.find?_of_filter ht)
  | malformed => exact hI t ht
  | @admitted j s hnew _ hs =>
    by_cases hj : id = j
    · subst hj
      rw [Table.find?_insert_self] at ht
      obtain rfl := Option.some.inj ht
      exact fresh hnew s hs
    · rw [Table.find?_insert_of_ne _ _ hj] at ht
      exact hI t ht

theorem Change.mono {new' : ServerId → Prop} (hnew : ∀ id, new id → new' id) (h : Change new b b') :
    Change new' b b' := by
  cases h with
  | session h => exact .session h
  | providers h => exact .providers h
  | forgotten keep h => exact .forgotten keep h
  | malformed h habsent => exact .malformed (hnew _ h) habsent
  | admitted h habsent hs => exact .admitted (hnew _ h) habsent hs

namespace Changes

theorem refl (b : Broker) : Changes new b b := Relation.ReflTransGen.refl

theorem single (h : Change new b b') : Changes new b b' := Relation.ReflTransGen.single h

theorem trans (h : Changes new b b') (h' : Changes new b' b'') : Changes new b b'' := Relation.ReflTransGen.trans h h'

theorem of_eq (h : b' = b) : Changes new b b' := by
  rw [h]
  exact refl b

theorem of_affects {id : ServerId} (h : b' = b ∨ Affects b b' id) : Changes new b b' := by
  rcases h with h | ⟨t, t', m, ns, h⟩
  · exact of_eq h
  · exact single (.session h)

theorem mono {new' : ServerId → Prop} (hnew : ∀ id, new id → new' id) (h : Changes new b b') :
    Changes new' b b' := by
  induction h with
  | refl => exact .refl _
  | tail _ hchange ih => exact trans ih (single (hchange.mono hnew))

/-- Changes keep a broker sound. -/
theorem sound (h : Changes new b b') (hb : b.Sound) : b'.Sound := by
  induction h with
  | refl => exact hb
  | tail _ hchange ih => exact hchange.sound ih

end Changes

/-! ### Sessions that are not closed -/

variable {id : ServerId}

theorem isLive_iff : b.isLive id = true ↔ ∃ t, b.sessions.find? id = some t ∧ t.session.isAlive = true := by
  unfold isLive session?
  cases b.sessions.find? id <;> simp

theorem not_isLive_of_closed {t : Slot} (hfound : b.sessions.find? id = some t) (hclosed : t.session.phase = .closed) :
    b.isLive id = false := by
  unfold isLive session?
  rw [hfound]
  simp [Session.isAlive, hclosed]

/-- Only a session that is not closed changes. -/
theorem isAlive_of_transition {t t' : Slot} {p : Payment} {ns : List Notice} (h : Transition t p ns t') :
    t.session.isAlive = true := by
  have hestablished : ∀ {s : Session}, s.phase.isEstablished = true → s.isAlive = true := by
    intro s hs
    refine Session.isAlive_of_ne_closed fun hclosed => ?_
    rw [hclosed] at hs
    cases hs
  have hcreate : ∀ {s : Session}, s.phase = .createRequested → s.isAlive = true :=
    fun hs => Session.isAlive_of_ne_closed (by rw [hs]; exact Phase.noConfusion)
  cases h with
  | refused hphase | granted hphase | posted hphase | delivered hphase | denied hphase => exact hcreate hphase
  | upgrading hphase | upgraded hphase => exact hestablished hphase
  | closing hphase => exact hphase.elim hcreate hestablished
  | stuck hphase =>
    refine Session.isAlive_of_ne_closed fun hclosed => ?_
    rw [hclosed] at hphase
    cases hphase
  | closed halive => exact halive

/-- A session that is not closed was not closed before, unless its id was taken again. -/
theorem Changes.isLive (h : Changes new b b') (hid : ¬new id) (hlive : b'.isLive id = true) : b.isLive id = true := by
  induction h with
  | refl => exact hlive
  | @tail c d _ hchange ih =>
    refine ih ?_
    by_contra hover
    obtain ⟨t, ht, halive⟩ := isLive_iff.1 hlive
    have hnot : ∀ t, c.sessions.find? id = some t → ¬t.session.isAlive = true :=
      fun t ht hs => hover (isLive_iff.2 ⟨t, ht, hs⟩)
    have hstep : ∀ (t t' : Slot) (p : Payment) (ns : List Notice), Transition t p ns t' → ¬t.session.isAlive = true →
        ¬t'.session.isAlive = true :=
      fun _ _ _ _ htransition hs => absurd (isAlive_of_transition htransition) hs
    exact hchange.slot hstep (fun hnew => absurd hnew hid) hnot ht halive

end Broker

end SessionBroker
