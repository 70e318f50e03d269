import SessionBroker.Broker.Response
import SessionBroker.Proofs.Requests

/-!
# SessionBroker.Proofs.Effects — what a change of one session does to a broker

* `Broker.Sound`: every session is sound, the services are the built-in ones, and the posted requests belong to the
  sessions that refer to them.
* `Broker.Effect b b' id t t' m ns`: session `id` makes one transition, and the rest of the broker changes with it and
  only with it: the parent is told `ns`, the quota of `m` is moved, and no other session gains or loses a request.
* `Effect.sound`: such a change keeps a broker sound.
-/

namespace SessionBroker

/-- The quota of a payment moves between the own account and that of a provider. -/
def Payment.Moves (m : Payment) (own : AccountId) (account : AccountRef) (donated : Quota) (bank bank' : Bank) : Prop :=
  match m with
  | .none => bank' = bank
  | .paid q => bank.pay (some own) account q = .ok bank'
  | .refunded => bank' = bank.tryPay account (some own) donated

/-- A payment is made, next to calls that keep what is spared. -/
def Payment.Settles (m : Payment) (account : AccountRef) (donated : Quota) (env env' : Env) : Prop :=
  ∃ e, env.Keeps e ∧ env'.own = e.own ∧ env'.parent = e.parent ∧ m.Moves env.own account donated e.bank env'.bank

namespace Broker

/-- Whether sessions, services and posted requests fit each other. -/
structure Sound (b : Broker) : Prop where
  slots : ∀ id t, b.sessions.find? id = some t → t.Sound id
  builtIn : b.providers.BuiltIn b.config.retryLimit
  /-- A parent service that may not try grants nothing. -/
  retries : ∀ id t n, b.sessions.find? id = some t → t.provider = some (.parent n) →
    t.session.phase.isEstablished = true → b.config.retryLimit ≠ 0
  posted : ∀ p i id, b.providers.request? p i = some id →
    ∃ t, b.sessions.find? id = some t ∧ t.provider = some p ∧ t.session.downstream = some i
  listed : ∀ id t c n i, b.sessions.find? id = some t → t.provider = some (.child c n) →
    t.session.downstream = some i → b.providers.request? (.child c n) i = some id

namespace Sound

variable {b : Broker} {id : ServerId}

/-- A posted request belongs to a session with a provider. -/
theorem not_posted {s : Session} (hb : b.Sound) (found : b.sessions.find? id = some ⟨s, none⟩) (p : Provider)
    (i : ClientId) : b.providers.request? p i ≠ some id := fun hi => by
  obtain ⟨t, ht, hp, -⟩ := hb.posted p i id hi
  obtain rfl := Option.some.inj (found.symm.trans ht)
  cases hp

/-- Two requests posted at one provider belong to two sessions. -/
theorem posted_inj (hb : b.Sound) {p : Provider} {i j : ClientId} (hi : b.providers.request? p i = some id)
    (hj : b.providers.request? p j = some id) : i = j := by
  obtain ⟨t, ht, -, hti⟩ := hb.posted p i id hi
  obtain ⟨u, hu, -, huj⟩ := hb.posted p j id hj
  obtain rfl := Option.some.inj (ht.symm.trans hu)
  exact Option.some.inj (hti.symm.trans huj)

end Sound

/-- The account that session quota of a session is paid into. -/
def payee (b : Broker) (t : Slot) : AccountRef := t.provider.bind b.providers.account

theorem payee_of_provider (b : Broker) {t : Slot} {p : Provider} (h : t.provider = some p) :
    b.payee t = b.providers.account p := by
  rw [payee, h, Option.bind_some]

/-- Session `id` makes a transition, and the rest of the broker changes with it and only with it. -/
structure Effect (b b' : Broker) (id : ServerId) (t t' : Slot) (m : Payment) (ns : List Notice) : Prop where
  found : b.sessions.find? id = some t
  transition : Transition t m ns t'
  sessions : b'.sessions = b.sessions.modify id fun _ => t'
  told : ∀ j, b'.env.told j = b.env.told j ++ if j = id then ns else []
  payment : m.Settles (b.payee t') t.session.donated b.env b'.env
  config : b'.config = b.config
  builtIn : b'.providers.BuiltIn b.config.retryLimit
  account : ∀ p, b'.providers.account p = b.providers.account p
  retries : ∀ n, t'.provider = some (.parent n) → t'.session.phase.isEstablished = true → b.config.retryLimit ≠ 0
  others : ∀ p i j, j ≠ id → (b'.providers.request? p i = some j ↔ b.providers.request? p i = some j)
  posted : ∀ p i, b'.providers.request? p i = some id → t'.provider = some p ∧ t'.session.downstream = some i
  listed : ∀ p i, t'.provider = some p → p.isAsync = true → t'.session.downstream = some i →
    (t.provider = some p → t.session.downstream = some i → b.providers.request? p i = some id) →
    b'.providers.request? p i = some id

/-- Something happens to session `id`, and to no other session. -/
def Affects (b b' : Broker) (id : ServerId) : Prop := ∃ t t' m ns, Effect b b' id t t' m ns

namespace Effect

variable {b b' : Broker} {id : ServerId} {t t' : Slot} {m : Payment} {ns : List Notice}

theorem find?_self (h : Effect b b' id t t' m ns) : b'.sessions.find? id = some t' := by
  rw [h.sessions, Table.find?_modify_of _ h.found]

theorem find?_of_ne (h : Effect b b' id t t' m ns) {j : ServerId} (hj : j ≠ id) :
    b'.sessions.find? j = b.sessions.find? j := by
  rw [h.sessions, Table.find?_modify_of_ne _ _ hj]

theorem payee_eq (h : Effect b b' id t t' m ns) (u : Slot) : b'.payee u = b.payee u := by
  unfold payee
  exact Option.bind_congr fun p _ => h.account p

theorem own_eq (h : Effect b b' id t t' m ns) : b'.env.own = b.env.own := by
  obtain ⟨e, hkeeps, hown, -, -⟩ := h.payment
  exact hown.trans hkeeps.own

/-- A change of one session keeps a broker sound. -/
theorem sound (h : Effect b b' id t t' m ns) (hb : b.Sound) : b'.Sound where
  slots j u hu := by
    by_cases hj : j = id
    · subst hj
      obtain rfl := Option.some.inj (h.find?_self.symm.trans hu)
      exact h.transition.sound (hb.slots j t h.found)
    · rw [h.find?_of_ne hj] at hu
      exact hb.slots j u hu
  builtIn := by
    rw [h.config]
    exact h.builtIn
  retries j u n hu hn hlive := by
    rw [h.config]
    by_cases hj : j = id
    · subst hj
      obtain rfl := Option.some.inj (h.find?_self.symm.trans hu)
      exact h.retries n hn hlive
    · rw [h.find?_of_ne hj] at hu
      exact hb.retries j u n hu hn hlive
  posted p i j hj := by
    by_cases hid : j = id
    · subst hid
      obtain ⟨hp, hi⟩ := h.posted p i hj
      exact ⟨t', h.find?_self, hp, hi⟩
    · obtain ⟨u, hu, hp, hi⟩ := hb.posted p i j ((h.others p i j hid).1 hj)
      exact ⟨u, by rw [h.find?_of_ne hid]; exact hu, hp, hi⟩
  listed j u c n i hu hp hi := by
    by_cases hj : j = id
    · subst hj
      obtain rfl := Option.some.inj (h.find?_self.symm.trans hu)
      exact h.listed (.child c n) i hp rfl hi fun hp' hi' => hb.listed j t c n i h.found hp' hi'
    · rw [h.find?_of_ne hj] at hu
      exact (h.others (.child c n) i j hj).2 (hb.listed j u c n i hu hp hi)

/-- A change of one session in which the posted requests stay. -/
theorem of_alike (hb : b.Sound) (found : b.sessions.find? id = some t) (transition : Transition t m ns t')
    (sessions : b'.sessions = b.sessions.modify id fun _ => t')
    (told : ∀ j, b'.env.told j = b.env.told j ++ if j = id then ns else [])
    (payment : m.Settles (b.payee t') t.session.donated b.env b'.env)
    (config : b'.config = b.config) (alike : b.providers.Alike b.config.retryLimit b'.providers)
    (retries : ∀ n, t'.provider = some (.parent n) → t'.session.phase.isEstablished = true →
      b.config.retryLimit ≠ 0)
    (down : ∀ p, t'.provider = some p → p.isAsync = true → t'.session.downstream = t.session.downstream ∨
      t'.session.downstream = none ∧ b.providers.desk? p = none) :
    Effect b b' id t t' m ns where
  found := found
  transition := transition
  sessions := sessions
  told := told
  payment := payment
  config := config
  builtIn := alike.builtIn
  account := alike.account
  retries := retries
  others p i j _ := by rw [alike.request?]
  posted p i hi := by
    rw [alike.request?] at hi
    obtain ⟨u, hu, hp, hdown⟩ := hb.posted p i id hi
    obtain rfl := Option.some.inj (found.symm.trans hu)
    have hp' := transition.provider_eq hp
    have hasync : p.isAsync = true := by
      cases h : p.isAsync with
      | true => rfl
      | false =>
        rw [Registry.request?_sync h] at hi
        cases hi
    rcases down p hp' hasync with hsame | ⟨-, hnone⟩
    · exact ⟨hp', by rw [hsame]; exact hdown⟩
    · simp [Registry.request?, hnone] at hi
  listed p i hp hasync hi hlisted := by
    rw [alike.request?]
    rcases down p hp hasync with hsame | ⟨hnone, -⟩
    on_goal 2 => cases hnone.symm.trans hi
    rw [hsame] at hi
    cases hprov : t.provider with
    | none =>
      rw [((hb.slots id t found).unrouted hprov).1] at hi
      cases hi
    | some q =>
      obtain rfl := Option.some.inj ((transition.provider_eq hprov).symm.trans hp)
      exact hlisted hprov hi

/-- A change in which a create is posted, under an id that was free. -/
theorem of_posted {s s' : Session} {p : Provider} {request : ClientId} (hb : b.Sound)
    (found : b.sessions.find? id = some ⟨s, none⟩) (transition : Transition ⟨s, none⟩ m [] ⟨s', some p⟩)
    (hp : p.isAsync = true) (down : s'.downstream = some request) (free : b.providers.request? p request = none)
    (sessions : b'.sessions = b.sessions.modify id fun _ => ⟨s', some p⟩)
    (told : ∀ j, b'.env.told j = b.env.told j)
    (payment : m.Settles (b.providers.account p) s.donated b.env b'.env) (config : b'.config = b.config)
    (builtIn : b'.providers.BuiltIn b.config.retryLimit)
    (account : ∀ q, b'.providers.account q = b.providers.account q)
    (posts : ∀ q i, b'.providers.request? q i =
      if q = p ∧ i = request then some id else b.providers.request? q i) :
    Effect b b' id ⟨s, none⟩ ⟨s', some p⟩ m [] where
  found := found
  transition := transition
  sessions := sessions
  told j := by rw [told]; simp
  payment := payment
  config := config
  builtIn := builtIn
  account := account
  retries n hn _ := by
    obtain rfl := Option.some.inj hn
    cases hp
  others q i j hj := by
    rw [posts]
    by_cases hnew : q = p ∧ i = request
    · rw [if_pos hnew, hnew.1, hnew.2, free]
      simp [Ne.symm hj]
    · rw [if_neg hnew]
  posted q i hi := by
    rw [posts] at hi
    by_cases hnew : q = p ∧ i = request
    · obtain ⟨rfl, rfl⟩ := hnew
      exact ⟨rfl, down⟩
    · rw [if_neg hnew] at hi
      exact absurd hi (hb.not_posted found q i)
  listed q i hq _ hi _ := by
    obtain rfl := Option.some.inj hq
    obtain rfl := Option.some.inj (down.symm.trans hi)
    rw [posts, if_pos ⟨rfl, rfl⟩]

end Effect

/-- A broker in which session `id` was replaced, next to calls that leave accounts and posted requests alone. -/
structure Prepared (b b' : Broker) (id : ServerId) (t : Slot) : Prop where
  sessions : b'.sessions = b.sessions.modify id fun _ => t
  aside : b.env.Aside b'.env
  config : b'.config = b.config
  alike : b.providers.Alike b.config.retryLimit b'.providers

namespace Prepared

variable {b b' : Broker} {id : ServerId} {t t' : Slot} {m : Payment} {ns : List Notice}

theorem refl (hb : b.Sound) (found : b.sessions.find? id = some t) : b.Prepared b id t where
  sessions := by rw [Table.modify_of_find? _ found, Table.insert_of_find? found]
  aside := .refl b.env
  config := rfl
  alike := .refl hb.builtIn

theorem setSession {s : Session} {p : Option Provider} (h : b.Prepared b' id ⟨s, p⟩) (s' : Session) :
    b.Prepared (b'.setSession id s') id ⟨s', p⟩ where
  sessions := by
    unfold Broker.setSession
    rw [h.sessions, Table.modify_modify]
  aside := h.aside
  config := h.config
  alike := h.alike

/-- What the provider made of the registry and of the surroundings. -/
theorem initiated (h : b.Prepared b' id t) {env : Env} {r : Registry} (henv : b'.env.Aside env)
    (hr : b'.providers.Alike b.config.retryLimit r) : b.Prepared { b' with env := env, providers := r } id t where
  sessions := h.sessions
  aside := h.aside.trans henv
  config := h.config
  alike := h.alike.trans hr

/-- Whoever was woken on the way. -/
theorem logged (h : b.Prepared b' id t) (woken : List Wakeup) : b.Prepared { b' with woken } id t where
  sessions := h.sessions
  aside := h.aside
  config := h.config
  alike := h.alike

/-- The last step of a change: a payment is made, and the parent is told something. -/
theorem effect (h : b.Prepared b' id t') (hb : b.Sound) (found : b.sessions.find? id = some t)
    (transition : Transition t m ns t') {env : Env}
    (told : ∀ j, env.told j = b'.env.told j ++ if j = id then ns else []) (own : env.own = b'.env.own)
    (parent : env.parent = b'.env.parent)
    (moves : m.Moves b.env.own (b.payee t') t.session.donated b'.env.bank env.bank)
    (retries : t.provider = none → ∀ n, t'.provider = some (.parent n) → t'.session.phase.isEstablished = true →
      b.config.retryLimit ≠ 0)
    (down : ∀ p, t'.provider = some p → p.isAsync = true → t'.session.downstream = t.session.downstream ∨
      t'.session.downstream = none ∧ b.providers.desk? p = none) :
    Effect b { b' with env := env } id t t' m ns := by
  refine .of_alike hb found transition h.sessions (fun j => ?_) ⟨b'.env, h.aside.toKeeps, own, parent, moves⟩
    h.config h.alike (fun n hn hlive => ?_) down
  · rw [told, h.aside.told]
  · cases hp : t.provider with
    | none => exact retries hp n hn hlive
    | some p =>
      obtain rfl := Option.some.inj ((transition.provider_eq hp).symm.trans hn)
      exact hb.retries id t n found hp (transition.established_of_sync (hb.slots id t found) hp rfl hlive)

end Prepared

end Broker

end SessionBroker
