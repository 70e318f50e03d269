import SessionBroker.Proofs.Commuting

/-!
# SessionBroker.Proofs.Removals — a child that is removed

The sessions of a child are dismissed service by service: those that are not over end, their donations go back, and
their requesters are told.

* `Session.dismissed`, `Session.farewell`: what becomes of a session, and what its requester is told.
* `Broker.dismissal`: the loss of its provider dismisses a session that is not over.
* `Broker.Cleared c b gone b'`: the sessions `gone` of child `c` were dismissed, and nothing else happened
  (`Cleared.dismiss`, `Cleared.forget`).
* `child_removed`: the removal of a child clears all of its sessions that are not over, and forgets its services.
-/

namespace SessionBroker

namespace Session

/-- A session whose provider went away. -/
def dismissed (s : Session) : Session :=
  { s with
    phase := if s.phase = .createRequested then .serviceDenied else .closed
    handle := none
    downstream := none
    donated := 0 }

/-- What the requester is told then: a create that is pending is denied, and any other session is closed. -/
def farewell (s : Session) : Answer := if s.phase = .createRequested then .serviceDenied else .sessionClosed

theorem isEnded_dismissed (s : Session) : s.dismissed.phase.isEnded = true := by
  unfold dismissed
  dsimp only
  split <;> rfl

theorem isAlive_of_not_isEnded {s : Session} (h : s.phase.isEnded = false) :
    s.isAlive = true ∧ s.phase.isCreateFailure = false := by
  unfold isAlive
  cases hp : s.phase <;> rw [hp] at h <;> first | exact ⟨rfl, rfl⟩ | cases h

end Session

namespace Broker

variable {b b' : Broker} {id : ServerId} {s : Session} {k k' : ChildKey} {c n : String} {child : AccountId → Prop}
  {gone : List (ServerId × Slot)} {start : AccountId → Resource → Nat}

/-! ### The loss of a provider -/

/-- A session that is not over is dismissed with its provider. -/
theorem dismiss_eq (hb : b.Sound) (hfound : b.sessions.find? id = some ⟨s, some k.provider⟩)
    (hopen : s.phase.isEnded = false) :
    b.dismiss k id = b.responded k.provider id s s.dismissed (.answered s.farewell) := by
  obtain ⟨halive, hfail⟩ := Session.isAlive_of_not_isEnded hopen
  unfold dismiss
  rw [hfound]
  dsimp only
  rw [if_pos ⟨rfl, halive, hfail⟩]
  by_cases hphase : s.phase = .createRequested
  · have hgiven : s.abandoned = false := ((hb.slots id _ hfound).waiting hphase).2
    have hfarewell : s.farewell = .serviceDenied := if_pos hphase
    rw [if_pos ⟨hphase, hgiven⟩, hfarewell]
    refine finish_eq_responded rfl rfl ?_ s.isEnded_dismissed
    have hadvance : ({ s with handle := none, downstream := none } : Session).advance .serviceDenied =
        { s with handle := none, downstream := none, phase := .serviceDenied } :=
      Session.advance_createFailure hphase rfl
    refine (congrArg (fun u : Session => { u with donated := 0 }) hadvance).trans ?_
    rw [Session.dismissed, if_pos hphase]
  · have hfarewell : s.farewell = .sessionClosed := if_neg hphase
    rw [if_neg fun h => hphase h.1, hfarewell]
    refine finish_eq_responded ?_ ?_ ?_ s.isEnded_dismissed
    · split
      · rfl
      · exact Session.downstream_advance _ _
    · split
      · rfl
      · exact Session.donated_advance _ _
    · have hadvance := advance_closed_of_alive (s := { s with handle := none }) halive
      refine (congrArg (fun u : Session => { u with donated := 0 }) hadvance).trans ?_
      rw [Session.dismissed, if_neg hphase]

/-- Other sessions stay as they are. -/
theorem dismiss_eq_self (h : b.Lost k.provider id) : b.dismiss k id = b := by
  unfold dismiss
  cases hfound : b.sessions.find? id with
  | none => rfl
  | some t =>
    simp only
    refine if_neg fun ⟨hprovider, halive, hfail⟩ => ?_
    rcases Phase.isEnded_iff.1 (h t hfound hprovider) with hclosed | hfailed
    · rw [Session.isAlive, hclosed] at halive
      cases halive
    · rw [hfail] at hfailed
      cases hfailed

/-- A request of a service of a child is forgotten.  Its other requests stay, and so do all other services. -/
theorem release_child (b : Broker) (k : ChildKey) (s : Session) : ∃ children,
    (b.release k.provider s).providers = { b.providers with children } ∧
      (∀ k', k' ≠ k → children.find? k' = b.providers.children.find? k') ∧
      ∀ k', (children.find? k').map (·.account) = (b.providers.children.find? k').map (·.account) := by
  unfold release
  cases s.downstream with
  | none => exact ⟨b.providers.children, rfl, fun _ _ => rfl, fun _ => rfl⟩
  | some i =>
    refine ⟨b.providers.children.modify k fun v => { v with desk := v.desk.release i }, rfl, fun k' hk => ?_,
      fun k' => ?_⟩
    · exact Table.find?_modify_of_ne _ _ hk
    · exact Table.map_find?_modify (g := fun v : ChildService => { v with desk := v.desk.release i }) (fun _ => rfl) k'

theorem payee_child (b : Broker) (s : Session) (k : ChildKey) :
    b.payee ⟨s, some k.provider⟩ = (b.providers.children.find? k).map (·.account) := rfl

/-- A service of a child is registered while a session of its is not over. -/
theorem registered_of_open (hb : b.Sound) (hfound : b.sessions.find? id = some ⟨s, some k.provider⟩)
    (hopen : s.phase.isEnded = false) : ∃ v, b.providers.children.find? k = some v := by
  obtain ⟨i, hi⟩ := Option.isSome_iff_exists.1 ((hb.slots id _ hfound).async k.provider rfl rfl hopen)
  have hrequest : b.providers.request? k.provider i = some id := hb.listed id _ k.child k.service i hfound rfl hi
  rw [Registry.request?_child] at hrequest
  obtain ⟨v, hv, -⟩ := Option.bind_eq_some_iff.1 hrequest
  exact ⟨v, hv⟩

/-- Session `id` was dismissed, and its donation went back from account `a`. -/
structure Dismissal (k : ChildKey) (id : ServerId) (s : Session) (a : AccountId) (b b' : Broker) : Prop where
  sessions : b'.sessions = b.sessions.modify id fun t => { t with session := s.dismissed }
  env : b'.env = { b.env with bank := b'.env.bank, trace := b.env.trace ++ [.answered id s.farewell] }
  payee : b.payee ⟨s, some k.provider⟩ = some a
  apart : a ≠ b.env.own
  moved : ∀ r i, i < b.env.bank.accounts.length →
    (b'.env.bank.available r i).val + (if i = a then (s.donated.get r).val else 0) =
      (b.env.bank.available r i).val + (if i = b.env.own then (s.donated.get r).val else 0)
  untouched : ∀ i, i ≠ a → i ≠ b.env.own → b'.env.bank.accounts[i]? = b.env.bank.accounts[i]?
  length : b'.env.bank.accounts.length = b.env.bank.accounts.length
  children : ∀ k', k' ≠ k → b'.providers.children.find? k' = b.providers.children.find? k'
  accounts : ∀ t, b'.payee t = b.payee t
  providers : b'.providers = { b.providers with children := b'.providers.children }
  config : b'.config = b.config
  rules : b'.rules = b.rules

/-- Donations for a session go where they went before if the services of children keep their accounts. -/
theorem payee_congr {t : Slot} (hproviders : b'.providers = { b.providers with children := b'.providers.children })
    (haccounts : ∀ k, t.provider = some k.provider →
      (b'.providers.children.find? k).map (·.account) = (b.providers.children.find? k).map (·.account)) :
    b'.payee t = b.payee t := by
  unfold payee
  rw [hproviders]
  refine Option.bind_congr fun p hprovider => ?_
  cases p with
  | child c n => exact haccounts ⟨c, n⟩ hprovider
  | here n | later n | parent n => rfl

/-- The loss of its provider dismisses a session that is not over. -/
theorem dismissal (hb : b.Sound) (hfound : b.sessions.find? id = some ⟨s, some k.provider⟩)
    (hopen : s.phase.isEnded = false)
    (hledger : ∀ a, b.payee ⟨s, some k.provider⟩ = some a → b.Ledger a (start a)) :
    ∃ a, Dismissal k id s a b (b.dismiss k id) := by
  obtain ⟨v, hv⟩ := registered_of_open hb hfound hopen
  have hpayee : b.payee ⟨s, some k.provider⟩ = some v.account := by
    rw [payee_child b s k, hv]
    rfl
  have hbooks := hledger v.account hpayee
  have hother : v.account ≠ b.env.own := fun he => hbooks.account.spares.own he.symm
  have hcovered : ∀ r, (s.donated.get r).val ≤ (b.env.bank.available r v.account).val := by
    intro r
    rw [← share_eq_donated (t := ⟨s, some k.provider⟩) (r := r) hpayee]
    exact share_le hbooks hfound r
  obtain ⟨-, hnames, hmoved⟩ := Bank.tryPay_covered (q := s.donated) hbooks.account.fits hother hbooks.account.held
    hcovered
  obtain ⟨children, hchildren, hothers, haccounts⟩ := release_child b k s
  rw [dismiss_eq hb hfound hopen, responded_of_ended s.isEnded_dismissed, hchildren,
    show b.providers.account k.provider = some v.account from hpayee, ownAccount]
  exact ⟨v.account,
    { sessions := rfl
      env := rfl
      payee := hpayee
      apart := hother
      moved := hmoved
      untouched := fun i hi hown => Bank.getElem?_tryPay (fun h => hi (Option.some.inj h).symm)
        fun h => hown (Option.some.inj h).symm
      length := by rw [← Bank.length_names, hnames, Bank.length_names]
      children := hothers
      accounts := fun t => payee_congr rfl fun k' _ => haccounts k'
      providers := rfl
      config := rfl
      rules := rfl }⟩

/-! ### Sessions that are dismissed one after the other -/

/-- Whether a session was routed to a child, and is neither closed nor a failed create. -/
def DependsOn (t : Slot) (c : String) : Prop := (∃ n, t.provider = some (.child c n)) ∧ t.session.phase.isEnded = false

/-- Sessions `gone` of child `c` were dismissed, and nothing else happened, but that services of the child were
forgotten. -/
structure Cleared (c : String) (b : Broker) (gone : List (ServerId × Slot)) (b' : Broker) : Prop where
  nodup : (gone.map (·.1)).Nodup
  found : ∀ e ∈ gone, b.sessions.find? e.1 = some e.2 ∧ DependsOn e.2 c
  dismissed : ∀ e ∈ gone, b'.sessions.find? e.1 = some { e.2 with session := e.2.session.dismissed }
  others : ∀ id, id ∉ gone.map (·.1) → b'.sessions.find? id = b.sessions.find? id
  /-- Each of them is answered once. -/
  env : b'.env = { b.env with
    bank := b'.env.bank
    trace := b.env.trace ++ gone.map fun e => .answered e.1 e.2.session.farewell }
  /-- All that was donated for them is back in the own account. -/
  own : ∀ r, (b'.env.bank.available r b.env.own).val =
    (b.env.bank.available r b.env.own).val + (gone.map fun e => (e.2.session.donated.get r).val).sum
  /-- It was taken from the accounts that it was paid into. -/
  payees : ∀ a, a ≠ b.env.own → a < b.env.bank.accounts.length → ∀ r,
    (b'.env.bank.available r a).val + (gone.map fun e => b.share a r e.2).sum = (b.env.bank.available r a).val
  /-- All other accounts are untouched. -/
  accounts : ∀ a, a ≠ b.env.own → (∀ e ∈ gone, b.payee e.2 ≠ some a) →
    b'.env.bank.accounts[a]? = b.env.bank.accounts[a]?
  length : b'.env.bank.accounts.length = b.env.bank.accounts.length
  /-- Services of other children stay. -/
  children : ∀ k, k.child ≠ c → b'.providers.children.find? k = b.providers.children.find? k
  /-- Sessions that remain are with providers that are paid as before, unless they are over. -/
  remaining : ∀ id t, id ∉ gone.map (·.1) → b.sessions.find? id = some t →
    t.session.phase.isEnded = true ∨ b'.payee t = b.payee t
  providers : b'.providers = { b.providers with children := b'.providers.children }
  config : b'.config = b.config
  rules : b'.rules = b.rules

namespace Cleared

theorem refl (c : String) (b : Broker) : Cleared c b [] b where
  nodup := List.nodup_nil
  found e he := by cases he
  dismissed e he := by cases he
  others _ _ := rfl
  env := by simp
  own _ := rfl
  payees _ _ _ _ := rfl
  accounts _ _ _ := rfl
  length := rfl
  children _ _ := rfl
  remaining _ _ _ _ := .inr rfl
  providers := rfl
  config := rfl
  rules := rfl

/-- A session that is not over was not dismissed so far, and is still paid for as at first. -/
theorem still_open (h : Cleared c b gone b') {t : Slot} (hfound : b'.sessions.find? id = some t)
    (hopen : t.session.phase.isEnded = false) :
    id ∉ gone.map (·.1) ∧ b.sessions.find? id = some t ∧ b'.payee t = b.payee t := by
  have hnew : id ∉ gone.map (·.1) := by
    intro hmem
    obtain ⟨e, he, rfl⟩ := List.mem_map.1 hmem
    obtain rfl := Option.some.inj ((h.dismissed e he).symm.trans hfound)
    rw [show e.2.session.dismissed.phase.isEnded = true from e.2.session.isEnded_dismissed] at hopen
    cases hopen
  have hbefore : b.sessions.find? id = some t := (h.others id hnew).symm.trans hfound
  refine ⟨hnew, hbefore, (h.remaining id t hnew hbefore).resolve_left fun hover => ?_⟩
  rw [hopen] at hover
  cases hover

/-- One more session is dismissed. -/
theorem dismiss {a : AccountId} {b'' : Broker} (h : Cleared c b gone b') (hd : Dismissal k id s a b' b'')
    (hown : b.env.own < b.env.bank.accounts.length) (hk : k.child = c)
    (hfound : b'.sessions.find? id = some ⟨s, some k.provider⟩) (hopen : s.phase.isEnded = false) :
    Cleared c b (gone ++ [(id, ⟨s, some k.provider⟩)]) b'' := by
  obtain ⟨hnew, hbefore, hpayee⟩ := h.still_open hfound hopen
  have howner : b'.env.own = b.env.own := by rw [h.env]
  have ha : b.payee ⟨s, some k.provider⟩ = some a := hpayee.symm.trans hd.payee
  have hother : a ≠ b.env.own := howner ▸ hd.apart
  have hsum : ∀ (f : ServerId × Slot → Nat) (e : ServerId × Slot),
      ((gone ++ [e]).map f).sum = (gone.map f).sum + f e := by
    intro f e
    rw [List.map_append, List.sum_append, List.map_singleton, List.sum_singleton]
  refine
    { nodup := ?_
      found := fun e he => ?_
      dismissed := fun e he => ?_
      others := fun j hj => ?_
      env := ?_
      own := fun r => ?_
      payees := fun i hne hlt r => ?_
      accounts := fun i hne hnot => ?_
      length := hd.length.trans h.length
      children := fun k' hk' => ?_
      remaining := fun j t hj ht => ?_
      providers := by rw [hd.providers, h.providers]
      config := hd.config.trans h.config
      rules := hd.rules.trans h.rules }
  · rw [List.map_append, List.nodup_append]
    refine ⟨h.nodup, List.nodup_singleton id, fun i hi j hj hij => hnew ?_⟩
    obtain rfl : j = id := List.mem_singleton.1 hj
    exact hij ▸ hi
  · rcases List.mem_append.1 he with he | he
    · exact h.found e he
    · obtain rfl := List.mem_singleton.1 he
      exact ⟨hbefore, ⟨k.service, by rw [← hk]; rfl⟩, hopen⟩
  · rw [hd.sessions]
    rcases List.mem_append.1 he with he | he
    · have hne : e.1 ≠ id := fun heq => hnew (heq ▸ List.mem_map_of_mem he)
      exact (Table.find?_modify_of_ne _ _ hne).trans (h.dismissed e he)
    · obtain rfl := List.mem_singleton.1 he
      exact Table.find?_modify_of _ hfound
  · rw [List.map_append, List.mem_append, not_or] at hj
    have hne : j ≠ id := fun heq => hj.2 (List.mem_singleton.2 heq)
    rw [hd.sessions]
    exact (Table.find?_modify_of_ne _ _ hne).trans (h.others j hj.1)
  · rw [hd.env, h.env, List.map_append, ← List.append_assoc]
    rfl
  · have hstep := hd.moved r b.env.own (by rw [h.length]; exact hown)
    have hbefore := h.own r
    rw [if_neg (Ne.symm hother), if_pos howner.symm] at hstep
    rw [hsum]
    dsimp only
    omega
  · have hstep := hd.moved r i (by rw [h.length]; exact hlt)
    have hbefore := h.payees i hne hlt r
    rw [howner, if_neg hne] at hstep
    have hlast : b.share i r ⟨s, some k.provider⟩ = if i = a then (s.donated.get r).val else 0 := by
      unfold share
      rw [ha]
      by_cases heq : i = a
      · rw [if_pos heq, if_pos (by rw [heq])]
      · rw [if_neg heq, if_neg fun h => heq (Option.some.inj h).symm]
    rw [hsum]
    dsimp only
    omega
  · have hlast : i ≠ a := by
      rintro rfl
      exact hnot _ (List.mem_append_right _ List.mem_cons_self) ha
    exact (hd.untouched i hlast (howner ▸ hne)).trans
      (h.accounts i hne fun e he => hnot e (List.mem_append_left _ he))
  · have hne : k' ≠ k := fun heq => hk' (by rw [heq, hk])
    exact (hd.children k' hne).trans (h.children k' hk')
  · rw [List.map_append, List.mem_append, not_or] at hj
    exact (h.remaining j t hj.1 ht).imp_right fun hsame => (hd.accounts t).trans hsame

/-- A service of the child is forgotten, all of whose sessions are over. -/
theorem forget (h : Cleared c b gone b') (hk : k.child = c) (hlost : ∀ id, b'.Lost k.provider id) :
    Cleared c b gone { b' with providers.children := b'.providers.children.erase k } where
  nodup := h.nodup
  found := h.found
  dismissed := h.dismissed
  others := h.others
  env := h.env
  own := h.own
  payees := h.payees
  accounts := h.accounts
  length := h.length
  children k' hk' := by
    have hne : k' ≠ k := fun heq => hk' (by rw [heq, hk])
    exact (Table.find?_erase_of_ne _ hne).trans (h.children k' hk')
  remaining id t hid ht := by
    by_cases hp : t.provider = some k.provider
    · exact .inl (hlost id t ((h.others id hid).trans ht) hp)
    · have haccounts : ∀ k', t.provider = some k'.provider →
          ((b'.providers.children.erase k).find? k').map (·.account) =
            (b'.providers.children.find? k').map (·.account) := by
        intro k' hprovider
        rw [Table.find?_erase_of_ne]
        rintro rfl
        exact hp hprovider
      have hpayee : ({ b' with providers.children := b'.providers.children.erase k } : Broker).payee t = b'.payee t :=
        payee_congr rfl haccounts
      exact (h.remaining id t hid ht).imp_right hpayee.trans
  providers := by rw [h.providers]
  config := h.config
  rules := h.rules

end Cleared

/-! ### The removal of a child -/

/-- The books are right, all services of children are paid into their accounts, and the component has an account. -/
structure SoundBooks (child : AccountId → Prop) (start : AccountId → Resource → Nat) (b : Broker) : Prop where
  sound : b.Sound
  paid : b.providers.PaidInto child
  ledger : ∀ a, child a → b.Ledger a (start a)
  own : b.env.own < b.env.bank.accounts.length

/-- Sessions of a child are dismissed, and services of it are forgotten. -/
def Clearing (c : String) (b b' : Broker) : Prop := Endings b b' ∧ ∃ gone, Cleared c b gone b'

namespace Clearing

/-- The loss of a provider dismisses the session, unless it is over or with another provider. -/
theorem dismiss (h : Clearing c b b') (hb : b.SoundBooks child start) (hk : k.child = c) (id : ServerId) :
    Clearing c b (b'.dismiss k id) := by
  obtain ⟨hends, gone, hcleared⟩ := h
  have hb' := hends.sound hb.sound
  by_cases hlost : b'.Lost k.provider id
  · rw [dismiss_eq_self hlost]
    exact ⟨hends, gone, hcleared⟩
  · obtain ⟨⟨s, provider⟩, hfound, hprovider, hopen⟩ : ∃ t, b'.sessions.find? id = some t ∧
        t.provider = some k.provider ∧ ¬t.session.phase.isEnded = true := by
      simpa [Lost] using hlost
    obtain rfl : provider = some k.provider := hprovider
    have hstill : s.phase.isEnded = false := Bool.eq_false_iff.2 hopen
    obtain ⟨-, -, hpayee⟩ := hcleared.still_open hfound hstill
    have hledger : ∀ a, b'.payee ⟨s, some k.provider⟩ = some a → b'.Ledger a (start a) := by
      intro a ha
      rw [hpayee, payee_child] at ha
      obtain ⟨v, hv, rfl⟩ := Option.map_eq_some_iff.1 ha
      exact (hends.changes : Changes (fun _ => True) b b').invariant (fun _ _ hc hI h => h.ledger hc hI) hb.sound
        (hb.ledger v.account (hb.paid k v hv))
    obtain ⟨a, hd⟩ := dismissal hb' hfound hstill hledger
    exact ⟨hends.trans (endings_dismiss hb' k id), _, hcleared.dismiss hd hb.own hk hfound hstill⟩

theorem dismissAll (hb : b.SoundBooks child start) (hk : k.child = c) : ∀ (ids : List ServerId) (b' : Broker),
    Clearing c b b' → Clearing c b (ids.foldl (Broker.dismiss k) b')
  | [], _, h => h
  | id :: ids, b', h => dismissAll hb hk ids (b'.dismiss k id) (h.dismiss hb hk id)

theorem removeService (h : Clearing c b b') (hb : b.SoundBooks child start) (hk : k.child = c) :
    Clearing c b (b'.removeService k) := by
  have hb' := h.1.sound hb.sound
  obtain ⟨-, gone, hcleared⟩ := dismissAll hb hk b'.sessions.keys b' h
  exact ⟨h.1.trans (endings_removeService hb' k), gone, hcleared.forget hk (lost_dismissAll hb' k)⟩

theorem removeServices (hb : b.SoundBooks child start) : ∀ (ks : List ChildKey) (b' : Broker), (∀ k ∈ ks, k.child = c) →
    Clearing c b b' → Clearing c b (ks.foldl Broker.removeService b')
  | [], _, _, h => h
  | k :: ks, b', hks, h => by
    have hservice := h.removeService hb (hks k List.mem_cons_self)
    exact removeServices hb ks (b'.removeService k) (fun k' hk' => hks k' (List.mem_cons_of_mem _ hk')) hservice

end Clearing

theorem standing?_dismissAll (k k' : ChildKey) : ∀ (ids : List ServerId) (b : Broker),
    (ids.foldl (dismiss k) b).providers.standing? k'.provider = b.providers.standing? k'.provider
  | [], _ => rfl
  | id :: ids, b =>
    (standing?_dismissAll k k' ids (b.dismiss k id)).trans
      ((chores_dismiss b id k).stands.providers.standing?_eq fun _ hn => by cases hn)

/-- A service that is forgotten stays so while others are. -/
theorem forgotten_removeServices (k : ChildKey) : ∀ (ks : List ChildKey) (b : Broker),
    k ∈ ks ∨ b.providers.standing? k.provider = none →
    (ks.foldl removeService b).providers.standing? k.provider = none
  | [], _, h => h.resolve_left List.not_mem_nil
  | k' :: ks, b, h => by
    have hstanding : (b.removeService k').providers.standing? k.provider =
        if k.provider = k'.provider then none else b.providers.standing? k.provider := by
      rw [removeService, Registry.standing?_forgotten, standing?_dismissAll]
    refine forgotten_removeServices k ks (b.removeService k') ?_
    rw [hstanding]
    rcases h with hmem | hnone
    · rcases List.mem_cons.1 hmem with rfl | hmem
      · exact .inr (if_pos rfl)
      · exact .inl hmem
    · right
      split
      · rfl
      · exact hnone

/-- Nothing of a child is left: its services are forgotten, and `gone` are all of its sessions that were not over. -/
structure Removed (c : String) (b : Broker) (gone : List (ServerId × Slot)) (b' : Broker) : Prop
    extends Cleared c b gone b' where
  services : ∀ n, b'.providers.children.find? ⟨c, n⟩ = none
  all : ∀ id t, b.sessions.find? id = some t → DependsOn t c → (id, t) ∈ gone

theorem mem_servicesOf {v : ChildService} (hv : b.providers.children.find? k = some v) :
    k ∈ b.providers.servicesOf k.child :=
  List.mem_filter.2 ⟨Table.mem_keys.2 ⟨v, hv⟩, beq_self_eq_true _⟩

theorem SoundBooks.removed (hb : b.SoundBooks child start) (c : String) :
    ∃ gone, Removed c b gone (b.removeChild c) := by
  have hks : ∀ k ∈ b.providers.servicesOf c, k.child = c := fun k hk => beq_iff_eq.1 (List.mem_filter.1 hk).2
  obtain ⟨-, gone, hcleared⟩ := Clearing.removeServices hb _ b hks ⟨.refl b, [], .refl c b⟩
  refine ⟨gone, hcleared, fun n => ?_, fun id ⟨s, provider⟩ hfound ⟨⟨n, hprovider⟩, hopen⟩ => ?_⟩
  · have hgone : (b.removeChild c).providers.standing? (ChildKey.provider ⟨c, n⟩) = none := by
      refine forgotten_removeServices ⟨c, n⟩ _ b ?_
      cases hv : b.providers.children.find? ⟨c, n⟩ with
      | some v => exact .inl (mem_servicesOf hv)
      | none => exact .inr (Option.map_eq_none_iff.2 hv)
    exact Option.map_eq_none_iff.1 hgone
  · -- a session that was left out would still be there, but all sessions of the child are over
    obtain rfl : provider = some (.child c n) := hprovider
    obtain ⟨v, hv⟩ := registered_of_open (k := ⟨c, n⟩) hb.sound hfound hopen
    have hover := lost_removeChild (k := ⟨c, n⟩) hb.sound (mem_servicesOf hv) id
    by_cases hmem : id ∈ gone.map (·.1)
    · obtain ⟨e, he, rfl⟩ := List.mem_map.1 hmem
      have hsame := Option.some.inj ((hcleared.found e he).1.symm.trans hfound)
      exact hsame ▸ he
    · have hended := hover _ ((hcleared.others id hmem).trans hfound) rfl
      rw [hopen] at hended
      cases hended

/-- **The removal of a child is complete and isolated.**  That is so in every state that is reached while only the
broker moves quota of the children's accounts. -/
theorem child_removed {env : Env} {config : RuntimeConfig} (hchild : ∀ a, child a → env.IsChildAccount a)
    (h : Reaches (fun env env' => ∀ a, child a → env.LeavesAlone a env')
      (fun _ op => ∀ k account, op = .announce k account → child account) (Broker.start env config) b)
    (hown : b.env.own < b.env.bank.accounts.length) (c : String) : ∃ gone, Removed c b gone (b.removeChild c) := by
  obtain ⟨hpaid, hledger⟩ := ledgers_of_reaches hchild h
  exact SoundBooks.removed ⟨h.sound (sound_start env config), hpaid, hledger, hown⟩ c

/-- A child goes that has two creates pending: both donations come back. -/
theorem child_removed_requestedTwice :
    (∃ gone, Removed "fs" requestedTwice gone (requestedTwice.removeChild "fs")) ∧
      (requestedTwice.env.bank.available .ram 0).val = 52 ∧
      ((requestedTwice.removeChild "fs").env.bank.available .ram 0).val = 64 ∧
      (requestedTwice.removeChild "fs").count .serviceDenied = 2 := by
  have hchild : ∀ a, a = 1 → sampleEnv.IsChildAccount a := by
    rintro a rfl
    exact ⟨⟨by decide, by decide, by decide⟩, by decide, fun r => by cases r <;> decide⟩
  exact ⟨child_removed hchild reaches_requestedTwice (by decide +kernel) "fs", by decide +kernel, by decide +kernel,
    by decide +kernel⟩

end Broker

end SessionBroker
