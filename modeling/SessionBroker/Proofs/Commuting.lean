import SessionBroker.Proofs.ChildLedger
import SessionBroker.Proofs.Isolation
import SessionBroker.Proofs.Movements
import SessionBroker.Proofs.Reversals

/-!
# SessionBroker.Proofs.Commuting — answers for different sessions commute

Two answers for different sessions meet in three places: both may move a donation back to the own account, both may
forget a request, and both end in a sweep.

* `Bank.tryPay_comm`: two refunds commute, if the accounts hold enough for both.
* `Registry.release_comm`, `sweep_release`, `sweep_sweep`: requests are forgotten in any order, before or after a sweep,
  and of two sweeps the later one counts, if no more is in use by then.
* `Broker.Fits`: an answer that fits the session of a request, and what it makes of it.
* `Broker.Commute`: two answers lead to the same results and the same broker in either order.
* `childAnswers_commute`: answers for different sessions do.
-/

namespace SessionBroker

namespace Bank

variable {b : Bank} {i j o : AccountId} {p q : Quota}

/-- A payment of what the account holds. -/
theorem tryPay_covered (hfit : b.Fits) (hij : i ≠ j) (hi : i < b.accounts.length)
    (hq : ∀ r, (q.get r).val ≤ (b.available r i).val) :
    (b.tryPay (some i) (some j) q).Fits ∧ (b.tryPay (some i) (some j) q).names = b.names ∧
      ∀ r k, k < b.accounts.length →
        ((b.tryPay (some i) (some j) q).available r k).val + (if k = i then (q.get r).val else 0) =
          (b.available r k).val + (if k = j then (q.get r).val else 0) := by
  obtain ⟨b', hpay, htry, -, htotal, -⟩ := pay_back hfit hij hi hq
  rw [htry]
  exact ⟨fun r => Nat.lt_of_le_of_lt (htotal r) (hfit r), names_pay hpay, fun r k hk => available_pay hpay (.inl hk) r⟩

/-- Two payments into one account, of what the payers hold together. -/
theorem tryPay_twice (hfit : b.Fits) (hio : i ≠ o) (hjo : j ≠ o) (hi : i < b.accounts.length)
    (hj : j < b.accounts.length) (hp : ∀ r, (p.get r).val ≤ (b.available r i).val)
    (hq : ∀ r, (q.get r).val + (if j = i then (p.get r).val else 0) ≤ (b.available r j).val) :
    ((b.tryPay (some i) (some o) p).tryPay (some j) (some o) q).names = b.names ∧
      ∀ r k, k < b.accounts.length →
        (((b.tryPay (some i) (some o) p).tryPay (some j) (some o) q).available r k).val +
            ((if k = i then (p.get r).val else 0) + (if k = j then (q.get r).val else 0)) =
          (b.available r k).val + ((if k = o then (p.get r).val else 0) + (if k = o then (q.get r).val else 0)) := by
  obtain ⟨hfit₁, hnames₁, hbooks₁⟩ := tryPay_covered hfit hio hi hp
  have hlen : (b.tryPay (some i) (some o) p).accounts.length = b.accounts.length := by
    rw [← length_names, hnames₁, length_names]
  have hq₁ : ∀ r, (q.get r).val ≤ ((b.tryPay (some i) (some o) p).available r j).val := by
    intro r
    have hheld := hbooks₁ r j hj
    have hboth := hq r
    rw [if_neg hjo] at hheld
    omega
  obtain ⟨-, hnames₂, hbooks₂⟩ := tryPay_covered hfit₁ hjo (by rw [hlen]; exact hj) hq₁
  refine ⟨hnames₂.trans hnames₁, fun r k hk => ?_⟩
  have hfirst := hbooks₁ r k hk
  have hsecond := hbooks₂ r k (by rw [hlen]; exact hk)
  omega

/-- Two payments into one account commute, if the payers hold enough for both. -/
theorem tryPay_comm (hfit : b.Fits) (hio : i ≠ o) (hjo : j ≠ o) (hi : i < b.accounts.length)
    (hj : j < b.accounts.length)
    (hp : ∀ r, (p.get r).val + (if i = j then (q.get r).val else 0) ≤ (b.available r i).val)
    (hq : ∀ r, (q.get r).val + (if j = i then (p.get r).val else 0) ≤ (b.available r j).val) :
    (b.tryPay (some i) (some o) p).tryPay (some j) (some o) q =
      (b.tryPay (some j) (some o) q).tryPay (some i) (some o) p := by
  obtain ⟨hnames, hbooks⟩ := tryPay_twice hfit hio hjo hi hj (fun r => Nat.le_of_add_right_le (hp r)) hq
  obtain ⟨hnames', hbooks'⟩ := tryPay_twice hfit hjo hio hj hi (fun r => Nat.le_of_add_right_le (hq r)) hp
  refine eq_of_available (hnames.trans hnames'.symm) fun r k => ?_
  by_cases hk : k < b.accounts.length
  · have hone := hbooks r k hk
    have hother := hbooks' r k hk
    ext1
    omega
  · have hgone : ∀ c : Bank, c.names = b.names → c.available r k = 0 := by
      intro c hc
      refine available_of_length_le r ?_
      rw [← length_names, hc, length_names]
      exact Nat.le_of_not_lt hk
    rw [hgone _ hnames, hgone _ hnames']

end Bank

/-- Requests are forgotten in any order. -/
theorem Desk.release_comm (d : Desk) (i j : ClientId) : (d.release i).release j = (d.release j).release i := by
  simp only [Desk.release, IdSpace.erase, Table.erase_comm d.requests.table i j]

namespace Registry

theorem release_comm (r : Registry) (i j : ClientId) (p q : Provider) :
    (r.release i p).release j q = (r.release j q).release i p := by
  cases p with
  | here n | parent n => rfl
  | later n =>
    cases q with
    | here m | parent m | child c m => rfl
    | later m =>
      have hdesks : (r.desks.modify n fun d => d.release i).modify m (fun d => d.release j) =
          (r.desks.modify m fun d => d.release j).modify n fun d => d.release i :=
        Table.modify_comm _ fun _ d => Desk.release_comm d i j
      simp only [release, hdesks]
  | child c n =>
    cases q with
    | here m | parent m | later m => rfl
    | child c' m =>
      have hchildren : (r.children.modify ⟨c, n⟩ fun v => { v with desk := v.desk.release i }).modify ⟨c', m⟩
            (fun v => { v with desk := v.desk.release j }) =
          (r.children.modify ⟨c', m⟩ fun v => { v with desk := v.desk.release j }).modify ⟨c, n⟩
            fun v => { v with desk := v.desk.release i } :=
        Table.modify_comm _ fun _ v => by rw [Desk.release_comm v.desk i j]
      simp only [release, hchildren]

/-- A request is forgotten before or after a sweep. -/
theorem sweep_release (r : Registry) (inUse : Provider → Bool) (i : ClientId) (p : Provider) :
    (r.release i p).sweep inUse = (r.sweep inUse).release i p := by
  cases p with
  | here n | parent n | later n => rfl
  | child c n =>
    have hchildren : (r.children.modify ⟨c, n⟩ fun v => { v with desk := v.desk.release i }).filter
          (fun k v => !v.abandoned || inUse k.provider) =
        (r.children.filter fun k v => !v.abandoned || inUse k.provider).modify ⟨c, n⟩
          fun v => { v with desk := v.desk.release i } := Table.filter_modify _ fun _ => rfl
    simp only [release, sweep, hchildren]

/-- Of two sweeps the later one counts, if no more is in use by then. -/
theorem sweep_sweep (r : Registry) {inUse inUse' : Provider → Bool} (h : ∀ p, inUse' p = true → inUse p = true) :
    (r.sweep inUse).sweep inUse' = r.sweep inUse' := by
  have hkeep : ∀ (gone : Bool) p, (!gone || inUse' p) = true → (!gone || inUse p) = true := by
    intro gone p hused
    rw [Bool.or_eq_true] at hused ⊢
    exact hused.imp_right (h p)
  have hparents : ((r.parents.filter fun n v => !v.abandoned || inUse (.parent n)).filter
      fun n v => !v.abandoned || inUse' (.parent n)) = r.parents.filter fun n v => !v.abandoned || inUse' (.parent n) :=
    Table.filter_filter_of_imp _ fun n v => hkeep v.abandoned (.parent n)
  have hchildren : ((r.children.filter fun k v => !v.abandoned || inUse k.provider).filter
      fun k v => !v.abandoned || inUse' k.provider) = r.children.filter fun k v => !v.abandoned || inUse' k.provider :=
    Table.filter_filter_of_imp _ fun k v => hkeep v.abandoned k.provider
  simp only [sweep, hparents, hchildren]

/-- The services of children are paid into accounts of children. -/
def PaidInto (child : AccountId → Prop) (r : Registry) : Prop := ∀ k v, r.children.find? k = some v → child v.account

theorem Move.paidInto {new : ChildKey → AccountId → Prop} {child : AccountId → Prop} {r r' : Registry}
    (h : Move new r r') (hnew : ∀ k account, new k account → child account) (hr : r.PaidInto child) :
    r'.PaidInto child := by
  intro k v' hv'
  rcases h.proceeds k with hproceeds | ⟨account, hannounced, hv⟩
  · obtain ⟨v, hv, haccount, -⟩ := hproceeds v' hv'
    rw [← haccount]
    exact hr k v hv
  · obtain rfl := Option.some.inj (hv.symm.trans hv')
    exact hnew k account hannounced

end Registry

namespace Broker

variable {b c : Broker} {id id₁ id₂ : ServerId} {k k₁ k₂ : ChildKey} {i i₁ i₂ : ClientId} {r r₁ r₂ : Response}
  {s s' s₁ s₁' s₂ s₂' : Session} {n n₁ n₂ : Notice}

/-! ### One answer -/

/-- An answer to a request fits the session that refers to it, and makes `s'` of it. -/
structure Fits (b : Broker) (k : ChildKey) (i : ClientId) (r : Response) (id : ServerId) (s s' : Session)
    (n : Notice) : Prop where
  found : b.sessions.find? id = some ⟨s, some k.provider⟩
  posted : s.downstream = some i
  responds : s.Responds r s' n

/-- The broker after an answer, before the sweep. -/
abbrev heard (b : Broker) (k : ChildKey) (id : ServerId) (s s' : Session) (n : Notice) : Broker :=
  b.responded k.provider id s s' n

theorem sessions_heard (b : Broker) (k : ChildKey) (id : ServerId) (s s' : Session) (n : Notice) :
    (b.heard k id s s' n).sessions = b.sessions.modify id fun t => { t with session := s' } := rfl

/-- An answer to the request of a session fits it, or it is refused. -/
theorem fits_or_refused (hb : b.Sound) (hfound : b.sessions.find? id = some ⟨s, some k.provider⟩)
    (hposted : s.downstream = some i) (r : Response) :
    (∃ s' n, b.Fits k i r id s s' n) ∨
      (∀ s' n, ¬s.Responds r s' n) ∧
        b.childAnswer k i r = (.error (.protocol (.invalidState id.num s.phase)), b) := by
  by_cases h : ∃ s' n, s.Responds r s' n
  · obtain ⟨s', n, hr⟩ := h
    exact .inl ⟨s', n, hfound, hposted, hr⟩
  · have hnone : ∀ s' n, ¬s.Responds r s' n := fun s' n hr => h ⟨s', n, hr⟩
    refine .inr ⟨hnone, ?_⟩
    rw [childAnswer_of_refers hb hfound hposted]
    cases hsettle : b.settle k.provider id s r with
    | none => rfl
    | some b' => exact absurd (exists_responds hsettle) h

namespace Fits

theorem childAnswer (h : b.Fits k i r id s s' n) (hb : b.Sound) :
    b.childAnswer k i r = (.ok (), (b.heard k id s s' n).sweep) :=
  childAnswer_of_responds hb h.found h.posted h.responds

theorem sound_heard (h : b.Fits k i r id s s' n) (hb : b.Sound) : (b.heard k id s s' n).Sound :=
  sound_responded hb h.found h.responds

theorem sound (h : b.Fits k i r id s s' n) (hb : b.Sound) : (b.heard k id s s' n).sweep.Sound :=
  (rearranged_sweep (h.sound_heard hb)).sound (h.sound_heard hb)

/-- An answer that fits still fits after an answer for another session. -/
theorem heard (h₂ : b.Fits k₂ i₂ r₂ id₂ s₂ s₂' n₂) (hne : id₂ ≠ id₁) :
    (b.heard k₁ id₁ s₁ s₁' n₁).Fits k₂ i₂ r₂ id₂ s₂ s₂' n₂ :=
  ⟨(find?_responded_of_ne hne).trans h₂.found, h₂.posted, h₂.responds⟩

theorem sweep (h : b.Fits k i r id s s' n) : b.sweep.Fits k i r id s s' n := ⟨h.found, h.posted, h.responds⟩

/-- The request of a session that has ended is forgotten. -/
theorem providers_heard (h : b.Fits k i r id s s' n) :
    (b.heard k id s s' n).providers =
      if s'.phase.isEnded then b.providers.release i k.provider else b.providers := by
  show (if s'.phase.isEnded then (b.release k.provider s).providers else b.providers) = _
  unfold release
  rw [h.posted]

/-- A sweep may be made before an answer, if another one follows. -/
theorem providers_heard_sweep (h : b.Fits k i r id s s' n) :
    (b.sweep.heard k id s s' n).providers = (b.heard k id s s' n).providers.sweep b.inUse := by
  rw [h.sweep.providers_heard, h.providers_heard]
  split
  · exact (Registry.sweep_release _ _ _ _).symm
  · rfl

/-- The provider of the session is in use before the answer, so no more is in use after it. -/
theorem inUse_of_heard (h : b.Fits k i r id s s' n) (hb : b.Sound) (p : Provider)
    (hp : (b.heard k id s s' n).inUse p = true) : b.inUse p = true := by
  obtain ⟨j, u, hu, halive⟩ := inUse_iff.1 hp
  by_cases hj : j = id
  · subst hj
    have hself : (b.heard k j s s' n).sessions.find? j = some ⟨s', some k.provider⟩ := find?_responded_self h.found
    obtain ⟨-, hp⟩ := Slot.mk.inj (Option.some.inj (hself.symm.trans hu))
    obtain rfl := Option.some.inj hp
    exact inUse_of_alive h.found rfl ((hb.slots j _ h.found).isAlive_of_downstream h.posted)
  · exact inUse_iff.2 ⟨j, u, (find?_responded_of_ne hj).symm.trans hu, halive⟩

/-- The account of a provider stays that of the sessions that still need it. -/
theorem account_heard (h : b.Fits k i r id s s' n) (hb : b.Sound) {j : ServerId} {t : Slot} {p : Provider} (hj : j ≠ id)
    (ht : b.sessions.find? j = some t) (hp : t.provider = some p) (hlive : t.session.phase.isEnded = false) :
    (b.heard k id s s' n).sweep.providers.account p = b.providers.account p := by
  have hthere : (b.heard k id s s' n).sessions.find? j = some t := (find?_responded_of_ne hj).trans ht
  have hswept := ((rearranged_sweep (h.sound_heard hb)).account j t p hthere hp).resolve_left (by simp [hlive])
  rw [hswept, h.providers_heard]
  split
  · exact Registry.account_release hb.builtIn i k.provider p
  · rfl

/-- A session that has a request has not ended. -/
theorem not_ended (h : b.Fits k i r id s s' n) (hb : b.Sound) : s.phase.isEnded = false := by
  cases hended : s.phase.isEnded with
  | false => rfl
  | true =>
    obtain ⟨-, hnone, -⟩ := (hb.slots id _ h.found).ended hended
    have hnone : s.downstream = none := hnone
    rw [h.posted] at hnone
    cases hnone

end Fits

/-! ### Two answers -/

/-- The bank after an answer: a session that has ended gets its donation moved back. -/
def refunded (b : Broker) (k : ChildKey) (s s' : Session) (bank : Bank) : Bank :=
  if s'.phase.isEnded then bank.tryPay (b.providers.account k.provider) b.ownAccount s.donated else bank

/-- Two brokers that agree, but for the order in which the parent was told things. -/
structure Agree (b b' : Broker) : Prop where
  sessions : b'.sessions = b.sessions
  bank : b'.env.bank = b.env.bank
  providers : b'.providers = b.providers
  told : b'.env.trace.Perm b.env.trace

theorem Agree.refl (b : Broker) : Agree b b := ⟨rfl, rfl, rfl, .refl _⟩

/-- The donations of two sessions are covered by the account that they were paid into. -/
theorem donations_covered {a : AccountId} {start : Resource → Nat} (hl : b.Ledger a start) {t₁ t₂ : Slot}
    (h₁ : b.sessions.find? id₁ = some t₁) (h₂ : b.sessions.find? id₂ = some t₂) (hne : id₂ ≠ id₁)
    (hpaid : b.payee t₁ = some a) (r : Resource) :
    (t₁.session.donated.get r).val + (if b.payee t₂ = some a then (t₂.session.donated.get r).val else 0) ≤
      (b.env.bank.available r a).val := by
  have hboth : b.share a r t₁ + b.share a r t₂ ≤ b.donatedTo a r :=
    Table.add_le_sum (fun _ t => b.share a r t) hne h₁ h₂
  have hbalance := hl.balance r
  rw [share_eq_donated hpaid] at hboth
  unfold share at hboth
  omega

/-- The donations of two sessions may be moved back in either order. -/
theorem refunded_comm {child : AccountId → Prop} (hpaid : b.providers.PaidInto child)
    (hledger : ∀ a, child a → ∃ start, b.Ledger a start)
    (h₁ : b.sessions.find? id₁ = some ⟨s₁, some k₁.provider⟩) (h₂ : b.sessions.find? id₂ = some ⟨s₂, some k₂.provider⟩)
    (hne : id₁ ≠ id₂) :
    b.refunded k₂ s₂ s₂' (b.refunded k₁ s₁ s₁' b.env.bank) =
      b.refunded k₁ s₁ s₁' (b.refunded k₂ s₂ s₂' b.env.bank) := by
  unfold refunded
  split
  · split
    · rw [Registry.account_child, Registry.account_child]
      cases hv₁ : b.providers.children.find? k₁ with
      | none => rfl
      | some v₁ =>
        cases hv₂ : b.providers.children.find? k₂ with
        | none => rfl
        | some v₂ =>
          obtain ⟨start₁, hl₁⟩ := hledger v₁.account (hpaid k₁ v₁ hv₁)
          obtain ⟨start₂, hl₂⟩ := hledger v₂.account (hpaid k₂ v₂ hv₂)
          have hpayee₁ : b.payee ⟨s₁, some k₁.provider⟩ = some v₁.account := by
            show b.providers.account k₁.provider = _
            rw [Registry.account_child, hv₁]
            rfl
          have hpayee₂ : b.payee ⟨s₂, some k₂.provider⟩ = some v₂.account := by
            show b.providers.account k₂.provider = _
            rw [Registry.account_child, hv₂]
            rfl
          have hcovered₁ := donations_covered hl₁ h₁ h₂ hne.symm hpayee₁
          have hcovered₂ := donations_covered hl₂ h₂ h₁ hne hpayee₂
          simp only [hpayee₁, hpayee₂, Option.some.injEq] at hcovered₁ hcovered₂
          refine Bank.tryPay_comm hl₁.account.fits (Ne.symm hl₁.account.spares.own) (Ne.symm hl₂.account.spares.own)
            hl₁.account.held hl₂.account.held (fun r => ?_) fun r => ?_
          · rw [if_congr eq_comm rfl rfl]
            exact hcovered₁ r
          · rw [if_congr eq_comm rfl rfl]
            exact hcovered₂ r
    · rfl
  · rfl

section Both

variable (hb : b.Sound) (h₁ : b.Fits k₁ i₁ r₁ id₁ s₁ s₁' n₁) (h₂ : b.Fits k₂ i₂ r₂ id₂ s₂ s₂' n₂) (hne : id₂ ≠ id₁)

include hb h₁ h₂ hne

/-- After two answers the later sweep counts. -/
theorem providers_twice :
    ((b.heard k₁ id₁ s₁ s₁' n₁).sweep.heard k₂ id₂ s₂ s₂' n₂).sweep.providers =
      ((b.heard k₁ id₁ s₁ s₁' n₁).heard k₂ id₂ s₂ s₂' n₂).providers.sweep
        ((b.heard k₁ id₁ s₁ s₁' n₁).heard k₂ id₂ s₂ s₂' n₂).inUse := by
  have hfits : (b.heard k₁ id₁ s₁ s₁' n₁).Fits k₂ i₂ r₂ id₂ s₂ s₂' n₂ := h₂.heard hne
  have hless := hfits.inUse_of_heard (h₁.sound_heard hb)
  show ((b.heard k₁ id₁ s₁ s₁' n₁).sweep.heard k₂ id₂ s₂ s₂' n₂).providers.sweep
    ((b.heard k₁ id₁ s₁ s₁' n₁).heard k₂ id₂ s₂ s₂' n₂).inUse = _
  rw [hfits.providers_heard_sweep]
  exact Registry.sweep_sweep _ hless

/-- After two answers both donations are moved back, if both sessions have ended. -/
theorem bank_twice :
    ((b.heard k₁ id₁ s₁ s₁' n₁).sweep.heard k₂ id₂ s₂ s₂' n₂).sweep.env.bank =
      b.refunded k₂ s₂ s₂' (b.refunded k₁ s₁ s₁' b.env.bank) := by
  have haccount := h₁.account_heard hb hne h₂.found rfl (h₂.not_ended hb)
  unfold refunded
  rw [← haccount]
  rfl

end Both

/-- Two answers that fit lead to the same in either order. -/
theorem agree_of_fits {child : AccountId → Prop} (hb : b.Sound) (hpaid : b.providers.PaidInto child)
    (hledger : ∀ a, child a → ∃ start, b.Ledger a start) (h₁ : b.Fits k₁ i₁ r₁ id₁ s₁ s₁' n₁)
    (h₂ : b.Fits k₂ i₂ r₂ id₂ s₂ s₂' n₂) (hne : id₁ ≠ id₂) :
    Agree ((b.heard k₁ id₁ s₁ s₁' n₁).sweep.heard k₂ id₂ s₂ s₂' n₂).sweep
      ((b.heard k₂ id₂ s₂ s₂' n₂).sweep.heard k₁ id₁ s₁ s₁' n₁).sweep := by
  have hsessions : ((b.heard k₂ id₂ s₂ s₂' n₂).heard k₁ id₁ s₁ s₁' n₁).sessions =
      ((b.heard k₁ id₁ s₁ s₁' n₁).heard k₂ id₂ s₂ s₂' n₂).sessions := by
    simp only [sessions_heard]
    exact Table.modify_comm _ fun h => absurd h hne
  refine ⟨hsessions, ?_, ?_, ?_⟩
  · rw [bank_twice hb h₁ h₂ hne.symm, bank_twice hb h₂ h₁ hne]
    exact refunded_comm hpaid hledger h₂.found h₁.found hne.symm
  · rw [providers_twice hb h₁ h₂ hne.symm, providers_twice hb h₂ h₁ hne]
    have huse : ((b.heard k₂ id₂ s₂ s₂' n₂).heard k₁ id₁ s₁ s₁' n₁).inUse =
        ((b.heard k₁ id₁ s₁ s₁' n₁).heard k₂ id₂ s₂ s₂' n₂).inUse := by
      unfold inUse
      rw [hsessions]
    have hreleased : ((b.heard k₂ id₂ s₂ s₂' n₂).heard k₁ id₁ s₁ s₁' n₁).providers =
        ((b.heard k₁ id₁ s₁ s₁' n₁).heard k₂ id₂ s₂ s₂' n₂).providers := by
      rw [(h₁.heard hne).providers_heard, h₂.providers_heard, (h₂.heard hne.symm).providers_heard, h₁.providers_heard]
      split
      · split
        · exact Registry.release_comm _ _ _ _ _
        · rfl
      · rfl
    rw [huse, hreleased]
  · have htrace : ∀ e e', (b.env.trace ++ [e]) ++ [e'] = b.env.trace ++ [e, e'] :=
      fun e e' => List.append_assoc _ _ _
    show ((b.env.trace ++ [n₂.event id₂]) ++ [n₁.event id₁]).Perm ((b.env.trace ++ [n₁.event id₁]) ++ [n₂.event id₂])
    rw [htrace, htrace]
    exact (List.Perm.swap _ _ _).append_left _

/-- Two answers of children lead to the same in either order: each has the same result, and so have both together. -/
structure Commute (b : Broker) (k₁ : ChildKey) (i₁ : ClientId) (r₁ : Response) (k₂ : ChildKey) (i₂ : ClientId)
    (r₂ : Response) : Prop where
  first : ((b.childAnswer k₂ i₂ r₂).2.childAnswer k₁ i₁ r₁).1 = (b.childAnswer k₁ i₁ r₁).1
  second : ((b.childAnswer k₁ i₁ r₁).2.childAnswer k₂ i₂ r₂).1 = (b.childAnswer k₂ i₂ r₂).1
  both : Agree ((b.childAnswer k₁ i₁ r₁).2.childAnswer k₂ i₂ r₂).2 ((b.childAnswer k₂ i₂ r₂).2.childAnswer k₁ i₁ r₁).2

theorem Commute.symm (h : b.Commute k₁ i₁ r₁ k₂ i₂ r₂) : b.Commute k₂ i₂ r₂ k₁ i₁ r₁ :=
  ⟨h.second, h.first, h.both.sessions.symm, h.both.bank.symm, h.both.providers.symm, h.both.told.symm⟩

/-- An answer that is refused is refused after an answer for another session, too. -/
theorem commute_of_refused (hb : b.Sound) (h₁ : b.Fits k₁ i₁ r₁ id₁ s₁ s₁' n₁)
    (hfound : b.sessions.find? id₂ = some ⟨s₂, some k₂.provider⟩) (hposted : s₂.downstream = some i₂)
    (hnone : ∀ s' n, ¬s₂.Responds r₂ s' n) (hne : id₂ ≠ id₁) : b.Commute k₁ i₁ r₁ k₂ i₂ r₂ := by
  have hrefused : ∀ {c : Broker}, c.Sound → c.sessions.find? id₂ = some ⟨s₂, some k₂.provider⟩ →
      c.childAnswer k₂ i₂ r₂ = (.error (.protocol (.invalidState id₂.num s₂.phase)), c) := by
    intro c hc hfound
    rcases fits_or_refused hc hfound hposted r₂ with ⟨s', n, hfits⟩ | ⟨-, heq⟩
    · exact absurd hfits.responds (hnone s' n)
    · exact heq
  have hthere : (b.heard k₁ id₁ s₁ s₁' n₁).sessions.find? id₂ = some ⟨s₂, some k₂.provider⟩ :=
    (find?_responded_of_ne hne).trans hfound
  have hbefore := hrefused hb hfound
  have hafter := hrefused (h₁.sound hb) hthere
  refine ⟨?_, ?_, ?_⟩
  · rw [hbefore]
  · rw [h₁.childAnswer hb, hafter, hbefore]
  · rw [hbefore, h₁.childAnswer hb, hafter]
    exact .refl _

/-- What is paid to the services of children is on the books of their accounts, in every state that is reached. -/
theorem ledgers_of_reaches {child : AccountId → Prop} {env : Env} {config : RuntimeConfig}
    (hchild : ∀ a, child a → env.IsChildAccount a)
    (h : Reaches (fun env env' => ∀ a, child a → env.LeavesAlone a env')
      (fun _ op => ∀ k account, op = .announce k account → child account) (start env config) b) :
    b.providers.PaidInto child ∧ ∀ a, child a → b.Ledger a fun r => (env.bank.available r a).val := by
  refine ⟨?_, fun a ha => (h.ledger (hchild a ha) fun _ _ haround => haround a ha).2⟩
  induction h with
  | refl =>
    intro k v hv
    cases hv
  | op op _ _ hallowed ih =>
    refine (moves_step _ op).invariant ih fun r r' hone hr => hone.paidInto (fun k account hnew => ?_) hr
    exact hallowed k account hnew.1
  | around _ _ ih => exact ih

/-- In every state that is reached while only the broker moves quota of the children's accounts, two answers to posted
requests of different sessions, of one child or of two, may be delivered in either order: each has the same result, and
both together lead to the same sessions, balances and providers. -/
theorem childAnswers_commute {child : AccountId → Prop} {env : Env} {config : RuntimeConfig}
    (hchild : ∀ a, child a → env.IsChildAccount a)
    (h : Reaches (fun env env' => ∀ a, child a → env.LeavesAlone a env')
      (fun _ op => ∀ k account, op = .announce k account → child account) (start env config) b)
    (h₁ : b.Refers id₁ k₁ i₁) (h₂ : b.Refers id₂ k₂ i₂) (hne : id₁ ≠ id₂) (r₁ r₂ : Response) :
    b.Commute k₁ i₁ r₁ k₂ i₂ r₂ := by
  have hb : b.Sound := h.sound (sound_start env config)
  obtain ⟨hpaid, hledgers⟩ := ledgers_of_reaches hchild h
  have hledger : ∀ a, child a → ∃ start, b.Ledger a start := fun a ha => ⟨_, hledgers a ha⟩
  obtain ⟨⟨s₁, provider₁⟩, hfound₁, hp₁, hposted₁⟩ := h₁
  obtain ⟨⟨s₂, provider₂⟩, hfound₂, hp₂, hposted₂⟩ := h₂
  obtain rfl : provider₁ = some k₁.provider := hp₁
  obtain rfl : provider₂ = some k₂.provider := hp₂
  rcases fits_or_refused hb hfound₁ hposted₁ r₁ with ⟨s₁', n₁, hfits₁⟩ | ⟨hnone₁, hsame₁⟩
  · rcases fits_or_refused hb hfound₂ hposted₂ r₂ with ⟨s₂', n₂, hfits₂⟩ | ⟨hnone₂, -⟩
    · have hfits₁' : (b.heard k₂ id₂ s₂ s₂' n₂).sweep.Fits k₁ i₁ r₁ id₁ s₁ s₁' n₁ := (hfits₁.heard hne).sweep
      have hfits₂' : (b.heard k₁ id₁ s₁ s₁' n₁).sweep.Fits k₂ i₂ r₂ id₂ s₂ s₂' n₂ := (hfits₂.heard hne.symm).sweep
      have hone := hfits₁.childAnswer hb
      have hother := hfits₂.childAnswer hb
      have hone' := hfits₁'.childAnswer (hfits₂.sound hb)
      have hother' := hfits₂'.childAnswer (hfits₁.sound hb)
      refine ⟨?_, ?_, ?_⟩
      · rw [hother, hone', hone]
      · rw [hone, hother', hother]
      · rw [hone, hother, hone', hother']
        exact agree_of_fits hb hpaid hledger hfits₁ hfits₂ hne
    · exact commute_of_refused hb hfits₁ hfound₂ hposted₂ hnone₂ hne.symm
  · rcases fits_or_refused hb hfound₂ hposted₂ r₂ with ⟨s₂', n₂, hfits₂⟩ | ⟨-, hsame₂⟩
    · exact (commute_of_refused hb hfits₂ hfound₁ hposted₁ hnone₁ hne).symm
    · refine ⟨?_, ?_, ?_⟩
      · rw [hsame₂]
      · rw [hsame₁]
      · rw [hsame₁, hsame₂, hsame₁]
        exact .refl b

/-- Two sessions of the child's service are requested, and the child has answered neither. -/
def requestedTwice : Broker :=
  (start sampleEnv sampleConfig).run [.announce ⟨"fs", "log"⟩ 1, .create ⟨1⟩ "log" "ram_quota=5" {},
    .create ⟨0⟩ "log" "ram_quota=7" {}]

theorem reaches_requestedTwice {around : Env → Env → Prop} :
    Reaches around (fun _ op => ∀ k account, op = .announce k account → account = 1) (start sampleEnv sampleConfig)
      requestedTwice :=
  reaches_run _ .refl (by simp [Op.IsBuiltIn])

/-- A child may deny one create first or find too little quota for the other one first: both donations go back. -/
theorem childAnswers_commute_requestedTwice :
    requestedTwice.Commute ⟨"fs", "log"⟩ ⟨0⟩ .denied ⟨"fs", "log"⟩ ⟨1⟩ .insufficientRam ∧
      ((requestedTwice.childAnswer ⟨"fs", "log"⟩ ⟨0⟩ .denied).2.childAnswer ⟨"fs", "log"⟩ ⟨1⟩ .insufficientRam).1.isOk ∧
      (requestedTwice.env.bank.available .ram 0).val = 52 ∧
      (((requestedTwice.childAnswer ⟨"fs", "log"⟩ ⟨0⟩ .denied).2.childAnswer ⟨"fs", "log"⟩ ⟨1⟩
        .insufficientRam).2.env.bank.available .ram 0).val = 64 := by
  have hchild : ∀ a, a = 1 → sampleEnv.IsChildAccount a := by
    rintro a rfl
    exact ⟨⟨by decide, by decide, by decide⟩, by decide, fun r => by cases r <;> decide⟩
  have h₁ : requestedTwice.Refers ⟨1⟩ ⟨"fs", "log"⟩ ⟨0⟩ := ⟨_, rfl, by decide +kernel, by decide +kernel⟩
  have h₂ : requestedTwice.Refers ⟨0⟩ ⟨"fs", "log"⟩ ⟨1⟩ := ⟨_, rfl, by decide +kernel, by decide +kernel⟩
  exact ⟨childAnswers_commute hchild reaches_requestedTwice h₁ h₂ (by decide) .denied .insufficientRam,
    by decide +kernel, by decide +kernel, by decide +kernel⟩

end Broker

end SessionBroker
