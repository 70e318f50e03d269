import SessionBroker.Proofs.Histories

/-!
# SessionBroker.Proofs.ChildLedger — the books of a child's account

* `Env.IsChildAccount i`: account `i` exists, belongs neither to the component nor to its parent, and no sum of
  balances overflows.
* `Broker.donatedTo i r`: the donations of the sessions whose provider is paid into account `i`.
* `Broker.Balanced`: the books are right, and every donation can be moved back.
* `child_ledger`: they are so in every state that is reached while nobody else moves quota of the account.
-/

namespace SessionBroker

namespace Env

/-- Whether an account can be that of a child: it exists, it is neither the own account nor one that the parent moves
quota of, and all balances together fit in a word. -/
structure IsChildAccount (env : Env) (i : AccountId) : Prop where
  spares : env.Spares i
  held : i < env.bank.accounts.length
  fits : env.bank.Fits

/-- The surroundings change, and nobody moves quota of account `i`. -/
structure LeavesAlone (i : AccountId) (env env' : Env) : Prop where
  account : env'.IsChildAccount i
  available : ∀ r, env'.bank.available r i = env.bank.available r i

theorem IsChildAccount.of_keeps {env env' : Env} {i : AccountId} (h : env.IsChildAccount i) (hkeeps : env.Keeps env') :
    env.LeavesAlone i env' := by
  obtain ⟨hspares, huntouched⟩ := hkeeps.spares i h.spares
  refine ⟨⟨hspares, by rw [huntouched.length]; exact h.held, fun r => ?_⟩, huntouched.available⟩
  exact Nat.lt_of_le_of_lt (huntouched.total r) (h.fits r)

end Env

namespace Payment

/-- What a payment adds to the account of the provider. -/
def given : Payment → Resource → Nat
  | .paid q, r => (q.get r).val
  | .none, _ | .refunded, _ => 0

/-- What a payment takes from the account of the provider, of the donation on record. -/
def taken : Payment → Quota → Resource → Nat
  | .refunded, d, r => (d.get r).val
  | .none, _, _ | .paid _, _, _ => 0

/-- The donation on record changes by what is moved, unless the sum saturates. -/
theorem record_add_taken (m : Payment) (d : Quota) (r : Resource)
    (hfit : ∀ q, m = .paid q → (d.get r).val + (q.get r).val < 0x10000000000000000) :
    ((m.record d).get r).val + m.taken d r = (d.get r).val + m.given r := by
  cases m with
  | none => rfl
  | refunded =>
    simp only [record, taken, given, Quota.val_get_zero]
    omega
  | paid q =>
    have := hfit q rfl
    simp only [record, taken, given, Quota.val_get_add]
    omega

/-- A payment to or from another account leaves a child's account alone, and one to or from it is made in full. -/
theorem Settles.account {m : Payment} {x : AccountRef} {d : Quota} {env env' : Env} {i : AccountId}
    (h : m.Settles x d env env') (hi : env.IsChildAccount i)
    (hd : x = some i → ∀ r, m.taken d r ≤ (env.bank.available r i).val) :
    env'.IsChildAccount i ∧ ∀ r, (env'.bank.available r i).val + (if x = some i then m.taken d r else 0) =
      (env.bank.available r i).val + (if x = some i then m.given r else 0) := by
  obtain ⟨e, hkeeps, hown, hparent, hmoves⟩ := h
  obtain ⟨⟨hspares, hheld, hfits⟩, havail⟩ := hi.of_keeps hkeeps
  have hspares' : env'.Spares i :=
    ⟨by rw [hown]; exact hspares.own, by rw [hparent]; exact hspares.parent, by rw [hparent]; exact hspares.grants⟩
  have howner : env.own ≠ i := hi.spares.own
  have hother : some env.own ≠ some i := fun he => howner (Option.some.inj he)
  have huntouched : e.bank.Untouched i env'.bank → x ≠ some i →
      env'.IsChildAccount i ∧ ∀ r, (env'.bank.available r i).val + (if x = some i then m.taken d r else 0) =
        (env.bank.available r i).val + (if x = some i then m.given r else 0) := by
    intro hsame hx
    refine ⟨⟨hspares', by rw [hsame.length]; exact hheld, fun r => Nat.lt_of_le_of_lt (hsame.total r) (hfits r)⟩,
      fun r => ?_⟩
    rw [if_neg hx, if_neg hx, hsame.available, havail]
  cases m with
  | none =>
    have hbank : env'.bank = e.bank := hmoves
    refine ⟨⟨hspares', by rw [hbank]; exact hheld, by rw [hbank]; exact hfits⟩, fun r => ?_⟩
    rw [hbank, havail]
    simp [given, taken]
  | paid q =>
    have hpay : e.bank.pay (some env.own) x q = .ok env'.bank := hmoves
    by_cases hx : x = some i
    · subst hx
      obtain ⟨hlen, htotal, hinto⟩ := Bank.pay_into hpay howner hheld
      refine ⟨⟨hspares', by rw [hlen]; exact hheld, fun r => Nat.lt_of_le_of_lt (htotal r) (hfits r)⟩, fun r => ?_⟩
      rw [hinto, havail]
      simp [given, taken]
    · exact huntouched (.pay hpay hother hx) hx
  | refunded =>
    have htake : env'.bank = e.bank.tryPay x (some env.own) d := hmoves
    by_cases hx : x = some i
    · subst hx
      have henough : ∀ r, (d.get r).val ≤ (e.bank.available r i).val := fun r => by
        rw [havail]
        exact hd rfl r
      obtain ⟨bank, -, htry, hlen, htotal, hback⟩ := Bank.pay_back hfits (Ne.symm howner) hheld henough
      rw [htry] at htake
      refine ⟨⟨hspares', by rw [htake, hlen]; exact hheld,
        fun r => by rw [htake]; exact Nat.lt_of_le_of_lt (htotal r) (hfits r)⟩, fun r => ?_⟩
      have := hback r
      rw [htake, ← havail]
      simp only [given, taken, if_true]
      omega
    · exact huntouched (by rw [htake]; exact .tryPay hx hother) hx

end Payment

namespace Broker

/-- What a session contributes to the donations paid into an account. -/
def share (b : Broker) (i : AccountId) (r : Resource) (t : Slot) : Nat :=
  if b.payee t = some i then (t.session.donated.get r).val else 0

/-- The donations of the sessions whose provider is paid into an account. -/
def donatedTo (b : Broker) (i : AccountId) (r : Resource) : Nat := b.sessions.sum fun _ t => b.share i r t

/-- The books of an account that held `start` when there was no session. -/
structure Ledger (i : AccountId) (start : Resource → Nat) (b : Broker) : Prop where
  account : b.env.IsChildAccount i
  balance : ∀ r, (b.env.bank.available r i).val = start r + b.donatedTo i r

variable {b b' : Broker} {i : AccountId} {start : Resource → Nat} {id : ServerId} {t t' : Slot} {m : Payment}
  {ns : List Notice}

theorem share_eq_donated {r : Resource} (h : b.payee t = some i) : b.share i r t = (t.session.donated.get r).val := by
  unfold share
  rw [if_pos h]

theorem share_eq_zero {r : Resource} (h : b.payee t ≠ some i) : b.share i r t = 0 := by
  unfold share
  rw [if_neg h]

theorem share_le (h : b.Ledger i start) (ht : b.sessions.find? id = some t) (r : Resource) :
    b.share i r t ≤ (b.env.bank.available r i).val := by
  have hle : b.share i r t ≤ b.donatedTo i r := Table.le_sum (fun _ t => b.share i r t) ht
  have := h.balance r
  omega

theorem share_of_donated_eq_zero (b : Broker) (i : AccountId) (r : Resource) (h : t.session.donated = 0) :
    b.share i r t = 0 := by
  unfold share
  rw [h]
  cases r <;> simp [Quota.get]

/-- Without a provider nothing is donated. -/
theorem donated_of_unrouted (hb : b.Sound) (ht : b.sessions.find? id = some t) (hp : t.provider = none) :
    t.session.donated = 0 :=
  (hb.slots id t ht).donated fun _ _ h => by rw [hp] at h; cases h

namespace Effect

theorem taken_le (h : Effect b b' id t t' m ns) (hl : b.Ledger i start) (hx : b.payee t' = some i) (r : Resource) :
    m.taken t.session.donated r ≤ (b.env.bank.available r i).val := by
  cases m with
  | none | paid q => exact Nat.zero_le _
  | refunded =>
    have hle := share_le hl h.found r
    unfold payee at hx
    rw [h.transition.provider_eq_of_refunded] at hx
    rwa [share_eq_donated hx] at hle

/-- Before a change the session was with the same provider, or nothing was donated for it. -/
theorem payee_or (h : Effect b b' id t t' m ns) (hb : b.Sound) :
    b.payee t = b.payee t' ∨ t.session.donated = 0 ∧ m ≠ .refunded := by
  unfold payee
  cases hp : t.provider with
  | some p => exact .inl (by rw [h.transition.provider_eq hp])
  | none =>
    by_cases hm : m = .refunded
    · subst hm
      exact .inl (by rw [h.transition.provider_eq_of_refunded, hp])
    · exact .inr ⟨donated_of_unrouted hb h.found hp, hm⟩

/-- What a session contributes changes with the quota that is moved. -/
theorem share_eq (h : Effect b b' id t t' m ns) (hb : b.Sound) (hl : b.Ledger i start) (r : Resource) :
    b'.share i r t' + (if b.payee t' = some i then m.taken t.session.donated r else 0) =
      b.share i r t + (if b.payee t' = some i then m.given r else 0) := by
  obtain ⟨-, hsettled⟩ := h.payment.account hl.account (h.taken_le hl)
  by_cases hx : b.payee t' = some i
  · have hbefore : b.share i r t = (t.session.donated.get r).val := by
      rcases h.payee_or hb with hsame | ⟨hzero, -⟩
      · exact share_eq_donated (hsame.trans hx)
      · rw [share_of_donated_eq_zero b i r hzero, hzero]
        cases r <;> rfl
    -- the sum is no more than the account holds now, so it does not saturate
    have hfit := hsettled r
    have hle := share_le hl h.found r
    have hword := (b'.env.bank.available r i).isLt
    rw [if_pos hx, if_pos hx] at hfit ⊢
    rw [share_eq_donated ((h.payee_eq t').trans hx), h.transition.donated_eq, hbefore]
    rw [hbefore] at hle
    refine Payment.record_add_taken m _ r fun q hm => ?_
    subst hm
    simp only [Payment.given, Payment.taken] at hfit
    omega
  · have hbefore : b.share i r t = 0 := by
      rcases h.payee_or hb with hsame | ⟨hzero, -⟩
      · exact share_eq_zero (hsame ▸ hx)
      · exact share_of_donated_eq_zero b i r hzero
    rw [if_neg hx, if_neg hx, hbefore, share_eq_zero (h.payee_eq t' ▸ hx)]

/-- A change of one session keeps the books. -/
theorem ledger (h : Effect b b' id t t' m ns) (hb : b.Sound) (hl : b.Ledger i start) : b'.Ledger i start := by
  obtain ⟨haccount, hbalance⟩ := h.payment.account hl.account (h.taken_le hl)
  refine ⟨haccount, fun r => ?_⟩
  have hsame : ∀ u, b'.share i r u = b.share i r u := fun u => by
    unfold share
    rw [h.payee_eq]
  have hshare := h.share_eq hb hl r
  rw [hsame t'] at hshare
  have hsum : b'.donatedTo i r + b.share i r t = b.donatedTo i r + b.share i r t' := by
    unfold donatedTo
    simp only [hsame]
    rw [h.sessions]
    exact Table.sum_set t' (fun _ u => b.share i r u) h.found
  have hstart := hl.balance r
  have hnow := hbalance r
  omega

end Effect

theorem ended_donates_nothing (hb : b.Sound) (ht : b.sessions.find? id = some t)
    (hended : t.session.phase.isEnded = true) : t.session.donated = 0 := ((hb.slots id t ht).ended hended).2.2

/-- Every change keeps the books. -/
theorem Change.ledger {new : ServerId → Prop} (hb : b.Sound) (hl : b.Ledger i start) (h : Change new b b') :
    b'.Ledger i start := by
  cases h with
  | session h => exact h.ledger hb hl
  | providers h =>
    refine ⟨by rw [h.env]; exact hl.account, fun r => ?_⟩
    have hsum : b'.donatedTo i r = b.donatedTo i r := by
      unfold donatedTo
      rw [h.sessions]
      refine Table.sum_congr fun id t ht => ?_
      cases hp : t.provider with
      | none =>
        have hzero := donated_of_unrouted hb ht hp
        rw [share_of_donated_eq_zero b' i r hzero, share_of_donated_eq_zero b i r hzero]
      | some p =>
        rcases h.account id t p ht hp with hended | hsame
        · have hzero := ended_donates_nothing hb ht hended
          rw [share_of_donated_eq_zero b' i r hzero, share_of_donated_eq_zero b i r hzero]
        · simp only [share, payee, hp, Option.bind_some, hsame]
    rw [h.env, hsum]
    exact hl.balance r
  | forgotten keep hkeep =>
    refine ⟨hl.account, fun r => ?_⟩
    have hsum : (b.sessions.filter keep).sum (fun _ t => b.share i r t) = b.donatedTo i r := by
      refine Table.sum_filter_of fun id t ht hk => share_of_donated_eq_zero b i r ?_
      exact ended_donates_nothing hb ht (Session.isEnded_of_not_alive (hkeep id t ht hk))
    show _ = start r + (b.sessions.filter keep).sum fun _ t => b.share i r t
    rw [hsum]
    exact hl.balance r
  | malformed =>
    exact ⟨⟨⟨hl.account.spares.own, hl.account.spares.parent, hl.account.spares.grants⟩, hl.account.held,
      hl.account.fits⟩, hl.balance⟩
  | @admitted id s _ habsent hs =>
    refine ⟨hl.account, fun r => ?_⟩
    have hsum : (b.sessions.insert id { session := s.perform (.setServerId id) }).sum (fun _ t => b.share i r t) =
        b.donatedTo i r := by
      rw [Table.sum_insert_new _ _ habsent, share_of_donated_eq_zero b i r (by exact hs.donated)]
      rfl
    show _ = start r + (b.sessions.insert id _).sum fun _ t => b.share i r t
    rw [hsum]
    exact hl.balance r

/-! ### Moving donations back -/

/-- What was donated for the session of an id. -/
def donation (b : Broker) (id : ServerId) : Quota := ((b.session? id).map (·.donated)).getD 0

/-- Move the donations of some sessions back from an account, one after the other, unless a move is refused. -/
def payBack (b : Broker) (i : AccountId) : List ServerId → Bank → Except QuotaError Bank
  | [], bank => .ok bank
  | id :: ids, bank =>
    match bank.pay (some i) b.ownAccount (b.donation id) with
    | .ok bank => b.payBack i ids bank
    | .error e => .error e

/-- What an account holds for the sessions of a table can be moved back. -/
theorem exists_payBack (hown : b.env.own ≠ i) : ∀ (ids : List ServerId) (sessions : Table ServerId Slot) (bank : Bank),
    ids.Nodup → (∀ id ∈ ids, ∃ t, sessions.find? id = some t ∧ b.payee t = some i ∧
      b.donation id = t.session.donated) → bank.Fits → i < bank.accounts.length →
    (∀ r, sessions.sum (fun _ t => b.share i r t) ≤ (bank.available r i).val) →
    ∃ bank', b.payBack i ids bank = .ok bank'
  | [], _, bank, _, _, _, _, _ => ⟨bank, rfl⟩
  | id :: ids, sessions, bank, hnodup, hids, hfits, hheld, henough => by
    obtain ⟨hnotin, hrest⟩ := List.nodup_cons.1 hnodup
    obtain ⟨t, ht, hpayee, hdonation⟩ := hids id List.mem_cons_self
    have hshare : ∀ r, b.share i r t = ((b.donation id).get r).val := fun r => by
      unfold share
      rw [if_pos hpayee, hdonation]
    have hsplit : ∀ r, sessions.sum (fun _ t => b.share i r t) =
        ((b.donation id).get r).val + (sessions.erase id).sum fun _ t => b.share i r t := fun r => by
      rw [← hshare]
      exact Table.sum_eq_add_sum_erase (fun _ t => b.share i r t) ht
    have hcovered : ∀ r, ((b.donation id).get r).val ≤ (bank.available r i).val := fun r => by
      have := henough r
      have := hsplit r
      omega
    obtain ⟨bank₁, hpay, -, hlen, htotal, hback⟩ := Bank.pay_back hfits (Ne.symm hown) hheld hcovered
    have hpay' : bank.pay (some i) b.ownAccount (b.donation id) = .ok bank₁ := hpay
    simp only [payBack, hpay']
    refine exists_payBack hown ids (sessions.erase id) bank₁ hrest (fun j hj => ?_)
      (fun r => Nat.lt_of_le_of_lt (htotal r) (hfits r)) (by rw [hlen]; exact hheld) fun r => ?_
    · obtain ⟨u, hu, hrest⟩ := hids j (List.mem_cons_of_mem _ hj)
      have hne : j ≠ id := fun he => hnotin (by rw [← he]; exact hj)
      exact ⟨u, by rw [Table.find?_erase_of_ne _ hne]; exact hu, hrest⟩
    · have := henough r
      have := hsplit r
      have := hback r
      omega

/-- The books of a child's account that held what it holds in `bank` when there was no session. -/
structure Balanced (bank : Bank) (i : AccountId) (b : Broker) : Prop where
  /-- The account holds what it held, and what is donated to it. -/
  balance : ∀ r, (b.env.bank.available r i).val = (bank.available r i).val + b.donatedTo i r
  /-- The donations of any of the sessions can be moved back, one after the other. -/
  payable : ∀ ids : List ServerId, ids.Nodup →
    (∀ id ∈ ids, ∃ t, b.sessions.find? id = some t ∧ b.payee t = some i) →
    ∃ bank', b.payBack i ids b.env.bank = .ok bank'
  /-- Whatever changes the broker goes through from here, a change that moves a donation back moves all of it. -/
  refunds : ∀ (new : ServerId → Prop) (b₁ b₂ : Broker) (id : ServerId) (t t' : Slot) (ns : List Notice),
    Changes new b b₁ → Effect b₁ b₂ id t t' .refunded ns → b₁.payee t' = some i →
    ∃ bank' : Bank, bank'.pay (some i) b₁.ownAccount t.session.donated = .ok b₂.env.bank
  /-- Once the sessions are over, the account is back at what it held. -/
  restored : (∀ id t, b.sessions.find? id = some t → b.payee t = some i →
      t.session.phase = .closed ∨ t.session.phase.isCreateFailure = true) →
    ∀ r, b.env.bank.available r i = bank.available r i

/-- A refund takes all that was donated from the account. -/
theorem Effect.refund_paid (h : Effect b b' id t t' .refunded ns) (hl : b.Ledger i start)
    (hx : b.payee t' = some i) :
    ∃ bank : Bank, bank.pay (some i) b.ownAccount t.session.donated = .ok b'.env.bank := by
  have hle := h.taken_le hl hx
  obtain ⟨e, hkeeps, -, -, hmoves⟩ := h.payment
  obtain ⟨⟨-, hheld, hfits⟩, havail⟩ := hl.account.of_keeps hkeeps
  have htry : b'.env.bank = e.bank.tryPay (b.payee t') (some b.env.own) t.session.donated := hmoves
  have henough : ∀ r, (t.session.donated.get r).val ≤ (e.bank.available r i).val := fun r => by
    rw [havail]
    exact hle r
  obtain ⟨bank, hpay, hsame, -⟩ := Bank.pay_back hfits (Ne.symm hl.account.spares.own) hheld henough
  refine ⟨e.bank, ?_⟩
  rw [htry, hx, hsame]
  exact hpay

theorem Ledger.balanced {bank : Bank} (hb : b.Sound) (hl : b.Ledger i fun r => (bank.available r i).val) :
    b.Balanced bank i where
  balance := hl.balance
  payable ids hnodup hids := by
    refine exists_payBack hl.account.spares.own ids b.sessions _ hnodup (fun id hid => ?_) hl.account.fits
      hl.account.held fun r => ?_
    · obtain ⟨t, ht, hpayee⟩ := hids id hid
      exact ⟨t, ht, hpayee, by simp [donation, session?, ht]⟩
    · have := hl.balance r
      unfold donatedTo at this
      omega
  refunds new b₁ b₂ id t t' ns hchanges heffect hx := by
    have hl₁ := hchanges.invariant (I := Ledger i fun r => (bank.available r i).val)
      (fun _ _ hc hI h => h.ledger hc hI) hb hl
    exact heffect.refund_paid hl₁ hx
  restored hover r := by
    have hzero : b.donatedTo i r = 0 := Table.sum_eq_zero fun id t ht => by
      by_cases hpayee : b.payee t = some i
      · exact share_of_donated_eq_zero b i r (ended_donates_nothing hb ht (Phase.isEnded_iff.2 (hover id t ht hpayee)))
      · unfold share
        rw [if_neg hpayee]
    refine Word.ext ?_
    rw [hl.balance r, hzero]
    rfl

/-- While nobody else moves quota of a child's account, its books are right in every state that is reached. -/
theorem Reaches.ledger {around : Env → Env → Prop} {allowed : Broker → Op → Prop} {env : Env} {config : RuntimeConfig}
    (h : Reaches around allowed (Broker.start env config) b) (hi : env.IsChildAccount i)
    (haround : ∀ env env', around env env' → env.LeavesAlone i env') :
    b.Sound ∧ b.Ledger i fun r => (env.bank.available r i).val := by
  have hstart : (Broker.start env config).Ledger i fun r => (env.bank.available r i).val := ⟨hi, fun _ => rfl⟩
  refine h.invariant (fun _ => True) (sound_start env config) hstart (fun _ _ _ _ _ => trivial)
    (fun _ _ hc hI h => h.ledger hc hI) fun c env hI hround => ?_
  have hleft := haround _ _ hround
  exact ⟨hleft.account, fun r => by rw [hleft.available]; exact hI.balance r⟩

/-- In every state that a broker with built-in services reaches while nobody else moves quota of a child's account,
the account holds what it held at the start and what is donated to it; no refund fails. -/
theorem child_ledger {env : Env} {config : RuntimeConfig} (hi : env.IsChildAccount i)
    (h : Reaches (Env.LeavesAlone i) (fun _ _ => True) (Broker.start env config) b) : b.Balanced env.bank i := by
  obtain ⟨hsound, hledger⟩ := h.ledger hi fun _ _ hround => hround
  exact hledger.balanced hsound

/-- What was donated with a pending request stands on the books of the child. -/
theorem child_ledger_requestedOnce : requestedOnce.Balanced sampleEnv.bank 1 ∧
    requestedOnce.donatedTo 1 .ram = 5 ∧ (requestedOnce.env.bank.available .ram 1).val = 5 :=
  ⟨child_ledger ⟨⟨by decide, by decide, by decide⟩, by decide, fun r => by cases r <;> decide⟩ reaches_requestedOnce,
    by decide +kernel, by decide +kernel⟩

end Broker

end SessionBroker
