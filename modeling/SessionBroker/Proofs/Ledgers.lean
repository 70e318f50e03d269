import SessionBroker.Bank.Run
import SessionBroker.Proofs.Reversals
import SessionBroker.Proofs.Tables

/-!
# SessionBroker.Proofs.Ledgers — transfers and guards create and destroy nothing

The books of a ledger list the moves that were made, those that undo a guard included.

* `Ledger.made l op`: the moves that an operation makes; `Ledger.history l ops`: those of a sequence of operations.
* `Bank.Books b b' gs`: what an account holds in the end is what it held at first, plus what the moves in `gs` brought
  it, minus what they took from it, and the totals stay.
* `books_step`, `books_run`: every operation is booked, and so is every sequence of operations.
* `drop_restores`: dropping a guard restores its accounts, once they hold again what they held after it was made.
* `transfers_conserve`: what is promised of every sequence of operations (`Ledger.Conserves`).
-/

namespace SessionBroker

namespace Guard

/-- The move in the other direction. -/
def back (g : Guard) : Guard := { g with payer := g.payee, payee := g.payer }

/-- Whether the account is one of the two. -/
def Concerns (g : Guard) (i : AccountId) : Prop := g.payer = some i ∨ g.payee = some i

/-- The references name accounts of a bank with `n` accounts, or none at all. -/
def Within (g : Guard) (n : Nat) : Prop := ∀ i, g.Concerns i → i < n

theorem within_iff {g : Guard} {n : Nat} : g.Within n ↔ (∀ i ∈ g.payer, i < n) ∧ ∀ i ∈ g.payee, i < n :=
  ⟨fun h => ⟨fun i hi => h i (.inl hi), fun i hi => h i (.inr hi)⟩, fun h i hi => hi.elim (h.1 i) (h.2 i)⟩

instance (g : Guard) (n : Nat) : Decidable (g.Within n) := decidable_of_iff _ within_iff.symm

/-- What the move takes from an account.  Nothing is moved if one of the references is invalid. -/
def paid (g : Guard) (r : Resource) (i : AccountId) : Nat :=
  if g.resource = r ∧ g.payer = some i ∧ g.payee.isSome then g.amount.val else 0

/-- What the move brings to an account. -/
def received (g : Guard) (r : Resource) (i : AccountId) : Nat := g.back.paid r i

/-- The move as a list, if it can be made. -/
def made (g : Guard) (b : Bank) : List Guard :=
  match g.make b with
  | .ok _ => [g]
  | .error _ => []

variable {g : Guard} {b b' : Bank} {n : Nat}

@[simp] theorem back_back (g : Guard) : g.back.back = g := rfl

theorem back_concerns {i : AccountId} : g.back.Concerns i ↔ g.Concerns i := Or.comm

theorem Within.back (h : g.Within n) : g.back.Within n := fun i hi => h i (back_concerns.1 hi)

theorem Within.names (h : g.Within b.accounts.length) : b.Names g.payer ∧ b.Names g.payee :=
  ⟨fun i hi => h i (.inl hi), fun i hi => h i (.inr hi)⟩

end Guard

/-- What was paid by an account in some moves. -/
def paid (gs : List Guard) (r : Resource) (i : AccountId) : Nat := (gs.map fun g => g.paid r i).sum

/-- What an account received in some moves. -/
def received (gs : List Guard) (r : Resource) (i : AccountId) : Nat := (gs.map fun g => g.received r i).sum

namespace Bank

variable {b b' b'' : Bank} {gs gs' : List Guard} {g : Guard}

/-- The moves account for all that changed. -/
structure Books (b b' : Bank) (gs : List Guard) : Prop where
  length : b'.accounts.length = b.accounts.length
  total : ∀ r, b'.total r = b.total r
  balance : ∀ r i, (b'.available r i).val + paid gs r i = (b.available r i).val + received gs r i

namespace Books

theorem refl (b : Bank) : Books b b [] := ⟨rfl, fun _ => rfl, fun _ _ => rfl⟩

theorem trans (h : Books b b' gs) (h' : Books b' b'' gs') : Books b b'' (gs ++ gs') where
  length := h'.length.trans h.length
  total r := (h'.total r).trans (h.total r)
  balance r i := by
    have hfirst := h.balance r i
    have hlast := h'.balance r i
    simp only [paid, received, List.map_append, List.sum_append] at *
    omega

theorem within (h : Books b b' gs) (hg : g.Within b.accounts.length) : g.Within b'.accounts.length := by
  rw [h.length]
  exact hg

end Books

/-- A move that is made is booked. -/
theorem books_make (h : g.make b = .ok b') (hg : g.Within b.accounts.length) : Books b b' [g] where
  length := length_move h
  total := total_move h hg.names.1 hg.names.2
  balance r k := by
    simp only [paid, received, Guard.received, Guard.paid, Guard.back, List.map_cons, List.map_nil, List.sum_cons,
      List.sum_nil]
    obtain ⟨i, j, hi, hj, ht⟩ | ⟨hnone, rfl⟩ := move_cases h
    · by_cases hr : g.resource = r
      · subst hr
        have hbooks := available_transfer_of_names ht (fun _ => hg j (.inr hj)) k
        simp only [hi, hj, Option.some.injEq, Option.isSome_some, true_and, and_true, eq_comm (b := k)]
        omega
      · simp [hr, available_transfer_of_resource_ne k ht hr]
    · rcases hnone with hnone | hnone <;> simp [hnone]

/-- A move that is tried is booked if it is made. -/
theorem books_made (g : Guard) (b : Bank) (hg : g.Within b.accounts.length) :
    Books b (b.tryMove g.resource g.payer g.payee g.amount) (g.made b) := by
  unfold tryMove Guard.made Guard.make
  cases h : b.move g.resource g.payer g.payee g.amount with
  | ok b' => exact books_make h hg
  | error e => exact .refl b

end Bank

namespace Ledger

variable {l : Ledger} {n : Nat}

/-- The undoing of a guard, if there is one and the amount can be moved back. -/
def undone (g : Option Guard) (b : Bank) : List Guard :=
  match g with
  | some g => g.back.made b
  | none => []

/-- The moves that an operation makes. -/
def made (l : Ledger) : Op → List Guard
  | .move r payer payee amount => Guard.made ⟨r, payer, payee, amount⟩ l.bank
  | .guarded m g =>
    match g.make l.bank with
    | .ok b => g :: undone (l.held.find? m) b
    | .error _ => []
  | .keep _ => []
  | .drop m => undone (l.held.find? m) l.bank

/-- The moves that a sequence of operations makes. -/
def history (l : Ledger) : List Op → List Guard
  | [] => []
  | op :: ops => l.made op ++ (l.step op).2.history ops

/-- The references of an operation name accounts of a bank with `n` accounts, or none at all. -/
def Op.Within (n : Nat) : Op → Prop
  | .move r payer payee amount => Guard.Within ⟨r, payer, payee, amount⟩ n
  | .guarded _ g => g.Within n
  | .keep _ | .drop _ => True

instance (n : Nat) : (op : Op) → Decidable (op.Within n)
  | .move r payer payee amount => inferInstanceAs (Decidable (Guard.Within ⟨r, payer, payee, amount⟩ n))
  | .guarded _ g => inferInstanceAs (Decidable (g.Within n))
  | .keep _ | .drop _ => inferInstanceAs (Decidable True)

/-- All guards that are held are between accounts that exist. -/
def Sound (l : Ledger) : Prop := ∀ m g, l.held.find? m = some g → g.Within l.bank.accounts.length

theorem books_undone {g : Option Guard} {b : Bank} (hg : ∀ g', g = some g' → g'.Within b.accounts.length) :
    b.Books (dropGuard g b) (undone g b) := by
  cases g with
  | none => exact .refl b
  | some g => exact Bank.books_made g.back b (hg g rfl).back

/-- Every operation is booked. -/
theorem books_step (hl : l.Sound) {op : Op} (hop : op.Within l.bank.accounts.length) :
    l.bank.Books (l.step op).2.bank (l.made op) := by
  cases op with
  | move r payer payee amount =>
    simp only [step, made, Guard.made, Guard.make]
    cases h : l.bank.move r payer payee amount with
    | ok b => exact Bank.books_make (g := ⟨r, payer, payee, amount⟩) h hop
    | error e => exact .refl _
  | guarded m g =>
    simp only [step, made]
    cases h : g.make l.bank with
    | ok b =>
      have hbooks := Bank.books_make h hop
      exact hbooks.trans (books_undone fun g' hg' => hbooks.within (hl m g' hg'))
    | error e => exact .refl _
  | keep m =>
    simp only [step, made]
    split <;> exact .refl _
  | drop m =>
    have hbooks := books_undone (b := l.bank) (g := l.held.find? m) (hl m)
    simp only [step, made]
    cases h : l.held.find? m with
    | some g => rwa [h] at hbooks
    | none => exact .refl _

/-- Guards stay between accounts that exist. -/
theorem sound_step (hl : l.Sound) {op : Op} (hop : op.Within l.bank.accounts.length) : (l.step op).2.Sound := by
  intro m g hg
  refine (books_step hl hop).within ?_
  cases op with
  | move r payer payee amount =>
    simp only [step] at hg
    split at hg <;> exact hl m g hg
  | guarded k g' =>
    simp only [step] at hg
    split at hg
    · by_cases hm : m = k
      · subst hm
        rw [Table.find?_insert_self] at hg
        obtain rfl := Option.some.inj hg
        exact hop
      · rw [Table.find?_insert_of_ne _ _ hm] at hg
        exact hl m g hg
    · exact hl m g hg
  | keep k =>
    simp only [step] at hg
    split at hg
    · exact hl m g (Table.find?_of_filter hg)
    · exact hl m g hg
  | drop k =>
    simp only [step] at hg
    split at hg
    · exact hl m g (Table.find?_of_filter hg)
    · exact hl m g hg

/-- Every sequence of operations is booked. -/
theorem books_run : ∀ (ops : List Op) (l : Ledger), l.Sound → (∀ op ∈ ops, op.Within l.bank.accounts.length) →
    l.bank.Books (l.run ops).bank (l.history ops) ∧ (l.run ops).Sound
  | [], l, hl, _ => ⟨.refl l.bank, hl⟩
  | op :: ops, l, hl, hops => by
    have hop := hops op List.mem_cons_self
    have hbooks := books_step hl hop
    obtain ⟨hrest, hsound⟩ := books_run ops (l.step op).2 (sound_step hl hop) fun op' hop' => by
      rw [hbooks.length]
      exact hops op' (List.mem_cons_of_mem _ hop')
    exact ⟨hbooks.trans hrest, hsound⟩

/-- An operation that is not done leaves the ledger as it was. -/
theorem step_of_not_done {op : Op} (h : (l.step op).1 ≠ .done) : (l.step op).2 = l := by
  cases op with
  | move r payer payee amount =>
    simp only [step] at h ⊢
    split at h
    · exact absurd rfl h
    · rfl
  | guarded m g =>
    simp only [step] at h ⊢
    split at h
    · exact absurd rfl h
    · rfl
  | keep m =>
    simp only [step] at h ⊢
    split at h
    · exact absurd rfl h
    · rename_i hnone
      rw [if_neg hnone]
  | drop m =>
    simp only [step] at h ⊢
    split at h
    · exact absurd rfl h
    · rfl

/-! ### Guards that are dropped -/

/-- The move of a guard can be undone while its accounts hold what they held after it was made. -/
theorem exists_back {g : Guard} {b b' c : Bank} (h : g.make b = .ok b') (hg : g.Within b.accounts.length)
    (hheld : ∀ i, g.Concerns i → c.available g.resource i = b'.available g.resource i) :
    ∃ c', g.back.make c = .ok c' := by
  obtain ⟨i, j, hi, hj, ht⟩ | ⟨hnone, -⟩ := Bank.move_cases h
  · have hpayer := hheld i (.inl hi)
    have hpayee := hheld j (.inr hj)
    suffices ∃ c', c.transfer g.resource j i g.amount = .ok c' by
      simpa [Guard.make, Guard.back, Bank.move, hi, hj] using this
    by_cases hij : i = j
    · subst hij
      obtain ⟨hpaid, ⟨-, rfl⟩ | ⟨hne, -⟩⟩ := Bank.transfer_cases ht
      · refine ⟨c, Bank.transfer_eq_ok_iff.2 ⟨?_, .inl ⟨rfl, rfl⟩⟩⟩
        rw [hpayer]
        exact hpaid
      · exact absurd rfl hne
    · have hthere := Bank.available_transfer_of_names ht fun _ => hg j (.inr hj)
      have hcredit := hthere j
      have hdebit := hthere i
      rw [if_neg (Ne.symm hij), if_pos rfl] at hcredit
      rw [if_pos rfl, if_neg hij] at hdebit
      have hroom := (b.available g.resource i).isLt
      apply Bank.exists_transfer (Ne.symm hij)
      · rw [hpayee]
        omega
      · rw [hpayer]
        omega
  · refine ⟨c, ?_⟩
    rcases hnone with hnone | hnone
    · cases hpayee : g.payee <;> simp [Guard.make, Guard.back, Bank.move, hnone, hpayee]
    · simp [Guard.make, Guard.back, Bank.move, hnone]

/-- Dropping a guard restores its accounts, once they hold again what they held after it was made. -/
theorem drop_restores {g : Guard} {b b' c : Bank} (h : g.make b = .ok b') (hg : g.Within b.accounts.length)
    (hlength : c.accounts.length = b.accounts.length)
    (hheld : ∀ r i, g.Concerns i → c.available r i = b'.available r i) {r : Resource} {i : AccountId}
    (hi : g.Concerns i) : (g.drop c).available r i = b.available r i := by
  obtain ⟨c', hback⟩ := exists_back h hg (hheld g.resource)
  have hdrop : g.drop c = c' := Bank.tryMove_of_ok hback
  have hmade := (Bank.books_make h hg).balance r i
  have hundone := (Bank.books_make hback (by rw [hlength]; exact hg.back)).balance r i
  rw [hheld r i hi] at hundone
  rw [hdrop]
  ext1
  simp only [paid, received, Guard.received, Guard.back_back, List.map_cons, List.map_nil, List.sum_cons,
    List.sum_nil] at hmade hundone
  omega

/-! ### What is promised -/

/-- What is promised of a sequence of operations on a bank, at first without guards. -/
structure Conserves (b : Bank) (ops : List Op) (l : Ledger) : Prop where
  /-- The sum of the balances is what it was. -/
  total : ∀ r, l.bank.total r = b.total r
  /-- No balance wraps or falls below zero: in natural numbers, each is what it was, plus what the account received,
  minus what it paid. -/
  balance : ∀ r i, (l.bank.available r i).val + paid (Ledger.history ⟨b, ∅⟩ ops) r i =
    (b.available r i).val + received (Ledger.history ⟨b, ∅⟩ ops) r i
  /-- An operation that fails leaves every balance, and every guard, as it was. -/
  failed : ∀ op, (l.step op).1 ≠ .done → (l.step op).2 = l
  /-- A guard that is made now, and dropped when its accounts hold again what they held after it was made, restores both
  of them. -/
  restored : ∀ m g later made now, l.held.find? m = none → g.Within b.accounts.length →
    l.step (.guarded m g) = (.done, made) → (∀ op ∈ later, op.Within b.accounts.length) → made.run later = now →
    now.held.find? m = some g → (∀ r i, g.Concerns i → now.bank.available r i = made.bank.available r i) →
    (now.step (.drop m)).1 = .done ∧
      ∀ r i, g.Concerns i → (now.step (.drop m)).2.bank.available r i = l.bank.available r i

/-- Transfers and guards create and destroy nothing, whatever is tried. -/
theorem transfers_conserve (b : Bank) (ops : List Op) (hops : ∀ op ∈ ops, op.Within b.accounts.length) :
    Conserves b ops ((⟨b, ∅⟩ : Ledger).run ops) := by
  have hstart : (⟨b, ∅⟩ : Ledger).Sound := by
    intro m g hg
    cases hg
  obtain ⟨hbooks, hsound⟩ := books_run ops ⟨b, ∅⟩ hstart hops
  generalize (⟨b, ∅⟩ : Ledger).run ops = l at hbooks hsound
  refine ⟨hbooks.total, hbooks.balance, fun op => step_of_not_done, ?_⟩
  rintro m g later made now hfree hg hmake hlater rfl hheld hbalance
  have hgl : g.Within l.bank.accounts.length := hbooks.within hg
  obtain ⟨hdone, hmade⟩ : g.make l.bank = .ok made.bank ∧ made.Sound := by
    have hop : (Op.guarded m g).Within l.bank.accounts.length := hgl
    have hstep := sound_step hsound hop
    rw [hmake] at hstep
    refine ⟨?_, hstep⟩
    simp only [step, hfree, dropGuard] at hmake
    split at hmake
    · obtain ⟨-, rfl⟩ := Prod.mk.inj hmake
      assumption
    · cases hmake
  have hlength := Bank.length_move hdone
  obtain ⟨hrest, -⟩ := books_run later made hmade fun op hop => by
    rw [hlength, hbooks.length]
    exact hlater op hop
  have hdrop : (made.run later).step (.drop m) =
      (.done, ⟨g.drop (made.run later).bank, (made.run later).held.erase m⟩) := by
    simp [step, hheld]
  rw [hdrop]
  exact ⟨rfl, fun r i hi => drop_restores hdone hgl (hrest.length.trans hlength) hbalance hi⟩

/-- Two accounts, of which one has quota. -/
def lender : Bank := ⟨[⟨"own", ⟨⟨90, by decide⟩, ⟨6, by decide⟩⟩⟩, ⟨"fs", 0⟩]⟩

/-- Quota is lent, partly spent and returned, and the guard is dropped; what cannot be paid is refused, a transfer to
the account itself or to nobody moves nothing, and some slots are moved for good. -/
def loan : List Op :=
  [.guarded 0 ⟨.ram, some 0, some 1, ⟨40, by decide⟩⟩, .move .ram (some 1) (some 0) ⟨30, by decide⟩,
    .move .ram (some 0) (some 1) ⟨30, by decide⟩, .drop 0, .move .ram (some 1) (some 0) 1,
    .move .ram (some 0) (some 0) ⟨90, by decide⟩, .move .caps (some 0) none ⟨6, by decide⟩,
    .guarded 0 ⟨.caps, some 0, some 1, ⟨3, by decide⟩⟩, .keep 0]

theorem loan_conserves : (∀ op ∈ loan, op.Within lender.accounts.length) ∧
    Conserves lender loan ((⟨lender, ∅⟩ : Ledger).run loan) ∧
    ((⟨lender, ∅⟩ : Ledger).run loan).bank.balance 1 = ⟨0, ⟨3, by decide⟩⟩ := by
  have hwithin : ∀ op ∈ loan, op.Within lender.accounts.length := by decide
  exact ⟨hwithin, transfers_conserve lender loan hwithin, by decide⟩

end Ledger

end SessionBroker
