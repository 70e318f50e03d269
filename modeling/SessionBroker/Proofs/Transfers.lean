import Mathlib.Algebra.GroupWithZero.Nat
import SessionBroker.Bank.Basic

/-!
# SessionBroker.Proofs.Transfers — what transfers do to balances

* `transfer_cases`: what a transfer that was made did, guards included.
* `Bank.total`: one resource on all accounts.  No transfer makes it larger (`total_transfer_le`), and two accounts hold
  no more than the total (`add_available_le_total`), so a credit fits while the total does.
* `Bank.Untouched i`: what payments between other accounts do to a bank, as account `i` sees it.
* `pay_into`, `pay_back`: a payment into an account, and one of what the account holds.
* `getElem?_tryPay`, `available_add_available_tryPay`: a payment that is tried leaves other accounts alone, and keeps
  the sum of its own two.
-/

namespace SessionBroker

namespace Bank

/-- The amount of one resource on all accounts together. -/
def total (b : Bank) (r : Resource) : Nat := (b.accounts.map fun a => (a.balance.get r).val).sum

/-- Whether the accounts together hold no more than a word of each resource. -/
def Fits (b : Bank) : Prop := ∀ r, b.total r < 0x10000000000000000

/-! ### One balance -/

theorem available_eq (b : Bank) (r : Resource) (i : AccountId) :
    b.available r i = (b.accounts[i]?.map fun a => a.balance.get r).getD 0 := by
  unfold available balance
  cases b.accounts[i]? with
  | none => cases r <;> rfl
  | some a => rfl

@[simp] theorem length_setAvailable (b : Bank) (r : Resource) (i : AccountId) (w : Word) :
    (b.setAvailable r i w).accounts.length = b.accounts.length := by
  simp [setAvailable]

theorem available_setAvailable_self {b : Bank} {r : Resource} {i : AccountId} (w : Word)
    (h : i < b.accounts.length) : (b.setAvailable r i w).available r i = w := by
  simp [available_eq, setAvailable, h]

theorem available_setAvailable_of_ne (b : Bank) (r : Resource) {i j : AccountId} (s : Resource) (w : Word)
    (h : j ≠ i) : (b.setAvailable r i w).available s j = b.available s j := by
  simp [available_eq, setAvailable, Ne.symm h]

theorem available_setAvailable_of_resource_ne (b : Bank) {r s : Resource} (i j : AccountId) (w : Word)
    (h : r ≠ s) : (b.setAvailable r i w).available s j = b.available s j := by
  rw [available_eq, available_eq, setAvailable, List.getElem?_modify]
  cases b.accounts[j]? with
  | none => rfl
  | some a => by_cases hij : i = j <;> simp [hij, Quota.get_set_of_ne _ _ h]

/-- An account that does not exist holds nothing. -/
theorem available_of_length_le {b : Bank} {i : AccountId} (r : Resource) (h : b.accounts.length ≤ i) :
    b.available r i = 0 := by
  rw [available_eq, List.getElem?_eq_none h]
  rfl

/-! ### The total -/

theorem sum_map_modify {α : Type} (f : α → Nat) (g : α → α) : ∀ (l : List α) (i : Nat) (a : α), l[i]? = some a →
    ((l.modify i g).map f).sum + f a = (l.map f).sum + f (g a)
  | [], i, a, h => by simp at h
  | x :: l, 0, a, h => by
    obtain rfl : x = a := by simpa using h
    simp
    omega
  | x :: l, i + 1, a, h => by
    have := sum_map_modify f g l i a (by simpa using h)
    simp only [List.modify_succ_cons, List.map_cons, List.sum_cons]
    omega

theorem total_setAvailable {b : Bank} {i : AccountId} (r : Resource) (w : Word) (h : i < b.accounts.length) :
    (b.setAvailable r i w).total r + (b.available r i).val = b.total r + w.val := by
  have hi : b.accounts[i]? = some b.accounts[i] := List.getElem?_eq_getElem h
  have := sum_map_modify (fun a => (a.balance.get r).val) (fun a => { a with balance := a.balance.set w r })
    b.accounts i _ hi
  simpa [total, setAvailable, available_eq, hi] using this

theorem total_setAvailable_of_resource_ne (b : Bank) {r s : Resource} (i : AccountId) (w : Word) (h : r ≠ s) :
    (b.setAvailable r i w).total s = b.total s := by
  unfold total setAvailable
  cases hi : b.accounts[i]? with
  | none =>
    have hlen := List.getElem?_eq_none_iff.1 hi
    rw [List.modify_eq_self hlen]
  | some a =>
    have := sum_map_modify (fun a => (a.balance.get s).val) (fun a => { a with balance := a.balance.set w r })
      b.accounts i _ hi
    simp only [Quota.get_set_of_ne _ _ h] at this
    simpa using this

theorem setAvailable_of_length_le {b : Bank} {i : AccountId} (r : Resource) (w : Word)
    (h : b.accounts.length ≤ i) : b.setAvailable r i w = b := by
  unfold setAvailable
  rw [List.modify_eq_self h]

theorem available_le_total (b : Bank) (r : Resource) (i : AccountId) : (b.available r i).val ≤ b.total r := by
  by_cases h : i < b.accounts.length
  · have := total_setAvailable r 0 h
    simp only [Word.val_zero] at this
    omega
  · rw [available_of_length_le r (Nat.le_of_not_lt h)]
    simp

/-- Two accounts hold no more than all of them. -/
theorem add_available_le_total (b : Bank) (r : Resource) {i j : AccountId} (h : i ≠ j) :
    (b.available r i).val + (b.available r j).val ≤ b.total r := by
  by_cases hi : i < b.accounts.length
  · have h1 := total_setAvailable r 0 hi
    have h2 := available_le_total (b.setAvailable r i 0) r j
    rw [available_setAvailable_of_ne b r r 0 (Ne.symm h)] at h2
    simp only [Word.val_zero] at h1
    omega
  · have := available_le_total b r j
    rw [available_of_length_le r (Nat.le_of_not_lt hi)]
    simp only [Word.val_zero]
    omega

/-! ### Transfers -/

/-- What a transfer that was made did. -/
theorem transfer_cases {b b' : Bank} {r : Resource} {i j : AccountId} {a : Word} (h : b.transfer r i j a = .ok b') :
    a.val ≤ (b.available r i).val ∧
      (i = j ∧ b' = b ∨
        i ≠ j ∧ ∃ c, (b.available r j).val + a.val = c.val ∧
          b' = (b.setAvailable r i ((b.available r i).sub a)).setAvailable r j c) := by
  simp only [transfer] at h
  split at h
  · cases h
  · rename_i hpaid
    refine ⟨Nat.le_of_not_lt hpaid, ?_⟩
    split at h
    · rename_i hij
      exact .inl ⟨hij, (Except.ok.inj h).symm⟩
    · rename_i hij
      split at h
      · cases h
      · rename_i c hc
        exact .inr ⟨hij, c, Word.add?_eq_some.1 hc, (Except.ok.inj h).symm⟩

theorem length_transfer {b b' : Bank} {r : Resource} {i j : AccountId} {a : Word} (h : b.transfer r i j a = .ok b') :
    b'.accounts.length = b.accounts.length := by
  obtain ⟨-, ⟨-, rfl⟩ | ⟨-, c, -, rfl⟩⟩ := transfer_cases h
  · rfl
  · simp

/-- The balances after a transfer: what left an account and what it held before make up what it holds and was paid. -/
theorem available_transfer {b b' : Bank} {r : Resource} {i j k : AccountId} {a : Word}
    (h : b.transfer r i j a = .ok b') (hk : k < b.accounts.length) :
    (b'.available r k).val + (if k = i then a.val else 0) = (b.available r k).val + (if k = j then a.val else 0) := by
  obtain ⟨ha, ⟨rfl, rfl⟩ | ⟨hij, c, hc, rfl⟩⟩ := transfer_cases h
  · rfl
  · by_cases hkj : k = j
    · subst hkj
      rw [available_setAvailable_self _ (by simpa using hk), if_neg (Ne.symm hij), if_pos rfl]
      omega
    · rw [available_setAvailable_of_ne _ _ _ _ hkj, if_neg hkj]
      by_cases hki : k = i
      · subst hki
        rw [available_setAvailable_self _ hk, if_pos rfl]
        simp only [Word.val_sub]
        omega
      · rw [available_setAvailable_of_ne _ _ _ _ hki, if_neg hki]

theorem available_transfer_of_ne {b b' : Bank} {r : Resource} {i j k : AccountId} {a : Word} (s : Resource)
    (h : b.transfer r i j a = .ok b') (hi : k ≠ i) (hj : k ≠ j) : b'.available s k = b.available s k := by
  obtain ⟨-, ⟨-, rfl⟩ | ⟨-, c, -, rfl⟩⟩ := transfer_cases h
  · rfl
  · rw [available_setAvailable_of_ne _ _ _ _ hj, available_setAvailable_of_ne _ _ _ _ hi]

theorem available_transfer_of_resource_ne {b b' : Bank} {r s : Resource} {i j : AccountId} {a : Word} (k : AccountId)
    (h : b.transfer r i j a = .ok b') (hrs : r ≠ s) : b'.available s k = b.available s k := by
  obtain ⟨-, ⟨-, rfl⟩ | ⟨-, c, -, rfl⟩⟩ := transfer_cases h
  · rfl
  · rw [available_setAvailable_of_resource_ne _ _ _ _ hrs, available_setAvailable_of_resource_ne _ _ _ _ hrs]

theorem total_debit_le {b : Bank} {r : Resource} {i : AccountId} {a : Word} (h : a.val ≤ (b.available r i).val) :
    (b.setAvailable r i ((b.available r i).sub a)).total r + a.val ≤ b.total r := by
  by_cases hi : i < b.accounts.length
  · have := total_setAvailable r ((b.available r i).sub a) hi
    simp only [Word.val_sub] at this
    omega
  · rw [setAvailable_of_length_le r _ (Nat.le_of_not_lt hi)]
    rw [available_of_length_le r (Nat.le_of_not_lt hi)] at h
    simp only [Word.val_zero] at h
    omega

theorem total_credit_le {b : Bank} {r : Resource} {j : AccountId} {a c : Word}
    (h : (b.available r j).val + a.val = c.val) : (b.setAvailable r j c).total r ≤ b.total r + a.val := by
  by_cases hj : j < b.accounts.length
  · have := total_setAvailable r c hj
    omega
  · rw [setAvailable_of_length_le r _ (Nat.le_of_not_lt hj)]
    omega

/-- What a transfer takes goes to the other account, or is lost if there is no such account. -/
theorem total_transfer_le {b b' : Bank} {r : Resource} {i j : AccountId} {a : Word} (s : Resource)
    (h : b.transfer r i j a = .ok b') : b'.total s ≤ b.total s := by
  obtain ⟨ha, ⟨-, rfl⟩ | ⟨hij, c, hc, rfl⟩⟩ := transfer_cases h
  · exact Nat.le_refl _
  · by_cases hrs : r = s
    · subst hrs
      have hdebit := total_debit_le ha
      have hcredit : (((b.setAvailable r i ((b.available r i).sub a)).available r j).val + a.val = c.val) := by
        rw [available_setAvailable_of_ne _ _ _ _ (Ne.symm hij)]
        exact hc
      have := total_credit_le hcredit
      omega
    · refine Nat.le_of_eq ?_
      rw [total_setAvailable_of_resource_ne _ _ _ hrs, total_setAvailable_of_resource_ne _ _ _ hrs]

/-- An amount that the account holds can be moved if it fits on the other account. -/
theorem exists_transfer {b : Bank} {r : Resource} {i j : AccountId} {a : Word} (hij : i ≠ j)
    (ha : a.val ≤ (b.available r i).val) (hfit : (b.available r j).val + a.val < 0x10000000000000000) :
    ∃ b', b.transfer r i j a = .ok b' := by
  refine ⟨(b.setAvailable r i ((b.available r i).sub a)).setAvailable r j ⟨_, hfit⟩, ?_⟩
  have hadd : (b.available r j).add? a = some ⟨_, hfit⟩ := Word.add?_eq_some.2 rfl
  have hpaid : ¬ b.available r i < a := Nat.not_lt.2 ha
  simp [transfer, hpaid, hij, hadd]

/-! ### Payments between references -/

/-- A move between two references is a transfer, or nothing if one of them names no account. -/
theorem move_cases {b b' : Bank} {r : Resource} {x y : AccountRef} {a : Word} (h : b.move r x y a = .ok b') :
    (∃ i j, x = some i ∧ y = some j ∧ b.transfer r i j a = .ok b') ∨ ((x = none ∨ y = none) ∧ b' = b) := by
  unfold move at h
  split at h
  · exact .inl ⟨_, _, rfl, rfl, h⟩
  · rename_i hxy
    refine .inr ⟨?_, (Except.ok.inj h).symm⟩
    cases x with
    | none => exact .inl rfl
    | some i =>
      cases y with
      | none => exact .inr rfl
      | some j => exact absurd rfl (hxy i j rfl)

/-- What moves of quota between other accounts, of one resource or of both, do to a bank as account `i` sees it. -/
structure Untouched (i : AccountId) (b b' : Bank) : Prop where
  length : b'.accounts.length = b.accounts.length
  available : ∀ r, b'.available r i = b.available r i
  total : ∀ r, b'.total r ≤ b.total r

namespace Untouched

variable {i : AccountId} {b b' b'' : Bank}

theorem refl (i : AccountId) (b : Bank) : Untouched i b b := ⟨rfl, fun _ => rfl, fun _ => Nat.le_refl _⟩

theorem trans (h : Untouched i b b') (h' : Untouched i b' b'') : Untouched i b b'' :=
  ⟨h'.length.trans h.length, fun r => (h'.available r).trans (h.available r),
    fun r => Nat.le_trans (h'.total r) (h.total r)⟩

theorem move {r : Resource} {x y : AccountRef} {a : Word} (h : b.move r x y a = .ok b') (hx : x ≠ some i)
    (hy : y ≠ some i) : Untouched i b b' := by
  obtain ⟨j, k, rfl, rfl, ht⟩ | ⟨-, rfl⟩ := move_cases h
  · have hj : i ≠ j := fun e => hx (by rw [e])
    have hk : i ≠ k := fun e => hy (by rw [e])
    exact ⟨length_transfer ht, fun s => available_transfer_of_ne s ht hj hk, fun s => total_transfer_le s ht⟩
  · exact refl i _

theorem tryMove {r : Resource} {x y : AccountRef} {a : Word} (hx : x ≠ some i) (hy : y ≠ some i) :
    Untouched i b (b.tryMove r x y a) := by
  unfold Bank.tryMove
  split
  · rename_i h
    exact move h hx hy
  · exact refl i b

theorem pay {x y : AccountRef} {q : Quota} (h : b.pay x y q = .ok b') (hx : x ≠ some i) (hy : y ≠ some i) :
    Untouched i b b' := by
  unfold Bank.pay at h
  split at h
  · cases h
  · rename_i b₁ hram
    exact (move hram hx hy).trans (move h hx hy)

theorem tryPay {x y : AccountRef} {q : Quota} (hx : x ≠ some i) (hy : y ≠ some i) :
    Untouched i b (b.tryPay x y q) :=
  (tryMove hx hy).trans (tryMove hx hy)

end Untouched

@[simp] theorem pay_none (b : Bank) (x : AccountRef) (q : Quota) : b.pay x none q = .ok b := by
  cases x <;> rfl

@[simp] theorem tryPay_none (b : Bank) (y : AccountRef) (q : Quota) : b.tryPay none y q = b := rfl

/-- A payment into an account that exists: the whole amount of both resources arrives. -/
theorem pay_into {b b' : Bank} {i j : AccountId} {q : Quota} (h : b.pay (some i) (some j) q = .ok b') (hij : i ≠ j)
    (hj : j < b.accounts.length) :
    b'.accounts.length = b.accounts.length ∧ (∀ r, b'.total r ≤ b.total r) ∧
      ∀ r, (b'.available r j).val = (b.available r j).val + (q.get r).val := by
  simp only [pay, move] at h
  split at h
  · cases h
  · rename_i b₁ hram
    have hlen := length_transfer hram
    refine ⟨(length_transfer h).trans hlen,
      fun r => Nat.le_trans (total_transfer_le r h) (total_transfer_le r hram), fun r => ?_⟩
    cases r with
    | ram =>
      have hone := available_transfer hram hj
      rw [available_transfer_of_resource_ne j h (by decide)]
      rwa [if_neg (Ne.symm hij), if_pos rfl] at hone
    | caps =>
      have htwo := available_transfer h (by rw [hlen]; exact hj)
      rw [available_transfer_of_resource_ne j hram (by decide)] at htwo
      rwa [if_neg (Ne.symm hij), if_pos rfl] at htwo

/-- What an account holds can be paid to another one, if the total fits: nothing is refused, and the whole amount
of both resources leaves. -/
theorem pay_back {b : Bank} {i j : AccountId} {q : Quota} (hfit : b.Fits) (hij : i ≠ j)
    (hi : i < b.accounts.length) (hq : ∀ r, (q.get r).val ≤ (b.available r i).val) :
    ∃ b', b.pay (some i) (some j) q = .ok b' ∧ b.tryPay (some i) (some j) q = b' ∧
      b'.accounts.length = b.accounts.length ∧ (∀ r, b'.total r ≤ b.total r) ∧
      ∀ r, (b'.available r i).val + (q.get r).val = (b.available r i).val := by
  have room : ∀ r, (b.available r j).val + (q.get r).val < 0x10000000000000000 := fun r => by
    have := add_available_le_total b r hij
    have := hfit r
    have := hq r
    omega
  obtain ⟨b₁, hram⟩ := exists_transfer hij (hq .ram) (room .ram)
  have same : ∀ k, b₁.available .caps k = b.available .caps k := fun k =>
    available_transfer_of_resource_ne k hram (by decide)
  have hq' : (q.get .caps).val ≤ (b₁.available .caps i).val := by
    rw [same]
    exact hq .caps
  have room' : (b₁.available .caps j).val + (q.get .caps).val < 0x10000000000000000 := by
    rw [same]
    exact room .caps
  obtain ⟨b₂, hcaps⟩ := exists_transfer hij hq' room'
  have hram' : b.transfer .ram i j q.ram = .ok b₁ := hram
  have hcaps' : b₁.transfer .caps i j q.caps = .ok b₂ := hcaps
  have hlen := length_transfer hram
  refine ⟨b₂, by simp [pay, move, hram', hcaps'], by simp [tryPay, tryMove, move, hram', hcaps'],
    (length_transfer hcaps).trans hlen,
    fun r => Nat.le_trans (total_transfer_le r hcaps) (total_transfer_le r hram), fun r => ?_⟩
  cases r with
  | ram =>
    have := available_transfer hram hi
    rw [available_transfer_of_resource_ne i hcaps (by decide)]
    rwa [if_pos rfl, if_neg hij] at this
  | caps =>
    have := available_transfer hcaps (by rw [hlen]; exact hi)
    rw [same] at this
    rwa [if_pos rfl, if_neg hij] at this

/-! ### Payments between two accounts -/

theorem getElem?_setAvailable_of_ne (b : Bank) (r : Resource) {i j : AccountId} (w : Word) (h : j ≠ i) :
    (b.setAvailable r i w).accounts[j]? = b.accounts[j]? := by
  have hij : ¬i = j := Ne.symm h
  unfold setAvailable
  rw [List.getElem?_modify]
  simp only [hij, if_false]
  exact Option.map_id'

/-- A payment that is tried leaves every other account as it is. -/
theorem getElem?_tryMove {b : Bank} {r : Resource} {x y : AccountRef} {a : Word} {i : AccountId} (hx : x ≠ some i)
    (hy : y ≠ some i) : (b.tryMove r x y a).accounts[i]? = b.accounts[i]? := by
  unfold tryMove
  split
  · rename_i b' h
    obtain ⟨j, k, rfl, rfl, ht⟩ | ⟨-, rfl⟩ := move_cases h
    · have hj : i ≠ j := fun he => hx (by rw [he])
      have hk : i ≠ k := fun he => hy (by rw [he])
      obtain ⟨-, ⟨-, rfl⟩ | ⟨-, c, -, rfl⟩⟩ := transfer_cases ht
      · rfl
      · rw [getElem?_setAvailable_of_ne _ _ _ hk, getElem?_setAvailable_of_ne _ _ _ hj]
    · rfl
  · rfl

/-- A payment that is tried keeps the sum of the two accounts. -/
theorem available_add_available_tryMove {b : Bank} {r : Resource} {i j : AccountId} {a : Word} (s : Resource)
    (hj : j < b.accounts.length) :
    ((b.tryMove r (some i) (some j) a).available s i).val + ((b.tryMove r (some i) (some j) a).available s j).val =
      (b.available s i).val + (b.available s j).val := by
  unfold tryMove
  split
  · rename_i b' h
    have ht : b.transfer r i j a = .ok b' := h
    by_cases hrs : r = s
    · subst hrs
      obtain ⟨ha, ⟨-, rfl⟩ | ⟨hij, c, hc, rfl⟩⟩ := transfer_cases ht
      · rfl
      · have hcredit : ((b.setAvailable r i ((b.available r i).sub a)).setAvailable r j c).available r j = c :=
          available_setAvailable_self c (by simpa using hj)
        have hdebit : (((b.setAvailable r i ((b.available r i).sub a)).setAvailable r j c).available r i).val =
            (b.available r i).val - a.val := by
          rw [available_setAvailable_of_ne _ _ _ _ hij]
          by_cases hi : i < b.accounts.length
          · rw [available_setAvailable_self _ hi, Word.val_sub]
          · have hnone : b.accounts.length ≤ i := Nat.le_of_not_lt hi
            rw [setAvailable_of_length_le r _ hnone, available_of_length_le r hnone]
            simp
        rw [hcredit, hdebit]
        omega
    · rw [available_transfer_of_resource_ne i ht hrs, available_transfer_of_resource_ne j ht hrs]
  · rfl

theorem length_tryMove (b : Bank) (r : Resource) (x y : AccountRef) (a : Word) :
    (b.tryMove r x y a).accounts.length = b.accounts.length := by
  unfold tryMove
  split
  · rename_i b' h
    obtain ⟨i, j, -, -, ht⟩ | ⟨-, rfl⟩ := move_cases h
    · exact length_transfer ht
    · rfl
  · rfl

theorem getElem?_tryPay {b : Bank} {x y : AccountRef} {q : Quota} {i : AccountId} (hx : x ≠ some i)
    (hy : y ≠ some i) : (b.tryPay x y q).accounts[i]? = b.accounts[i]? := by
  unfold tryPay
  rw [getElem?_tryMove hx hy, getElem?_tryMove hx hy]

theorem available_add_available_tryPay {b : Bank} {i j : AccountId} (q : Quota) (s : Resource)
    (hj : j < b.accounts.length) :
    ((b.tryPay (some i) (some j) q).available s i).val + ((b.tryPay (some i) (some j) q).available s j).val =
      (b.available s i).val + (b.available s j).val := by
  unfold tryPay
  rw [available_add_available_tryMove s (by rw [length_tryMove]; exact hj), available_add_available_tryMove s hj]

end Bank

end SessionBroker
