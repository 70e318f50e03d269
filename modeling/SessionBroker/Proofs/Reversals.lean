import Mathlib.Tactic.ByContra
import Mathlib.Tactic.SplitIfs
import SessionBroker.Proofs.Transfers

/-!
# SessionBroker.Proofs.Reversals — moves that are taken back

A move that was made can be made in the other direction: the payee holds the amount, and the payer has room for it.

* `Bank.eq_of_available`: a bank is determined by the names of its accounts and by what they hold.
* `move_back`, `tryMove_back`: the move in the other direction leads back to the bank before.
* `tryPay_back`: so does the payment of both resources.
* `total_move`: a move between accounts that exist keeps the total.
-/

namespace SessionBroker

namespace Bank

variable {b b' b₁ : Bank} {r s : Resource} {i j k : AccountId} {x y : AccountRef} {a : Word} {q : Quota}

/-- A reference names an account of the bank, or none at all. -/
def Names (b : Bank) (x : AccountRef) : Prop := ∀ i, x = some i → i < b.accounts.length

/-- The names of the accounts, in their order. -/
def names (b : Bank) : List String := b.accounts.map (·.name)

theorem length_names (b : Bank) : b.names.length = b.accounts.length := List.length_map _

/-- A bank is determined by the names of its accounts and by what they hold. -/
theorem eq_of_available (hnames : b'.names = b.names) (h : ∀ r i, b'.available r i = b.available r i) : b' = b := by
  have hlen : b'.accounts.length = b.accounts.length := by
    rw [← length_names, ← length_names, hnames]
  ext1
  refine List.ext_getElem hlen fun i hi' hi => ?_
  have hname : b'.accounts[i].name = b.accounts[i].name := by
    have hget := congrArg (·[i]?) hnames
    simpa [names, hi, hi'] using hget
  have hheld : ∀ r, b'.accounts[i].balance.get r = b.accounts[i].balance.get r := by
    intro r
    have hget := h r i
    simpa [available_eq, hi, hi'] using hget
  ext1
  · exact hname
  · ext1
    · exact hheld .ram
    · exact hheld .caps

theorem names_setAvailable (b : Bank) (r : Resource) (i : AccountId) (w : Word) :
    (b.setAvailable r i w).names = b.names := by
  unfold names setAvailable
  apply List.ext_getElem?
  intro k
  rw [List.getElem?_map, List.getElem?_map, List.getElem?_modify]
  cases b.accounts[k]? with
  | none => rfl
  | some a => by_cases hk : i = k <;> simp [hk]

theorem names_transfer (h : b.transfer r i j a = .ok b') : b'.names = b.names := by
  obtain ⟨-, ⟨-, rfl⟩ | ⟨-, c, -, rfl⟩⟩ := transfer_cases h
  · rfl
  · rw [names_setAvailable, names_setAvailable]

/-! ### Back again -/

/-- The balances after a transfer.  Only a payee that is paid nothing need not exist. -/
theorem available_transfer_of_names (h : b.transfer r i j a = .ok b') (hj : a.val ≠ 0 → j < b.accounts.length)
    (k : AccountId) :
    (b'.available r k).val + (if k = i then a.val else 0) = (b.available r k).val + (if k = j then a.val else 0) := by
  by_cases hk : k < b.accounts.length
  · exact available_transfer h hk
  · have hgone : b.accounts.length ≤ k := Nat.le_of_not_lt hk
    have hgone' : b'.accounts.length ≤ k := by rw [length_transfer h]; exact hgone
    have hpayee : k = j → a.val = 0 := by
      intro hkj
      by_contra hpaid
      exact hk (hkj ▸ hj hpaid)
    have hpayer : k = i → a.val = 0 := by
      intro hki
      have hpaid := (transfer_cases h).1
      rw [← hki, available_of_length_le r hgone] at hpaid
      exact Nat.le_zero.1 hpaid
    rw [available_of_length_le r hgone, available_of_length_le r hgone']
    split_ifs <;> simp_all

/-- A transfer can be made in the other direction, and then all is as before. -/
theorem transfer_back (h : b.transfer r i j a = .ok b') (hj : j < b.accounts.length) :
    b'.transfer r j i a = .ok b := by
  obtain ⟨hpaid, ⟨rfl, rfl⟩ | ⟨hij, -⟩⟩ := transfer_cases h
  · exact h
  · have hbooks := available_transfer_of_names h fun _ => hj
    have hpayee := hbooks j
    have hpayer := hbooks i
    rw [if_neg (Ne.symm hij), if_pos rfl] at hpayee
    rw [if_pos rfl, if_neg hij] at hpayer
    have hroom := (b.available r i).isLt
    obtain ⟨b'', hback⟩ := exists_transfer (Ne.symm hij) (show a.val ≤ (b'.available r j).val by omega)
      (show (b'.available r i).val + a.val < 0x10000000000000000 by omega)
    suffices b'' = b by rw [hback, this]
    -- a payer that does not exist has paid nothing
    have hi : a.val ≠ 0 → i < b'.accounts.length := by
      intro hsome
      rw [length_transfer h]
      by_contra hgone
      rw [available_of_length_le r (Nat.le_of_not_lt hgone)] at hpaid
      exact hsome (Nat.le_zero.1 hpaid)
    refine eq_of_available ((names_transfer hback).trans (names_transfer h)) fun s k => ?_
    by_cases hs : r = s
    · subst hs
      have hthere := hbooks k
      have hreturn := available_transfer_of_names hback hi k
      ext1
      omega
    · rw [available_transfer_of_resource_ne k hback hs, available_transfer_of_resource_ne k h hs]

/-- A move can be made in the other direction, and then all is as before. -/
theorem move_back (h : b.move r x y a = .ok b') (hy : b.Names y) : b'.move r y x a = .ok b := by
  obtain ⟨i, j, rfl, rfl, ht⟩ | ⟨hnone, rfl⟩ := move_cases h
  · exact transfer_back ht (hy j rfl)
  · rcases hnone with rfl | rfl
    · cases y <;> rfl
    · rfl

theorem tryMove_of_ok (h : b.move r x y a = .ok b') : b.tryMove r x y a = b' := by
  unfold tryMove
  rw [h]

theorem tryMove_back (h : b.move r x y a = .ok b') (hy : b.Names y) : b'.tryMove r y x a = b :=
  tryMove_of_ok (move_back h hy)

/-! ### Both resources -/

/-- What an account holds of one resource does not depend on what it holds of the other. -/
theorem setAvailable_comm (b : Bank) (hrs : r ≠ s) (i j : AccountId) (v w : Word) :
    (b.setAvailable r i v).setAvailable s j w = (b.setAvailable s j w).setAvailable r i v := by
  unfold setAvailable
  ext1
  apply List.ext_getElem?
  intro k
  simp only [List.getElem?_modify]
  cases b.accounts[k]? with
  | none => rfl
  | some a =>
    have hset : (a.balance.set v r).set w s = (a.balance.set w s).set v r := by
      cases r <;> cases s <;> first | rfl | exact absurd rfl hrs
    by_cases hi : i = k <;> by_cases hj : j = k <;> simp [hi, hj, hset]

/-- When a transfer is made, and what it leads to. -/
theorem transfer_eq_ok_iff : b.transfer r i j a = .ok b' ↔ a.val ≤ (b.available r i).val ∧
    (i = j ∧ b' = b ∨ i ≠ j ∧ ∃ c, (b.available r j).val + a.val = c.val ∧
      b' = (b.setAvailable r i ((b.available r i).sub a)).setAvailable r j c) := by
  constructor
  · exact transfer_cases
  · rintro ⟨hpaid, hcase⟩
    have hpayable : ¬b.available r i < a := Nat.not_lt.2 hpaid
    obtain ⟨rfl, rfl⟩ | ⟨hij, c, hc, rfl⟩ := hcase
    · simp [transfer, hpayable]
    · simp [transfer, hpayable, hij, Word.add?_eq_some.2 hc]

/-- Transfers of the two resources can be made in either order. -/
theorem transfer_swap {k l : AccountId} {c : Word} (hrs : r ≠ s) (h : b.transfer r i j a = .ok b₁)
    (h' : b₁.transfer s k l c = .ok b') : ∃ b₂, b.transfer s k l c = .ok b₂ ∧ b₂.transfer r i j a = .ok b' := by
  have hother : ∀ m, b₁.available s m = b.available s m := fun m => available_transfer_of_resource_ne m h hrs
  obtain ⟨hpaid, hcase⟩ := transfer_cases h
  obtain ⟨hpaid', hcase'⟩ := transfer_cases h'
  rw [hother] at hpaid'
  obtain ⟨rfl, rfl⟩ | ⟨hkl, d, hd, rfl⟩ := hcase'
  · exact ⟨b, transfer_eq_ok_iff.2 ⟨hpaid', .inl ⟨rfl, rfl⟩⟩, h⟩
  · rw [hother] at hd
    have hmade : b.transfer s k l c = .ok _ := transfer_eq_ok_iff.2 ⟨hpaid', .inr ⟨hkl, d, hd, rfl⟩⟩
    refine ⟨_, hmade, ?_⟩
    have hsame : ∀ m, _ = b.available r m := fun m => available_transfer_of_resource_ne m hmade hrs.symm
    rw [transfer_eq_ok_iff, hsame, hsame]
    refine ⟨hpaid, ?_⟩
    obtain ⟨rfl, rfl⟩ | ⟨hij, e, he, rfl⟩ := hcase
    · exact .inl ⟨rfl, rfl⟩
    · refine .inr ⟨hij, e, he, ?_⟩
      rw [hother]
      simp only [setAvailable_comm _ hrs]

theorem names_move (h : b.move r x y a = .ok b') : b'.names = b.names := by
  obtain ⟨i, j, -, -, ht⟩ | ⟨-, rfl⟩ := move_cases h
  · exact names_transfer ht
  · rfl

theorem names_pay (h : b.pay x y q = .ok b') : b'.names = b.names := by
  unfold pay at h
  split at h
  · cases h
  · rename_i b₁ hram
    exact (names_move h).trans (names_move hram)

theorem names_tryMove (b : Bank) (r : Resource) (x y : AccountRef) (a : Word) :
    (b.tryMove r x y a).names = b.names := by
  unfold tryMove
  split
  · rename_i h
    exact names_move h
  · rfl

theorem names_tryPay (b : Bank) (x y : AccountRef) (q : Quota) : (b.tryPay x y q).names = b.names :=
  (names_tryMove _ _ _ _ _).trans (names_tryMove _ _ _ _ _)

/-- The balances after a payment, of accounts that exist, or of all if the payee exists. -/
theorem available_pay (h : b.pay (some i) (some j) q = .ok b')
    (hk : k < b.accounts.length ∨ j < b.accounts.length) (r : Resource) :
    (b'.available r k).val + (if k = i then (q.get r).val else 0) =
      (b.available r k).val + (if k = j then (q.get r).val else 0) := by
  have hmove : ∀ {b b' : Bank} {r : Resource} {a : Word}, b.transfer r i j a = .ok b' →
      k < b.accounts.length ∨ j < b.accounts.length →
      (b'.available r k).val + (if k = i then a.val else 0) = (b.available r k).val + (if k = j then a.val else 0) :=
    fun h hk => hk.elim (available_transfer h) fun hj => available_transfer_of_names h (fun _ => hj) k
  simp only [pay, move] at h
  split at h
  · cases h
  · rename_i b₁ hram
    cases r with
    | ram =>
      rw [available_transfer_of_resource_ne k h (by decide)]
      exact hmove hram hk
    | caps =>
      rw [← available_transfer_of_resource_ne k hram (by decide : Resource.ram ≠ .caps)]
      exact hmove h (by rw [length_transfer hram]; exact hk)

/-- What was paid can be paid back, and then all is as before. -/
theorem tryPay_back (h : b.pay x y q = .ok b') (hy : b.Names y) : b'.tryPay y x q = b := by
  unfold pay at h
  cases hram : b.move .ram x y q.ram with
  | error e => rw [hram] at h; cases h
  | ok b₁ =>
    rw [hram] at h
    obtain ⟨i, j, rfl, rfl, hfirst⟩ | ⟨hnone, rfl⟩ := move_cases hram
    · obtain ⟨b₂, hcaps, hlast⟩ := transfer_swap (by decide) hfirst h
      have hy₂ : b₂.Names (some j) := by
        intro k hk
        rw [length_transfer hcaps]
        exact hy k hk
      have hcaps' : b.move .caps (some i) (some j) q.caps = .ok b₂ := hcaps
      have hlast' : b₂.move .ram (some i) (some j) q.ram = .ok b' := hlast
      unfold tryPay
      rw [tryMove_back hlast' hy₂, tryMove_back hcaps' hy]
    · rcases hnone with rfl | rfl
      · obtain rfl : b₁ = b' := by cases y <;> exact Except.ok.inj h
        cases y <;> rfl
      · obtain rfl : b₁ = b' := by cases x <;> exact Except.ok.inj h
        rfl

/-! ### The total -/

/-- What leaves one account reaches the other one, so a transfer between accounts that exist keeps the total. -/
theorem total_transfer (h : b.transfer r i j a = .ok b') (hi : i < b.accounts.length) (hj : j < b.accounts.length)
    (s : Resource) : b'.total s = b.total s := by
  obtain ⟨hpaid, ⟨-, rfl⟩ | ⟨hij, c, hc, rfl⟩⟩ := transfer_cases h
  · rfl
  · by_cases hrs : r = s
    · subst hrs
      have hdebit := total_setAvailable r ((b.available r i).sub a) hi
      have hcredit := total_setAvailable (b := b.setAvailable r i ((b.available r i).sub a)) r c
        (by rw [length_setAvailable]; exact hj)
      rw [available_setAvailable_of_ne _ _ _ _ (Ne.symm hij)] at hcredit
      rw [Word.val_sub] at hdebit
      omega
    · rw [total_setAvailable_of_resource_ne _ _ _ hrs, total_setAvailable_of_resource_ne _ _ _ hrs]

theorem total_move (h : b.move r x y a = .ok b') (hx : b.Names x) (hy : b.Names y) (s : Resource) :
    b'.total s = b.total s := by
  obtain ⟨i, j, rfl, rfl, ht⟩ | ⟨-, rfl⟩ := move_cases h
  · exact total_transfer ht (hx i rfl) (hy j rfl) s
  · rfl

theorem length_move (h : b.move r x y a = .ok b') : b'.accounts.length = b.accounts.length := by
  obtain ⟨i, j, -, -, ht⟩ | ⟨-, rfl⟩ := move_cases h
  · exact length_transfer ht
  · rfl

end Bank

end SessionBroker
