import Mathlib.Data.List.Nodup
import Mathlib.Data.List.Perm.Subperm
import SessionBroker.IdSpace
import SessionBroker.Proofs.Tables

/-!
# SessionBroker.Proofs.FreshIds — an allocated id is fresh

An allocation looks at one id after another, from the cursor on, and zero comes after the largest id.  The search has no
bound of its own: it ends because an id in use is passed over at most once in a round, and not all ids are in use.

* `Ident.after i n`: the id `n` steps after `i`, in cyclic order.
* `IdSpace.Passes s i n j`: from `i` on, the search passes over `n` ids in use and ends at `j`.
* `exists_passes_iff`: the search ends exactly if fewer than `2 ^ 64` ids are in use.  Then it passes over no more ids
  than there are entries: among one more id than are in use, one is free.
* `contains_nextFree`: the id of the next allocation is not in use.
* `size_lt_of_injective`: ids of a space that stand for distinct ids of the other side, not all of them, are fewer
  than `2 ^ 64`.
-/

namespace SessionBroker

namespace Ident

variable {side : Side}

/-- The id a number of steps after another one, in cyclic order. -/
def after (i : Ident side) (n : Nat) : Ident side :=
  ⟨⟨(i.num.val + n) % 0x10000000000000000, Nat.mod_lt _ (by decide)⟩⟩

theorem after_zero (i : Ident side) : i.after 0 = i :=
  Ident.ext (Word.ext (Nat.mod_eq_of_lt i.num.isLt))

theorem after_succ (i : Ident side) (n : Nat) : i.succ.after n = i.after (n + 1) := by
  refine Ident.ext (Word.ext ?_)
  show ((i.num.val + 1) % 0x10000000000000000 + n) % 0x10000000000000000 = (i.num.val + (n + 1)) % 0x10000000000000000
  rw [Nat.mod_add_mod]
  congr 1
  omega

/-- The ids of one round are distinct. -/
theorem after_inj {i : Ident side} {m n : Nat} (hm : m < 0x10000000000000000) (hn : n < 0x10000000000000000)
    (h : i.after m = i.after n) : m = n := by
  have hv : (i.num.val + m) % 0x10000000000000000 = (i.num.val + n) % 0x10000000000000000 :=
    congrArg (fun j : Ident side => j.num.val) h
  have := i.num.isLt
  omega

theorem num_val_inj {i j : Ident side} (h : i.num.val = j.num.val) : i = j := Ident.ext (Word.ext h)

/-- There are no more than `2 ^ 64` ids. -/
theorem length_le_of_nodup {l : List (Ident side)} (h : l.Nodup) : l.length ≤ 0x10000000000000000 := by
  have hnodup : (l.map fun i => i.num.val).Nodup := h.map fun _ _ heq => num_val_inj heq
  have hsub : l.map (fun i => i.num.val) ⊆ List.range 0x10000000000000000 := by
    intro n hn
    obtain ⟨i, -, rfl⟩ := List.mem_map.1 hn
    exact List.mem_range.2 i.num.isLt
  have hlen := (List.subperm_of_subset hnodup hsub).length_le
  rwa [List.length_map, List.length_range] at hlen

end Ident

namespace IdSpace

variable {side : Side} {α : Type} {s : IdSpace side α} {i j : Ident side} {n : Nat}

/-! ### The search for a free id -/

/-- The ids in use do not fill a round of more ids than there are entries. -/
theorem exists_free (h : s.size < 0x10000000000000000) (i : Ident side) :
    ∃ m ≤ s.size, s.contains (i.after m) = false := by
  by_contra hnone
  -- otherwise the ids of `size + 1` steps are all in use, and they are distinct
  have hnodup : ((List.range (s.size + 1)).map i.after).Nodup := by
    refine List.Nodup.map_on (fun m hm n hn he => ?_) List.nodup_range
    rw [List.mem_range] at hm hn
    exact Ident.after_inj (by omega) (by omega) he
  have hsub : (List.range (s.size + 1)).map i.after ⊆ s.table.keys := by
    intro j hj
    obtain ⟨m, hm, rfl⟩ := List.mem_map.1 hj
    have hused : ¬s.contains (i.after m) = false :=
      fun hfree => hnone ⟨m, by rw [List.mem_range] at hm; omega, hfree⟩
    refine Table.mem_keys.2 (Table.contains_eq_true.1 ?_)
    simpa [contains] using hused
  have hlen := (List.subperm_of_subset hnodup hsub).length_le
  have hkeys : s.table.keys.length = s.size := List.length_map _
  rw [List.length_map, List.length_range] at hlen
  omega

/-- From `i` on, the search passes over `n` ids in use, one after another, and ends at `j`, which is not in use. -/
inductive Passes (s : IdSpace side α) : Ident side → Nat → Ident side → Prop
  | free {i : Ident side} : s.contains i = false → Passes s i 0 i
  | taken {i j : Ident side} {n : Nat} : s.contains i = true → Passes s i.succ n j → Passes s i (n + 1) j

/-- The search ends at the first id that is not in use. -/
theorem passes_iff : s.Passes i n j ↔
    j = i.after n ∧ s.contains j = false ∧ ∀ m < n, s.contains (i.after m) = true := by
  constructor
  · intro h
    induction h with
    | free hfree => exact ⟨(Ident.after_zero _).symm, hfree, by simp⟩
    | @taken i j n hused _ ih =>
      obtain ⟨hj, hfree, hbefore⟩ := ih
      refine ⟨by rw [hj, Ident.after_succ], hfree, fun m hm => ?_⟩
      cases m with
      | zero => rwa [Ident.after_zero]
      | succ m =>
        rw [← Ident.after_succ]
        exact hbefore m (by omega)
  · rintro ⟨rfl, hfree, hbefore⟩
    induction n generalizing i with
    | zero =>
      rw [Ident.after_zero] at hfree ⊢
      exact .free hfree
    | succ n ih =>
      have hused : s.contains i = true := by
        have := hbefore 0 (by omega)
        rwa [Ident.after_zero] at this
      rw [← Ident.after_succ] at hfree ⊢
      refine .taken hused (ih hfree fun m hm => ?_)
      rw [Ident.after_succ]
      exact hbefore (m + 1) (by omega)

/-- A search does not get past an id that is not in use. -/
theorem passes_of_free {m : Nat} (h : s.contains (i.after m) = false) : ∃ n ≤ m, ∃ j, s.Passes i n j := by
  induction m generalizing i with
  | zero =>
    rw [Ident.after_zero] at h
    exact ⟨0, Nat.le_refl 0, i, .free h⟩
  | succ m ih =>
    cases hused : s.contains i with
    | false => exact ⟨0, Nat.zero_le _, i, .free hused⟩
    | true =>
      rw [← Ident.after_succ] at h
      obtain ⟨n, hn, j, hj⟩ := ih h
      exact ⟨n + 1, by omega, j, .taken hused hj⟩

/-- While not all ids are in use, a search passes over no more ids than there are entries. -/
theorem exists_passes (h : s.size < 0x10000000000000000) (i : Ident side) : ∃ n ≤ s.size, ∃ j, s.Passes i n j := by
  obtain ⟨m, hm, hfree⟩ := exists_free h i
  obtain ⟨n, hn, hsearch⟩ := passes_of_free hfree
  exact ⟨n, Nat.le_trans hn hm, hsearch⟩

/-- Not all ids are in use if one of them is not. -/
theorem size_lt_of_free (h : s.contains i = false) : s.size < 0x10000000000000000 := by
  have hi : i ∉ s.table.keys := fun hmem => by
    have hused := Table.contains_eq_true.2 (Table.mem_keys.1 hmem)
    rw [show s.table.contains i = false from h] at hused
    cases hused
  have hlen := Ident.length_le_of_nodup (List.nodup_cons.2 ⟨hi, Table.nodup_keys s.table⟩)
  rw [List.length_cons, show s.table.keys.length = s.size from List.length_map _] at hlen
  exact hlen

/-- The search ends exactly if not all ids are in use. -/
theorem exists_passes_iff : (∃ n j, s.Passes i n j) ↔ s.size < 0x10000000000000000 := by
  constructor
  · rintro ⟨n, j, h⟩
    exact size_lt_of_free (passes_iff.1 h).2.1
  · intro h
    obtain ⟨n, -, j, hj⟩ := exists_passes h i
    exact ⟨n, j, hj⟩

/-- The id that is computed is the one at which the search ends, if enough steps are allowed. -/
theorem firstFree_of_passes (h : s.Passes i n j) {k : Nat} (hk : n ≤ k) :
    firstFree (fun i => !s.contains i) k i = j := by
  induction h generalizing k with
  | free hfree => cases k <;> simp [firstFree, hfree]
  | taken hused _ ih =>
    cases k with
    | zero => omega
    | succ k =>
      rw [firstFree, hused]
      exact ih (by omega)

/-- The search of an allocation. -/
theorem nextFree_of_passes (h : s.Passes s.cursor n i) : s.nextFree = i := by
  obtain ⟨m, hm, j, hj⟩ := exists_passes (exists_passes_iff.1 ⟨n, i, h⟩) s.cursor
  have hsame := (firstFree_of_passes h (Nat.le_max_left n m)).symm.trans (firstFree_of_passes hj (Nat.le_max_right n m))
  rw [hsame]
  exact firstFree_of_passes hj hm

theorem passes_nextFree (h : s.size < 0x10000000000000000) : ∃ n ≤ s.size, s.Passes s.cursor n s.nextFree := by
  obtain ⟨n, hn, j, hj⟩ := exists_passes h s.cursor
  rw [nextFree_of_passes hj]
  exact ⟨n, hn, hj⟩

/-- The id of the next allocation is not in use. -/
theorem contains_nextFree (h : s.size < 0x10000000000000000) : s.contains s.nextFree = false := by
  obtain ⟨n, -, hsearch⟩ := passes_nextFree h
  exact (passes_iff.1 hsearch).2.1

theorem find?_alloc (s : IdSpace side α) (v : α) (i : Ident side) :
    (s.alloc v).2.find? i = if i = s.nextFree then some v else s.find? i := by
  by_cases h : i = s.nextFree
  · subst h
    simp [alloc, find?]
  · rw [if_neg h]
    exact Table.find?_insert_of_ne s.table v h

theorem find?_erase (s : IdSpace side α) (i j : Ident side) :
    (s.erase i).find? j = if j = i then none else s.find? j := by
  by_cases h : j = i
  · subst h
    simp [erase, find?]
  · rw [if_neg h]
    exact Table.find?_erase_of_ne s.table h

/-- Ids that stand for distinct ids of the other side, but not for all of them. -/
theorem size_lt_of_injective {other : Side} {s : IdSpace side (Ident other)} (j : Ident other)
    (hinj : ∀ i i' k, s.find? i = some k → s.find? i' = some k → i = i') (hne : ∀ i, s.find? i ≠ some j) :
    s.size < 0x10000000000000000 := by
  have hvalues : s.table.values.Nodup := by
    refine List.Nodup.map_on (fun e he e' he' hv => ?_) (List.Nodup.of_map _ (Table.nodup_keys s.table))
    have hk : s.find? e.1 = some e.2 := Table.find?_eq_some_iff.2 he
    have hk' : s.find? e'.1 = some e.2 := by rw [hv]; exact Table.find?_eq_some_iff.2 he'
    exact Prod.ext (hinj _ _ _ hk hk') hv
  have hj : j ∉ s.table.values := fun hmem => by
    obtain ⟨i, hi⟩ := Table.mem_values.1 hmem
    exact hne i hi
  have hlen := Ident.length_le_of_nodup (List.nodup_cons.2 ⟨hj, hvalues⟩)
  rw [List.length_cons, show s.table.values.length = s.size from List.length_map _] at hlen
  exact hlen

end IdSpace

end SessionBroker
