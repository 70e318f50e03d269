import Mathlib.Algebra.GroupWithZero.Nat
import SessionBroker.Table

/-!
# SessionBroker.Proofs.Tables — sums over tables, and the keys of a table

* `Table.sum f`: the sum of `f` over the entries of a table.
* `sum_eq_add_sum_erase`: a sum is the share of one entry and the sum of the rest.  What an operation does to a sum
  follows from what it does to the look-ups (`sum_set`, `sum_insert_new`, `sum_filter_of`).
-/

namespace SessionBroker.Table

open Std

variable {κ α : Type} [Ord κ]

/-- The sum of a function over the entries. -/
def sum (t : Table κ α) (f : κ → α → Nat) : Nat := (t.entries.map fun e => f e.1 e.2).sum

theorem size_eq_sum (t : Table κ α) : t.size = t.sum fun _ _ => 1 := by
  unfold size sum
  rw [List.map_const', List.sum_replicate_nat, Nat.mul_one]

theorem contains_eq_true {t : Table κ α} {k : κ} : t.contains k = true ↔ ∃ v, t.find? k = some v := by
  unfold contains
  exact Option.isSome_iff_exists

theorem contains_of_any {t : Table κ α} {k : κ} {p : α → Bool} (h : (t.find? k).any p = true) : t.contains k = true := by
  unfold contains
  cases hv : t.find? k with
  | none => rw [hv] at h; cases h
  | some v => rfl

theorem nodup_keys [ReflOrd κ] (t : Table κ α) : t.keys.Nodup := by
  refine List.pairwise_map.2 (t.ascending.imp ?_)
  intro a b hlt heq
  rw [heq] at hlt
  simp at hlt

theorem keys_filter_keys (t : Table κ α) (keep : κ → Bool) :
    (t.filter fun k _ => keep k).keys = t.keys.filter keep := by
  unfold keys filter
  rw [List.filter_map]
  rfl

section Lawful

variable [LawfulEqOrd κ]

theorem mem_keys {t : Table κ α} {k : κ} : k ∈ t.keys ↔ ∃ v, t.find? k = some v := by
  unfold keys
  constructor
  · intro h
    obtain ⟨e, he, rfl⟩ := List.mem_map.1 h
    exact ⟨e.2, find?_eq_some_iff.2 he⟩
  · rintro ⟨v, hv⟩
    exact List.mem_map.2 ⟨(k, v), find?_eq_some_iff.1 hv, rfl⟩

theorem mem_values {t : Table κ α} {v : α} : v ∈ t.values ↔ ∃ k, t.find? k = some v := by
  unfold values
  constructor
  · intro h
    obtain ⟨e, he, rfl⟩ := List.mem_map.1 h
    exact ⟨e.1, find?_eq_some_iff.2 he⟩
  · rintro ⟨k, hk⟩
    exact List.mem_map.2 ⟨(k, v), find?_eq_some_iff.1 hk, rfl⟩

theorem find?_modify_self (t : Table κ α) (k : κ) (f : α → α) : (t.modify k f).find? k = (t.find? k).map f := by
  simp [find?_modify]

theorem find?_modify_of {t : Table κ α} {k : κ} {v : α} (f : α → α) (h : t.find? k = some v) :
    (t.modify k f).find? k = some (f v) := by
  rw [find?_modify_self, h, Option.map_some]

theorem find?_modify_of_ne (t : Table κ α) {k k' : κ} (f : α → α) (h : k' ≠ k) :
    (t.modify k f).find? k' = t.find? k' := by
  have hne : compare k k' ≠ .eq := fun he => h (LawfulEqCmp.eq_of_compare he).symm
  rw [find?_modify, if_neg hne]

theorem contains_modify (t : Table κ α) (k k' : κ) (f : α → α) : (t.modify k f).contains k' = t.contains k' := by
  unfold contains
  rw [find?_modify]
  split <;> simp

theorem find?_filter_of {t : Table κ α} {p : κ → α → Bool} {k : κ} {v : α} (h : t.find? k = some v)
    (hp : p k v = true) : (t.filter p).find? k = some v := by
  rw [find?_filter, h, Option.filter_some, if_pos hp]

theorem find?_of_filter {t : Table κ α} {p : κ → α → Bool} {k : κ} {v : α}
    (h : (t.filter p).find? k = some v) : t.find? k = some v := by
  rw [find?_filter] at h
  exact Option.eq_some_of_filter_eq_some h

/-- A filter keeps an entry, or it does not want it. -/
theorem contains_filter {t : Table κ α} {p : κ → α → Bool} {k : κ} (h : t.contains k = true) :
    (t.filter p).contains k = true ∨ ∃ v, t.find? k = some v ∧ p k v = false := by
  obtain ⟨v, hv⟩ := contains_eq_true.1 h
  cases hp : p k v with
  | true => exact .inl (contains_eq_true.2 ⟨v, find?_filter_of hv hp⟩)
  | false => exact .inr ⟨v, hv, hp⟩

/-- An entry that was put under a new key and erased leaves the table as it was. -/
theorem erase_insert [TransOrd κ] {t : Table κ α} {k : κ} (v : α) (h : t.contains k = false) :
    (t.insert k v).erase k = t := by
  refine ext_find? fun k' => ?_
  rw [find?_erase, find?_insert]
  by_cases heq : k' = k
  · subst heq
    have hnone : t.find? k' = none := by simpa [contains] using h
    simp [hnone]
  · simp [heq, Ne.symm heq]

/-! ### Keeping some of the keys -/

theorem find?_filter_keys (t : Table κ α) (keep : κ → Bool) (k : κ) :
    (t.filter fun k' _ => keep k').find? k = if keep k then t.find? k else none := by
  rw [find?_filter]
  cases keep k <;> cases t.find? k <;> rfl

theorem modify_filter_keys [TransOrd κ] (t : Table κ α) (keep : κ → Bool) (k : κ) (f : α → α) :
    (t.filter fun k' _ => keep k').modify k f = (t.modify k f).filter fun k' _ => keep k' := by
  refine ext_find? fun k' => ?_
  rw [find?_modify, find?_filter_keys, find?_filter_keys, find?_modify]
  cases keep k' <;> simp

theorem insert_filter_keys [TransOrd κ] (t : Table κ α) {keep : κ → Bool} {k : κ} (hk : keep k = true) (v : α) :
    (t.filter fun k' _ => keep k').insert k v = (t.insert k v).filter fun k' _ => keep k' := by
  refine ext_find? fun k' => ?_
  rw [find?_insert, find?_filter_keys, find?_filter_keys, find?_insert]
  by_cases heq : k' = k
  · simp [heq, hk]
  · simp [heq]

/-- It does not matter whether a key is kept that is erased. -/
theorem erase_filter_keys [TransOrd κ] (t : Table κ α) {keep keep' : κ → Bool} {k : κ}
    (h : ∀ k', k' ≠ k → keep' k' = keep k') :
    (t.filter fun k' _ => keep k').erase k = (t.erase k).filter fun k' _ => keep' k' := by
  refine ext_find? fun k' => ?_
  rw [find?_erase, find?_filter_keys, find?_filter_keys, find?_erase]
  by_cases heq : k' = k
  · simp [heq]
  · simp [Ne.symm heq, h k' heq]

/-- Entries that a second filter drops need not be kept by the first one. -/
theorem filter_filter_keys [TransOrd κ] (t : Table κ α) {keep : κ → Bool} {p : κ → α → Bool}
    (h : ∀ k v, t.find? k = some v → keep k = false → p k v = false) :
    (t.filter fun k _ => keep k).filter p = t.filter p := by
  refine ext_find? fun k => ?_
  rw [find?_filter, find?_filter_keys, find?_filter]
  cases hk : keep k with
  | true => rfl
  | false =>
    cases hv : t.find? k with
    | none => rfl
    | some v => simp [Option.filter_some, h k v hv hk]

theorem contains_filter_keys {t : Table κ α} {k : κ} (hk : k ∈ t.keys) (keep : κ → Bool) :
    (t.filter fun k' _ => keep k').contains k = keep k := by
  obtain ⟨v, hv⟩ := mem_keys.1 hk
  unfold contains
  rw [find?_filter_keys, hv]
  cases keep k <;> rfl

/-- Values that are counted are kept, or their keys are dropped. -/
theorem length_filter_values {t : Table κ α} {keep : κ → Bool} {p : α → Bool}
    (h : ∀ k v, t.find? k = some v → keep k = false → p v = true) :
    (t.values.filter p).length =
      ((t.filter fun k _ => keep k).values.filter p).length + (t.keys.filter fun k => !keep k).length := by
  have hdropped : (t.entries.filter fun e => !keep e.1).countP (fun e => p e.2) =
      (t.entries.filter fun e => !keep e.1).length := by
    refine List.countP_eq_length.2 fun e he => ?_
    obtain ⟨hmem, hkeep⟩ := List.mem_filter.1 he
    exact h e.1 e.2 (find?_eq_some_iff.2 hmem) (by simpa using hkeep)
  have hsplit := List.countP_eq_countP_filter_add t.entries (fun e => p e.2) fun e => keep e.1
  rw [hdropped] at hsplit
  simpa [values, keys, filter, List.filter_map, List.countP_eq_length_filter, Function.comp_def] using hsplit

/-- Putting back what is there changes nothing. -/
theorem insert_of_find? [TransOrd κ] {t : Table κ α} {k : κ} {v : α} (h : t.find? k = some v) : t.insert k v = t := by
  refine ext_find? fun k' => ?_
  by_cases hk : k' = k
  · subst hk
    rw [find?_insert_self, h]
  · exact find?_insert_of_ne t v hk

/-- Values under two keys may be put in place in either order. -/
theorem insert_comm [TransOrd κ] (t : Table κ α) {k k' : κ} (h : k' ≠ k) (v w : α) :
    (t.insert k v).insert k' w = (t.insert k' w).insert k v := by
  refine ext_find? fun j => ?_
  by_cases hk : j = k
  · subst hk
    rw [find?_insert_of_ne _ _ (Ne.symm h), find?_insert_self, find?_insert_self]
  · rw [find?_insert_of_ne _ v hk]
    by_cases hk' : j = k'
    · subst hk'
      rw [find?_insert_self, find?_insert_self]
    · rw [find?_insert_of_ne _ w hk', find?_insert_of_ne _ w hk', find?_insert_of_ne _ v hk]

theorem modify_modify [TransOrd κ] (t : Table κ α) (k : κ) (f g : α → α) :
    (t.modify k f).modify k g = t.modify k fun v => g (f v) := by
  refine ext_find? fun k' => ?_
  by_cases hk : k' = k
  · subst hk
    rw [find?_modify_self, find?_modify_self, find?_modify_self, Option.map_map]
    rfl
  · rw [find?_modify_of_ne _ _ hk, find?_modify_of_ne _ _ hk, find?_modify_of_ne _ _ hk]

/-- Changes of two values commute, and so do two changes of one value that commute. -/
theorem modify_comm [TransOrd κ] (t : Table κ α) {k k' : κ} {f g : α → α} (h : k' = k → ∀ v, g (f v) = f (g v)) :
    (t.modify k f).modify k' g = (t.modify k' g).modify k f := by
  by_cases hk : k' = k
  · have hfg : (fun v => g (f v)) = fun v => f (g v) := funext (h hk)
    subst hk
    rw [modify_modify, modify_modify, hfg]
  · refine ext_find? fun j => ?_
    simp only [find?_modify]
    split <;> split <;> simp_all

/-- A change that a filter does not see may be made before or after it. -/
theorem filter_modify [TransOrd κ] (t : Table κ α) {p : κ → α → Bool} {k : κ} {f : α → α} (h : ∀ v, p k (f v) = p k v) :
    (t.modify k f).filter p = (t.filter p).modify k f := by
  refine ext_find? fun k' => ?_
  by_cases hk : k' = k
  · subst hk
    rw [find?_filter, find?_modify_self, find?_modify_self, find?_filter]
    cases t.find? k' with
    | none => rfl
    | some v => cases hp : p k' v <;> simp [Option.filter_some, h, hp]
  · rw [find?_filter, find?_modify_of_ne _ _ hk, find?_modify_of_ne _ _ hk, find?_filter]

/-- A filter may be left out before a stricter one. -/
theorem filter_filter_of_imp [TransOrd κ] (t : Table κ α) {p q : κ → α → Bool} (h : ∀ k v, q k v = true → p k v = true) :
    (t.filter p).filter q = t.filter q := by
  refine ext_find? fun k => ?_
  rw [find?_filter, find?_filter, find?_filter]
  cases t.find? k with
  | none => rfl
  | some v => cases hq : q k v <;> cases hp : p k v <;> simp_all [Option.filter_some]

theorem erase_comm [TransOrd κ] (t : Table κ α) (k k' : κ) : (t.erase k).erase k' = (t.erase k').erase k := by
  refine ext_find? fun j => ?_
  simp only [find?_erase]
  split <;> simp_all

/-- What is there after a value was replaced is the new value, or it was there before under another key. -/
theorem find?_set_eq_some {t : Table κ α} {k k' : κ} {v w u : α} (h : t.find? k = some v) :
    (t.modify k fun _ => w).find? k' = some u ↔ k' = k ∧ w = u ∨ k' ≠ k ∧ t.find? k' = some u := by
  by_cases hk : k' = k
  · subst hk
    rw [find?_modify_of _ h]
    simp
  · rw [find?_modify_of_ne _ _ hk]
    simp [hk]

/-- Changing an entry puts the changed value in its place. -/
theorem modify_of_find? [TransOrd κ] {t : Table κ α} {k : κ} {v : α} (f : α → α) (h : t.find? k = some v) :
    t.modify k f = t.insert k (f v) := by
  refine ext_find? fun k' => ?_
  by_cases hk : k' = k
  · subst hk
    rw [find?_modify_self, find?_insert_self, h]
    rfl
  · rw [find?_modify_of_ne t f hk, find?_insert_of_ne t _ hk]

/-- A key that is not there is not changed. -/
theorem modify_of_find?_none [TransOrd κ] {t : Table κ α} {k : κ} (f : α → α) (h : t.find? k = none) :
    t.modify k f = t := by
  refine ext_find? fun k' => ?_
  by_cases hk : k' = k
  · subst hk
    rw [find?_modify_self, h]
    rfl
  · exact find?_modify_of_ne t f hk

/-- What is read off the values stays when a value is replaced by one that reads the same. -/
theorem map_find?_insert [TransOrd κ] {β : Type} {t : Table κ α} {k : κ} {v w : α} {f : α → β}
    (h : t.find? k = some v) (hf : f w = f v) (k' : κ) : ((t.insert k w).find? k').map f = (t.find? k').map f := by
  by_cases hk : k' = k
  · subst hk
    rw [find?_insert_self, h, Option.map_some, Option.map_some, hf]
  · rw [find?_insert_of_ne _ _ hk]

theorem map_find?_modify {β : Type} {t : Table κ α} {k : κ} {g : α → α} {f : α → β} (hf : ∀ v, f (g v) = f v) (k' : κ) :
    ((t.modify k g).find? k').map f = (t.find? k').map f := by
  by_cases hk : k' = k
  · subst hk
    rw [find?_modify_self, Option.map_map]
    exact congrArg (fun g => (t.find? k').map g) (funext hf)
  · rw [find?_modify_of_ne _ _ hk]

theorem map_find?_filter {β : Type} (t : Table κ α) {keep : κ → α → Bool} {f : α → β} {p : β → Bool} {k : κ}
    (hp : ∀ v, keep k v = p (f v)) : ((t.filter keep).find? k).map f = ((t.find? k).map f).filter p := by
  rw [find?_filter]
  cases t.find? k with
  | none => rfl
  | some v =>
    rw [Option.map_some, Option.filter_some, Option.filter_some, hp]
    split <;> rfl

theorem sum_congr {t : Table κ α} {f g : κ → α → Nat} (h : ∀ k v, t.find? k = some v → f k v = g k v) :
    t.sum f = t.sum g := by
  unfold sum
  congr 1
  exact List.map_congr_left fun e he => h e.1 e.2 (find?_eq_some_iff.2 he)

theorem sum_eq_zero {t : Table κ α} {f : κ → α → Nat} (h : ∀ k v, t.find? k = some v → f k v = 0) : t.sum f = 0 := by
  unfold sum
  refine List.sum_eq_zero_iff_forall_eq_nat.2 fun n hn => ?_
  obtain ⟨e, he, rfl⟩ := List.mem_map.1 hn
  exact h e.1 e.2 (find?_eq_some_iff.2 he)

/-- A sum is the share of one entry and the sum of the rest. -/
theorem sum_eq_add_sum_erase {t : Table κ α} {k : κ} {v : α} (f : κ → α → Nat) (h : t.find? k = some v) :
    t.sum f = f k v + (t.erase k).sum f := by
  obtain ⟨l, hl⟩ := t
  have hk : lookup k l = some v := h
  clear h
  simp only [sum, erase, filter]
  induction l with
  | nil => cases hk
  | cons e rest ih =>
    obtain ⟨k', v'⟩ := e
    obtain ⟨hlt, hrest⟩ := List.pairwise_cons.1 hl
    by_cases heq : compare k k' = .eq
    · obtain rfl := LawfulEqCmp.eq_of_compare heq
      have hv : v' = v := by simpa [lookup] using hk
      -- the key stands at the head only, so the rest is kept whole
      have hkeep : rest.filter (fun e => decide (compare k e.1 ≠ .eq)) = rest := by
        refine List.filter_eq_self.2 fun e he => ?_
        have := hlt e he
        simp [this]
      rw [List.filter_cons_of_neg (by simp), hkeep, List.map_cons, List.sum_cons, hv]
    · have hk' : lookup k rest = some v := by simpa [lookup, heq] using hk
      have hsum := ih hrest hk'
      rw [List.filter_cons_of_pos (by simp [heq]), List.map_cons, List.sum_cons, List.map_cons, List.sum_cons, hsum]
      omega

theorem le_sum {t : Table κ α} {k : κ} {v : α} (f : κ → α → Nat) (h : t.find? k = some v) : f k v ≤ t.sum f := by
  rw [sum_eq_add_sum_erase f h]
  omega

theorem add_le_sum {t : Table κ α} {k k' : κ} {v v' : α} (f : κ → α → Nat) (hk : k' ≠ k) (h : t.find? k = some v)
    (h' : t.find? k' = some v') : f k v + f k' v' ≤ t.sum f := by
  have hrest : (t.erase k).find? k' = some v' := by rw [find?_erase_of_ne _ hk, h']
  have := le_sum f hrest
  rw [sum_eq_add_sum_erase f h]
  omega

/-- Replacing an entry adds the share of the new entry and takes that of the old one. -/
theorem sum_set [TransOrd κ] {t : Table κ α} {k : κ} {v : α} (w : α) (f : κ → α → Nat) (h : t.find? k = some v) :
    (t.modify k fun _ => w).sum f + f k v = t.sum f + f k w := by
  have hw : (t.modify k fun _ => w).find? k = some w := by rw [find?_modify_self, h]; rfl
  have hrest : (t.modify k fun _ => w).erase k = t.erase k := by
    refine ext_find? fun k' => ?_
    by_cases hk : k' = k
    · subst hk
      rw [find?_erase_self, find?_erase_self]
    · rw [find?_erase_of_ne _ hk, find?_erase_of_ne _ hk, find?_modify_of_ne _ _ hk]
  rw [sum_eq_add_sum_erase f hw, sum_eq_add_sum_erase f h, hrest]
  omega

/-- A new entry adds its share. -/
theorem sum_insert_new [TransOrd κ] {t : Table κ α} {k : κ} (v : α) (f : κ → α → Nat) (h : t.find? k = none) :
    (t.insert k v).sum f = t.sum f + f k v := by
  have hrest : (t.insert k v).erase k = t := by
    refine ext_find? fun k' => ?_
    by_cases hk : k' = k
    · subst hk
      rw [find?_erase_self, h]
    · rw [find?_erase_of_ne _ hk, find?_insert_of_ne _ _ hk]
  rw [sum_eq_add_sum_erase f (find?_insert_self t k v), hrest]
  omega

/-- Entries without a share may be removed. -/
theorem sum_filter_of {t : Table κ α} {p : κ → α → Bool} {f : κ → α → Nat}
    (h : ∀ k v, t.find? k = some v → p k v = false → f k v = 0) : (t.filter p).sum f = t.sum f := by
  have hl : ∀ e ∈ t.entries, p e.1 e.2 = false → f e.1 e.2 = 0 := fun e he => h e.1 e.2 (find?_eq_some_iff.2 he)
  simp only [sum, filter]
  generalize t.entries = l at hl
  induction l with
  | nil => rfl
  | cons e rest ih =>
    have ih' := ih fun e' he' => hl e' (List.mem_cons_of_mem _ he')
    cases hp : p e.1 e.2 with
    | true => simp [hp, ih']
    | false =>
      have := hl e List.mem_cons_self hp
      simp [hp, ih', this]

/-! ### The number of entries -/

theorem size_insert_new [TransOrd κ] {t : Table κ α} {k : κ} (v : α) (h : t.find? k = none) :
    (t.insert k v).size = t.size + 1 := by
  rw [size_eq_sum, size_eq_sum, sum_insert_new v _ h]

theorem size_erase {t : Table κ α} {k : κ} {v : α} (h : t.find? k = some v) : (t.erase k).size + 1 = t.size := by
  rw [size_eq_sum, size_eq_sum, sum_eq_add_sum_erase _ h, Nat.add_comm]

/-- An entry that is replaced does not count again. -/
theorem size_insert_of_find? [TransOrd κ] {t : Table κ α} {k : κ} {v : α} (w : α) (h : t.find? k = some v) :
    (t.insert k w).size = t.size := by
  have hrest : (t.insert k w).erase k = t.erase k := by
    refine ext_find? fun k' => ?_
    by_cases hk : k' = k
    · rw [hk, find?_erase_self, find?_erase_self]
    · rw [find?_erase_of_ne _ hk, find?_erase_of_ne _ hk, find?_insert_of_ne _ _ hk]
  rw [← size_erase (t.find?_insert_self k w), hrest, size_erase h]

end Lawful

end SessionBroker.Table
