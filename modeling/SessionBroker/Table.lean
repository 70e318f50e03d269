/-!
# SessionBroker.Table — finite maps in key order

A `Table` keeps its entries in strictly ascending key order, so a table is determined by what can be looked up in it
(`ext_find?`) and every walk over a table meets the keys in ascending order.

* `find?_insert`, `find?_erase`, `find?_modify`, `find?_filter`: what each operation does to a look-up.
-/

namespace SessionBroker

open Std

/-- A finite map from keys to values, kept in ascending key order. -/
structure Table (κ α : Type) [Ord κ] where
  entries : List (κ × α)
  ascending : entries.Pairwise fun a b => compare a.1 b.1 = .lt

namespace Table

section Entries

variable {κ α : Type} [Ord κ]

/-- Look a key up in a list of entries. -/
def lookup (k : κ) : List (κ × α) → Option α
  | [] => none
  | (k', v) :: rest => if compare k k' = .eq then some v else lookup k rest

/-- Put an entry in its place, replacing an entry of the same key. -/
def place (k : κ) (v : α) : List (κ × α) → List (κ × α)
  | [] => [(k, v)]
  | (k', v') :: rest =>
    match compare k k' with
    | .lt => (k, v) :: (k', v') :: rest
    | .eq => (k, v) :: rest
    | .gt => (k', v') :: place k v rest

theorem mem_place {k : κ} {v : α} {e : κ × α} : ∀ {l : List (κ × α)}, e ∈ place k v l → e = (k, v) ∨ e ∈ l
  | [], h => by simpa [place] using h
  | (k', v') :: rest, h => by
    unfold place at h
    split at h
    · simpa using h
    · simp only [List.mem_cons] at h ⊢
      exact h.imp id Or.inr
    · rcases List.mem_cons.1 h with h | h
      · simp [h]
      · exact (mem_place h).imp id (List.mem_cons_of_mem _)

theorem ascending_place [TransOrd κ] {k : κ} {v : α} : ∀ {l : List (κ × α)},
    l.Pairwise (fun a b => compare a.1 b.1 = .lt) → (place k v l).Pairwise fun a b => compare a.1 b.1 = .lt
  | [], _ => by simp [place]
  | (k', v') :: rest, h => by
    obtain ⟨hk, hrest⟩ := List.pairwise_cons.1 h
    unfold place
    split
    · rename_i hlt
      refine List.pairwise_cons.2 ⟨fun e he => ?_, h⟩
      rcases List.mem_cons.1 he with rfl | he
      · exact hlt
      · exact TransCmp.lt_trans hlt (hk e he)
    · rename_i heq
      exact List.pairwise_cons.2 ⟨fun e he => TransCmp.lt_of_eq_of_lt heq (hk e he), hrest⟩
    · rename_i hgt
      refine List.pairwise_cons.2 ⟨fun e he => ?_, ascending_place hrest⟩
      rcases mem_place he with rfl | he
      · exact OrientedCmp.lt_of_gt hgt
      · exact hk e he

end Entries

variable {κ α β : Type} [Ord κ]

def empty : Table κ α := ⟨[], .nil⟩

instance : EmptyCollection (Table κ α) := ⟨empty⟩

instance : Inhabited (Table κ α) := ⟨empty⟩

/-- The value under a key. -/
def find? (t : Table κ α) (k : κ) : Option α := lookup k t.entries

def contains (t : Table κ α) (k : κ) : Bool := (t.find? k).isSome

/-- Put a value under a key, replacing what was there. -/
def insert [TransOrd κ] (t : Table κ α) (k : κ) (v : α) : Table κ α :=
  ⟨place k v t.entries, ascending_place t.ascending⟩

def filter (t : Table κ α) (p : κ → α → Bool) : Table κ α :=
  ⟨t.entries.filter fun e => p e.1 e.2, t.ascending.filter _⟩

def erase (t : Table κ α) (k : κ) : Table κ α := t.filter fun k' _ => compare k k' ≠ .eq

/-- Change every value. -/
def map (t : Table κ α) (f : κ → α → β) : Table κ β :=
  ⟨t.entries.map fun e => (e.1, f e.1 e.2), List.pairwise_map.2 t.ascending⟩

/-- Change the value under a key, if there is one. -/
def modify (t : Table κ α) (k : κ) (f : α → α) : Table κ α :=
  t.map fun k' v => if compare k k' = .eq then f v else v

def keys (t : Table κ α) : List κ := t.entries.map (·.1)

/-- The values, in the order of their keys. -/
def values (t : Table κ α) : List α := t.entries.map (·.2)

def size (t : Table κ α) : Nat := t.entries.length

/-! ### Looking up -/

@[simp] theorem find?_empty (k : κ) : (∅ : Table κ α).find? k = none := rfl

section Lawful

variable [LawfulEqOrd κ]

theorem lookup_place (k k' : κ) (v : α) : ∀ l : List (κ × α),
    lookup k' (place k v l) = if compare k' k = .eq then some v else lookup k' l
  | [] => by simp [place, lookup]
  | (k₁, v₁) :: rest => by
    unfold place
    split
    · simp [lookup]
    · rename_i heq
      obtain rfl := LawfulEqCmp.eq_of_compare heq
      by_cases h : compare k' k = .eq <;> simp [lookup, h]
    · rename_i hgt
      by_cases h : compare k' k₁ = .eq
      · obtain rfl := LawfulEqCmp.eq_of_compare h
        have hne : compare k' k ≠ .eq := by
          intro he
          obtain rfl := LawfulEqCmp.eq_of_compare he
          simp at hgt
        simp [lookup, hne]
      · simp only [lookup, h, if_false]
        exact lookup_place k k' v rest

theorem find?_insert [TransOrd κ] (t : Table κ α) (k k' : κ) (v : α) :
    (t.insert k v).find? k' = if compare k' k = .eq then some v else t.find? k' :=
  lookup_place k k' v t.entries

@[simp] theorem find?_insert_self [TransOrd κ] (t : Table κ α) (k : κ) (v : α) : (t.insert k v).find? k = some v := by
  simp [find?_insert]

theorem find?_insert_of_ne [TransOrd κ] (t : Table κ α) {k k' : κ} (v : α) (h : k' ≠ k) :
    (t.insert k v).find? k' = t.find? k' := by
  simp [find?_insert, h]

theorem mem_of_lookup {k : κ} {v : α} : ∀ {l : List (κ × α)}, lookup k l = some v → (k, v) ∈ l
  | [], h => by cases h
  | (k', v') :: rest, h => by
    unfold lookup at h
    split at h
    · rename_i heq
      cases h
      rw [LawfulEqCmp.eq_of_compare heq]
      exact List.mem_cons_self
    · exact List.mem_cons_of_mem _ (mem_of_lookup h)

theorem lookup_of_mem {k : κ} {v : α} : ∀ {l : List (κ × α)},
    l.Pairwise (fun a b => compare a.1 b.1 = .lt) → (k, v) ∈ l → lookup k l = some v
  | [], _, h => by cases h
  | (k', v') :: rest, hs, h => by
    obtain ⟨hk, hrest⟩ := List.pairwise_cons.1 hs
    unfold lookup
    rcases List.mem_cons.1 h with h | h
    · cases h
      simp
    · have hlt : compare k' k = .lt := hk _ h
      have hne : compare k k' ≠ .eq := by
        intro he
        obtain rfl := LawfulEqCmp.eq_of_compare he
        simp at hlt
      rw [if_neg hne]
      exact lookup_of_mem hrest h

/-- What can be looked up is what is listed. -/
theorem find?_eq_some_iff {t : Table κ α} {k : κ} {v : α} : t.find? k = some v ↔ (k, v) ∈ t.entries :=
  ⟨mem_of_lookup, lookup_of_mem t.ascending⟩

theorem find?_filter (t : Table κ α) (p : κ → α → Bool) (k : κ) :
    (t.filter p).find? k = (t.find? k).filter (p k) := by
  cases h : t.find? k with
  | none =>
    cases h' : (t.filter p).find? k with
    | none => rfl
    | some v =>
      have hm := (List.mem_filter.1 (find?_eq_some_iff.1 h')).1
      rw [find?_eq_some_iff.2 hm] at h
      cases h
  | some v =>
    have hm := find?_eq_some_iff.1 h
    by_cases hp : p k v = true
    · simp only [Option.filter, hp, if_true]
      exact find?_eq_some_iff.2 (List.mem_filter.2 ⟨hm, hp⟩)
    · simp only [Option.filter, hp]
      cases h' : (t.filter p).find? k with
      | none => rfl
      | some w =>
        have hw := List.mem_filter.1 (find?_eq_some_iff.1 h')
        have : t.find? k = some w := find?_eq_some_iff.2 hw.1
        rw [h] at this
        cases this
        exact absurd hw.2 hp

theorem find?_erase (t : Table κ α) (k k' : κ) :
    (t.erase k).find? k' = if compare k k' = .eq then none else t.find? k' := by
  rw [erase, find?_filter]
  by_cases h : compare k k' = .eq
  · cases t.find? k' <;> simp [h]
  · cases t.find? k' <;> simp [h]

@[simp] theorem find?_erase_self (t : Table κ α) (k : κ) : (t.erase k).find? k = none := by
  simp [find?_erase]

theorem find?_erase_of_ne (t : Table κ α) {k k' : κ} (h : k' ≠ k) : (t.erase k).find? k' = t.find? k' := by
  simp [find?_erase, Ne.symm h]

theorem find?_map (t : Table κ α) (f : κ → α → β) (k : κ) : (t.map f).find? k = (t.find? k).map (f k) := by
  obtain ⟨l, hl⟩ := t
  simp only [find?, map]
  clear hl
  induction l with
  | nil => rfl
  | cons e rest ih =>
    obtain ⟨k', v⟩ := e
    simp only [List.map_cons, lookup]
    split
    · rename_i he
      rw [LawfulEqCmp.eq_of_compare he]
      rfl
    · exact ih

theorem find?_modify (t : Table κ α) (k k' : κ) (f : α → α) :
    (t.modify k f).find? k' = if compare k k' = .eq then (t.find? k').map f else t.find? k' := by
  rw [modify, find?_map]
  by_cases h : compare k k' = .eq
  · simp [h]
  · simp [h]

/-- A table is determined by what can be looked up in it. -/
theorem ext_find? [TransOrd κ] {t u : Table κ α} (h : ∀ k, t.find? k = u.find? k) : t = u := by
  obtain ⟨l, hl⟩ := t
  obtain ⟨m, hm⟩ := u
  have h' : ∀ k, lookup k l = lookup k m := h
  suffices l = m by subst this; rfl
  clear h
  induction l generalizing m with
  | nil =>
    cases m with
    | nil => rfl
    | cons e m =>
      have := h' e.1
      simp [lookup] at this
  | cons e l ih =>
    cases m with
    | nil =>
      have := h' e.1
      simp [lookup] at this
    | cons e' m =>
      obtain ⟨k, v⟩ := e
      obtain ⟨k', v'⟩ := e'
      obtain ⟨hk, hl'⟩ := List.pairwise_cons.1 hl
      obtain ⟨hk', hm'⟩ := List.pairwise_cons.1 hm
      have same : k = k' := by
        have h1 : (k, v) ∈ (k', v') :: m := mem_of_lookup (by rw [← h' k]; simp [lookup])
        have h2 : (k', v') ∈ (k, v) :: l := mem_of_lookup (by rw [h' k']; simp [lookup])
        rcases List.mem_cons.1 h1 with h1 | h1
        · cases h1; rfl
        · rcases List.mem_cons.1 h2 with h2 | h2
          · cases h2; rfl
          · have a := hk' _ h1
            have b := hk _ h2
            exact absurd (TransCmp.lt_trans a b) (by simp)
      subst same
      have hv : v = v' := by simpa [lookup] using h' k
      subst hv
      have hrest : ∀ x, lookup x l = lookup x m := by
        intro x
        by_cases hx : compare x k = .eq
        · obtain rfl := LawfulEqCmp.eq_of_compare hx
          have n1 : lookup x l = none := by
            cases hh : lookup x l with
            | none => rfl
            | some w => exact absurd (hk _ (mem_of_lookup hh)) (by simp)
          have n2 : lookup x m = none := by
            cases hh : lookup x m with
            | none => rfl
            | some w => exact absurd (hk' _ (mem_of_lookup hh)) (by simp)
          rw [n1, n2]
        · have := h' x
          simpa [lookup, hx] using this
      rw [ih hl' m hm' hrest]

end Lawful

end Table

end SessionBroker
