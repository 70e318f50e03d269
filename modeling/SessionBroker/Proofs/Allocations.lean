import SessionBroker.Proofs.FreshIds

/-!
# SessionBroker.Proofs.Allocations — what allocations do to a space of ids

* `IdSpace.Allocates`: what one allocation does, and which id it takes.
* `IdSpace.allocated`: the ids that a run of allocations, entries of the peer and releases takes.
* `cursor_step`: what one operation allocates lies between where the cursor was and where it is, unless the cursor comes
  round to zero.  So in a run without that (`IdSpace.Unwrapped`) the ids ascend (`ascending_allocated`).
-/

namespace SessionBroker.IdSpace

variable {side : Side} {α : Type} {s : IdSpace side α} {i j : Ident side} {n : Nat}

/-! ### One allocation -/

/-- From `s` to `s'`, a value was put under a fresh id. -/
structure Allocates (s : IdSpace side α) (v : α) (i : Ident side) (s' : IdSpace side α) : Prop where
  /-- The search from the cursor ends at the id, and passes over no more ids than there are entries. -/
  search : ∃ n ≤ s.size, s.Passes s.cursor n i
  /-- All ids from the cursor to this one, in cyclic order, are in use, and this one is not. -/
  first : ∃ n, i = s.cursor.after n ∧ ∀ m < n, s.contains (s.cursor.after m) = true
  free : s.find? i = none
  entry : s'.find? i = some v
  others : ∀ j, j ≠ i → s'.find? j = s.find? j
  size : s'.size = s.size + 1
  cursor : s'.cursor = i.succ

theorem allocates_alloc (h : s.size < 0x10000000000000000) (v : α) : s.Allocates v (s.alloc v).1 (s.alloc v).2 := by
  obtain ⟨n, hn, hsearch⟩ := passes_nextFree h
  obtain ⟨hfirst, hfree, hbefore⟩ := passes_iff.1 hsearch
  have hnone : s.find? s.nextFree = none := by simpa [contains, Table.contains, find?] using hfree
  exact
    { search := ⟨n, hn, hsearch⟩
      first := ⟨n, hfirst, hbefore⟩
      free := hnone
      entry := (find?_alloc s v _).trans (if_pos rfl)
      others := fun j hj => (find?_alloc s v j).trans (if_neg hj)
      size := Table.size_insert_new v hnone
      cursor := rfl }

/-! ### A run -/

/-- What happens to a space: an allocation, an entry under an id chosen by the peer, or the release of an id. -/
inductive Op (side : Side) (α : Type) where
  | alloc (v : α)
  | insert (i : Ident side) (v : α)
  | erase (i : Ident side)

/-- An entry under an id in use is refused, and changes nothing. -/
def step (s : IdSpace side α) : Op side α → IdSpace side α
  | .alloc v => (s.alloc v).2
  | .insert i v =>
    match s.insert i v with
    | .ok s' => s'
    | .error _ => s
  | .erase i => s.erase i

/-- The id that an operation allocates. -/
def allocated? (s : IdSpace side α) : Op side α → Option (Ident side)
  | .alloc v => some (s.alloc v).1
  | .insert _ _ => none
  | .erase _ => none

/-- The ids that are allocated in a run, in this order. -/
def allocated (s : IdSpace side α) : List (Op side α) → List (Ident side)
  | [] => []
  | op :: ops => (s.allocated? op).toList ++ (s.step op).allocated ops

/-- The search of an allocation ends, and the cursor, which moves past the id at its end, does not come round to zero. -/
def Onward (s : IdSpace side α) : Op side α → Prop
  | .alloc _ => ∃ n i, s.Passes s.cursor n i ∧ s.cursor.num.val + n + 1 < 0x10000000000000000
  | .insert _ _ => True
  | .erase _ => True

/-- A run whose cursor does not come round to zero. -/
def Unwrapped (s : IdSpace side α) : List (Op side α) → Prop
  | [] => True
  | op :: ops => s.Onward op ∧ (s.step op).Unwrapped ops

variable {op : Op side α} {ops : List (Op side α)}

/-- An id that is allocated is not below the cursor, and the cursor moves past it. -/
theorem cursor_alloc (v : α) (h : s.Onward (.alloc v)) :
    s.cursor.num ≤ (s.alloc v).1.num ∧ (s.alloc v).1.num < (s.alloc v).2.cursor.num := by
  obtain ⟨n, i, hsearch, hbound⟩ := h
  obtain rfl : s.nextFree = i := nextFree_of_passes hsearch
  have hplace : s.nextFree.num.val = (s.cursor.num.val + n) % 0x10000000000000000 :=
    congrArg (fun i : Ident side => i.num.val) (passes_iff.1 hsearch).1
  show s.cursor.num.val ≤ s.nextFree.num.val ∧ s.nextFree.num.val < (s.nextFree.num.val + 1) % 0x10000000000000000
  omega

/-- The cursor never goes back, and what is allocated lies between where it was and where it is. -/
theorem cursor_step (h : s.Onward op) : s.cursor.num ≤ (s.step op).cursor.num ∧
    ∀ i ∈ s.allocated? op, s.cursor.num ≤ i.num ∧ i.num < (s.step op).cursor.num := by
  cases op with
  | alloc v =>
    obtain ⟨hle, hlt⟩ := cursor_alloc v h
    refine ⟨?_, fun i hi => ?_⟩
    · rw [Word.le_def] at hle ⊢
      rw [Word.lt_def] at hlt
      exact Nat.le_trans hle (Nat.le_of_lt hlt)
    · obtain rfl := Option.some.inj hi
      exact ⟨hle, hlt⟩
  | insert i v =>
    have hsame : (s.step (.insert i v)).cursor = s.cursor := by
      cases hused : s.contains i <;> simp [step, insert, hused]
    rw [hsame]
    exact ⟨Nat.le_refl _, fun j hj => by cases hj⟩
  | erase i => exact ⟨Nat.le_refl _, fun j hj => by cases hj⟩

/-- A run allocates no id below the cursor that it began with. -/
theorem cursor_le_allocated (h : s.Unwrapped ops) : ∀ i ∈ s.allocated ops, s.cursor.num ≤ i.num := by
  induction ops generalizing s with
  | nil => simp [allocated]
  | cons op ops ih =>
    obtain ⟨hop, hrest⟩ := h
    obtain ⟨hcursor, hone⟩ := cursor_step hop
    intro i hi
    rcases List.mem_append.1 hi with hi | hi
    · exact (hone i (Option.mem_toList.1 hi)).1
    · exact Nat.le_trans hcursor (ih hrest i hi)

/-- The ids that a run allocates ascend. -/
theorem ascending_allocated (h : s.Unwrapped ops) : (s.allocated ops).Pairwise fun i j => i.num < j.num := by
  induction ops generalizing s with
  | nil => exact .nil
  | cons op ops ih =>
    obtain ⟨hop, hrest⟩ := h
    refine List.pairwise_append.2 ⟨?_, ih hrest, fun i hi j hj => ?_⟩
    · cases s.allocated? op <;> simp
    · have hbelow := ((cursor_step hop).2 i (Option.mem_toList.1 hi)).2
      exact Nat.lt_of_lt_of_le hbelow (cursor_le_allocated hrest j hj)

/-- Whatever led to a space with fewer than `2 ^ 64` entries, an allocation ends, takes the first id from the cursor on
that is not in use, adds an entry under this id and nothing else, and moves the cursor past it.  In a run whose cursor
does not come round to zero, the ids that are allocated ascend, and none of them is allocated twice, whether or not it
was released. -/
theorem alloc_first_free (s : IdSpace side α) :
    (s.size < 0x10000000000000000 → ∀ v, s.Allocates v (s.alloc v).1 (s.alloc v).2) ∧
      ∀ ops, s.Unwrapped ops →
        (s.allocated ops).Pairwise (fun i j => i.num < j.num) ∧ (s.allocated ops).Nodup := by
  refine ⟨allocates_alloc, fun ops h => ⟨ascending_allocated h, ?_⟩⟩
  refine (ascending_allocated h).imp ?_
  rintro i j hlt rfl
  exact Nat.lt_irrefl _ hlt

/-- A cursor at the largest id: this one and zero are in use, so the next allocation takes the id one. -/
def comingRound : IdSpace .server String where
  table := ((∅ : Table (Ident .server) String).insert ⟨.top⟩ "last").insert ⟨0⟩ "first"
  cursor := ⟨.top⟩

/-- The peer takes the id that would be next, and the first id is released: the second allocation takes neither. -/
def takenAndReleased : List (Op .server String) := [.alloc "ours", .insert ⟨1⟩ "peer", .erase ⟨0⟩, .alloc "ours"]

theorem alloc_first_free_comingRound :
    (comingRound.size < 0x10000000000000000 ∧ comingRound.Allocates "next" ⟨1⟩ (comingRound.alloc "next").2) ∧
      (empty.Unwrapped takenAndReleased ∧ empty.allocated takenAndReleased = [⟨0⟩, ⟨⟨2, by decide⟩⟩] ∧
        (empty.allocated takenAndReleased).Nodup) := by
  have hsize : comingRound.size < 0x10000000000000000 := by decide
  have hrun : empty.Unwrapped takenAndReleased :=
    ⟨⟨0, _, .free rfl, by decide⟩, trivial, trivial,
      ⟨1, _, .taken (by decide +kernel) (.free (by decide +kernel)), by decide +kernel⟩, trivial⟩
  exact ⟨⟨hsize, (alloc_first_free comingRound).1 hsize "next"⟩, hrun, by decide +kernel,
    ((alloc_first_free empty).2 _ hrun).2⟩

end SessionBroker.IdSpace
