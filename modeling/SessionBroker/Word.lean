/-!
# SessionBroker.Word — numbers of 64 bits

* `Word`: a natural number below `0x10000000000000000`, which is two to the power 64.  Quota amounts, ids and limits
  are words.
* `satAdd` stops at the largest word, `add?` refuses a sum that does not fit, `sub` stops at zero, and `succ` comes
  back to zero after the largest word.
-/

namespace SessionBroker

/-- A natural number that fits in 64 bits. -/
@[ext]
structure Word where
  val : Nat
  isLt : val < 0x10000000000000000
  deriving DecidableEq

namespace Word

def top : Word := ⟨0xFFFFFFFFFFFFFFFF, by decide⟩

instance : OfNat Word 0 := ⟨⟨0, by decide⟩⟩

instance : OfNat Word 1 := ⟨⟨1, by decide⟩⟩

instance : Inhabited Word := ⟨0⟩

instance : LE Word := ⟨fun a b => a.val ≤ b.val⟩

instance : LT Word := ⟨fun a b => a.val < b.val⟩

instance (a b : Word) : Decidable (a ≤ b) := inferInstanceAs (Decidable (a.val ≤ b.val))

instance (a b : Word) : Decidable (a < b) := inferInstanceAs (Decidable (a.val < b.val))

instance : Ord Word := ⟨fun a b => compare a.val b.val⟩

instance : ToString Word := ⟨fun a => toString a.val⟩

theorem le_def {a b : Word} : a ≤ b ↔ a.val ≤ b.val := Iff.rfl

theorem lt_def {a b : Word} : a < b ↔ a.val < b.val := Iff.rfl

@[simp] theorem val_zero : (0 : Word).val = 0 := rfl

instance : Std.TransOrd Word where
  eq_swap := Std.OrientedOrd.eq_swap (α := Nat)
  isLE_trans := Std.TransOrd.isLE_trans (α := Nat)

instance : Std.LawfulEqOrd Word where
  compare_self := Std.ReflOrd.compare_self (α := Nat)
  eq_of_compare h := Word.ext (Std.LawfulEqOrd.eq_of_compare (α := Nat) h)

/-- The word of a number that is small enough. -/
def ofNat? (n : Nat) : Option Word := if h : n < 0x10000000000000000 then some ⟨n, h⟩ else none

/-- The sum, or the largest word if the sum does not fit. -/
def satAdd (a b : Word) : Word := ⟨min (a.val + b.val) (0xFFFFFFFFFFFFFFFF), by omega⟩

/-- The sum, if it fits. -/
def add? (a b : Word) : Option Word := ofNat? (a.val + b.val)

/-- The difference, or zero if `b` is larger. -/
def sub (a b : Word) : Word := ⟨a.val - b.val, by have := a.isLt; omega⟩

/-- The following word, zero after the largest. -/
def succ (a : Word) : Word := ⟨(a.val + 1) % 0x10000000000000000, Nat.mod_lt _ (by decide)⟩

@[simp] theorem val_sub (a b : Word) : (a.sub b).val = a.val - b.val := rfl

theorem ofNat?_val (a : Word) : ofNat? a.val = some a := dif_pos a.isLt

theorem ofNat?_eq_some {n : Nat} {a : Word} : ofNat? n = some a ↔ n = a.val := by
  constructor
  · intro h
    unfold ofNat? at h
    split at h
    · cases h; rfl
    · cases h
  · rintro rfl
    exact ofNat?_val a

theorem add?_eq_some {a b c : Word} : a.add? b = some c ↔ a.val + b.val = c.val := ofNat?_eq_some

end Word

end SessionBroker
