import Mathlib.Algebra.Group.Nat.Defs
import Mathlib.Data.List.Induction
import SessionBroker.Text.Basic

/-!
# SessionBroker.Proofs.Hexadecimals — numbers in hexadecimal digits

* `hexNumber?_hexDigits`: what is written is read back, if there are digits enough.
* `hexDigits_of_hexNumber?`: what is read is written back in lower case.
* `compare_hexDigits`: texts with the same number of digits are in the order of their numbers.
-/

namespace SessionBroker.Text

variable {cs : List Char} {c : Char} {d n v : Nat}

/-! ### Digits -/

/-- The digits in lower case, and then those that have another form in upper case. -/
def hexChars : List Char := "0123456789abcdefABCDEF".toList

theorem hexValue?_digitChar : ∀ d < 16, hexValue? (Nat.digitChar d) = some d := by decide

theorem compare_digitChar : ∀ d < 16, ∀ d' < 16, compare (Nat.digitChar d) (Nat.digitChar d') = compare d d' := by
  decide

/-- A character with a value is one of the first ones. -/
theorem toNat_lt_of_hexValue? (h : hexValue? c = some d) : c.toNat < 103 := by
  have hbound : ∀ l : Char, l.toNat < 103 → c ≤ l → c.toNat < 103 := by
    intro l hl hle
    exact Nat.lt_of_le_of_lt (UInt32.le_iff_toNat_le.1 hle) hl
  unfold hexValue? at h
  split at h
  · rename_i hrange
    exact hbound '9' (by decide) hrange.2
  · split at h
    · rename_i hrange
      exact hbound 'f' (by decide) hrange.2
    · split at h
      · rename_i hrange
        exact hbound 'F' (by decide) hrange.2
      · cases h

/-- The value of a digit, the digit that is written for it, and the characters that have a value, all of which are
among the first ones. -/
theorem hexValue?_table : ∀ n < 103,
    (hexValue? (.ofNat n)).all (fun d => d < 16 ∧ Nat.digitChar d = (Char.ofNat n).toLower) ∧
    ((hexValue? (.ofNat n)).isSome → Char.ofNat n ∈ hexChars) := by
  decide +kernel

theorem digitChar_of_hexValue? (h : hexValue? c = some d) : d < 16 ∧ Nat.digitChar d = c.toLower ∧ c ∈ hexChars := by
  have hrow := hexValue?_table c.toNat (toNat_lt_of_hexValue? h)
  rw [Char.ofNat_toNat, h] at hrow
  simpa [and_assoc] using hrow

theorem hexValue?_of_mem : ∀ c ∈ hexChars, (hexValue? c).isSome := List.all_eq_true.1 (by decide)

/-! ### Numbers -/

theorem hexNumberFrom?_append (acc : Nat) (cs cs' : List Char) :
    hexNumberFrom? acc (cs ++ cs') = (hexNumberFrom? acc cs).bind fun n => hexNumberFrom? n cs' := by
  induction cs generalizing acc with
  | nil => rfl
  | cons c cs ih =>
    simp only [List.cons_append, hexNumberFrom?]
    cases hexValue? c with
    | none => rfl
    | some d => exact ih (acc * 16 + d)

/-- The last digit counts once, and the others sixteen times. -/
theorem hexNumber?_append_singleton : hexNumber? (cs ++ [c]) = some v ↔
    ∃ w d, hexNumber? cs = some w ∧ hexValue? c = some d ∧ v = w * 16 + d := by
  unfold hexNumber?
  rw [hexNumberFrom?_append]
  cases hexNumberFrom? 0 cs with
  | none => simp
  | some w => cases hd : hexValue? c <;> simp [hexNumberFrom?, hd, eq_comm]

/-- Texts of digits are those that denote a number. -/
theorem exists_hexNumber?_iff : (∃ v, hexNumber? cs = some v) ↔ ∀ c ∈ cs, c ∈ hexChars := by
  suffices ∀ acc, (∃ v, hexNumberFrom? acc cs = some v) ↔ ∀ c ∈ cs, c ∈ hexChars from this 0
  induction cs with
  | nil => simp [hexNumberFrom?]
  | cons c cs ih =>
    intro acc
    rw [List.forall_mem_cons, hexNumberFrom?]
    cases hd : hexValue? c with
    | none =>
      have hc : c ∉ hexChars := fun hmem => by simpa [hd] using hexValue?_of_mem c hmem
      simp [hc]
    | some d => simp [ih, (digitChar_of_hexValue? hd).2.2]

@[simp] theorem length_hexDigits (n v : Nat) : (hexDigits n v).length = n := by
  induction n generalizing v with
  | zero => rfl
  | succ n ih => rw [hexDigits, List.length_append, ih, List.length_singleton]

theorem hexNumber?_hexDigits (h : v < 16 ^ n) : hexNumber? (hexDigits n v) = some v := by
  induction n generalizing v with
  | zero =>
    obtain rfl : v = 0 := by simpa using h
    rfl
  | succ n ih =>
    rw [Nat.pow_succ] at h
    exact hexNumber?_append_singleton.2
      ⟨v / 16, v % 16, ih (by omega), hexValue?_digitChar _ (Nat.mod_lt _ (by decide)), by omega⟩

theorem hexDigits_of_hexNumber? (h : hexNumber? cs = some v) :
    v < 16 ^ cs.length ∧ hexDigits cs.length v = cs.map Char.toLower := by
  induction cs using List.reverseRecOn generalizing v with
  | nil =>
    obtain rfl : 0 = v := Option.some.inj h
    exact ⟨by simp, rfl⟩
  | append_singleton cs c ih =>
    obtain ⟨w, d, hw, hd, rfl⟩ := hexNumber?_append_singleton.1 h
    obtain ⟨hbound, hdigits⟩ := ih hw
    obtain ⟨hlt, hlower, -⟩ := digitChar_of_hexValue? hd
    rw [List.length_append, List.length_singleton, Nat.pow_succ, hexDigits, List.map_append, ← hdigits,
      List.map_singleton, ← hlower, show (w * 16 + d) / 16 = w by omega, show (w * 16 + d) % 16 = d by omega]
    exact ⟨by omega, rfl⟩

/-! ### Order -/

/-- Texts are compared at the front first, if that is of the same length in both. -/
theorem compare_append {xs ys : List Char} (h : xs.length = ys.length) (xs' ys' : List Char) :
    compare (xs ++ xs') (ys ++ ys') = (compare xs ys).then (compare xs' ys') := by
  induction xs generalizing ys with
  | nil =>
    obtain rfl := List.eq_nil_of_length_eq_zero h.symm
    rfl
  | cons x xs ih =>
    cases ys with
    | nil => cases h
    | cons y ys =>
      rw [List.cons_append, List.cons_append, List.compare_cons_cons, List.compare_cons_cons, ih (by simpa using h),
        Ordering.then_assoc]

theorem compare_append_left (xs ys zs : List Char) : compare (xs ++ ys) (xs ++ zs) = compare ys zs := by
  rw [compare_append rfl, Std.ReflOrd.compare_self (a := xs), Ordering.eq_then]

/-- Numbers are compared without their last digits first. -/
theorem compare_div_mod (a b : Nat) : compare a b = (compare (a / 16) (b / 16)).then (compare (a % 16) (b % 16)) := by
  rcases Nat.lt_trichotomy (a / 16) (b / 16) with hlt | heq | hgt
  · rw [Nat.compare_eq_lt.2 hlt, Nat.compare_eq_lt.2 (by omega)]
    rfl
  · rw [Nat.compare_eq_eq.2 heq, Ordering.eq_then]
    rcases Nat.lt_trichotomy (a % 16) (b % 16) with hlt | heq' | hgt
    · rw [Nat.compare_eq_lt.2 hlt, Nat.compare_eq_lt.2 (by omega)]
    · rw [Nat.compare_eq_eq.2 heq', Nat.compare_eq_eq.2 (by omega)]
    · rw [Nat.compare_eq_gt.2 hgt, Nat.compare_eq_gt.2 (by omega)]
  · rw [Nat.compare_eq_gt.2 hgt, Nat.compare_eq_gt.2 (by omega)]
    rfl

/-- Texts with the same number of digits are in the order of their numbers. -/
theorem compare_hexDigits {a b : Nat} (ha : a < 16 ^ n) (hb : b < 16 ^ n) :
    compare (hexDigits n a) (hexDigits n b) = compare a b := by
  induction n generalizing a b with
  | zero =>
    obtain rfl : a = 0 := by simpa using ha
    obtain rfl : b = 0 := by simpa using hb
    rfl
  | succ n ih =>
    rw [Nat.pow_succ] at ha hb
    have hlast : compare [Nat.digitChar (a % 16)] [Nat.digitChar (b % 16)] = compare (a % 16) (b % 16) := by
      rw [List.compare_cons_cons, compare_digitChar _ (Nat.mod_lt _ (by decide)) _ (Nat.mod_lt _ (by decide))]
      exact Ordering.then_eq
    rw [hexDigits, hexDigits, compare_append (by simp), ih (by omega) (by omega), hlast, ← compare_div_mod]

end SessionBroker.Text
