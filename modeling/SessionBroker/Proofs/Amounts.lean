import Mathlib.Data.List.Induction
import Mathlib.Data.Nat.Digits.Defs
import SessionBroker.Proofs.Grammar

/-!
# SessionBroker.Proofs.Amounts — the texts that are amounts

The reader of an amount cuts a letter off the end of the text and trims what is left before it reads the digits.  Here the
same texts are described from left to right: a sign, digits, blanks and a letter.  Their number is the product in natural
numbers, and it is read if a word can hold it.

* `Text.Denotes ds d`: the digits `ds` denote `d`, each in its place.
* `Args.Spells cs m`: a text of that form whose number is `m`.
* `Args.HasValue a key u`: the value of a key, without the quotes around it.
* `size?_eq_some_iff`, `size?_eq_none_iff`: which texts are amounts, and of which number.
* `amount_exact`: the same for the values of keys, and how a value that is no amount is reported.
-/

namespace SessionBroker

open Text

namespace Text

variable {cs ds : List Char} {d : Nat}

/-- Digits and the number that they denote: the last one counts ones, the one before it tens, and so on. -/
structure Denotes (ds : List Char) (d : Nat) : Prop where
  ne_nil : ds ≠ []
  digits : ∀ c ∈ ds, c.isDigit = true
  value : d = Nat.ofDigits 10 (ds.reverse.map fun c => c.toNat - '0'.toNat)

/-- Digits that are read from the left have the value that their places from the right give them. -/
theorem ofDigitChars_eq_ofDigits (ds : List Char) :
    Nat.ofDigitChars 10 ds 0 = Nat.ofDigits 10 (ds.reverse.map fun c => c.toNat - '0'.toNat) := by
  induction ds using List.reverseRecOn with
  | nil => rfl
  | append_singleton ds c ih =>
    rw [Nat.ofDigitChars_append, ih, Nat.ofDigitChars_cons, List.reverse_append, List.reverse_singleton,
      List.singleton_append, List.map_cons, Nat.ofDigits_cons, Nat.add_comm]
    rfl

theorem number?_eq_some_iff : number? cs = some d ↔ Denotes cs d := by
  unfold number?
  constructor
  · intro h
    split at h
    · rename_i hdigits
      obtain rfl := Option.some.inj h
      exact ⟨hdigits.1, List.all_eq_true.1 hdigits.2, ofDigitChars_eq_ofDigits cs⟩
    · cases h
  · rintro ⟨hne, hdigits, rfl⟩
    rw [if_pos ⟨hne, List.all_eq_true.2 hdigits⟩, ofDigitChars_eq_ofDigits]

theorem denotes_digits (d : Nat) : Denotes (digits d) d := number?_eq_some_iff.1 (number?_digits d)

theorem word?_eq_some_iff {n : Word} : word? cs = some n ↔ Denotes cs n.val := by
  constructor
  · intro h
    obtain ⟨d, hd, hn⟩ := Option.bind_eq_some_iff.1 h
    rw [Word.ofNat?_eq_some] at hn
    exact hn ▸ number?_eq_some_iff.1 hd
  · intro h
    exact Option.bind_eq_some_iff.2 ⟨n.val, number?_eq_some_iff.2 h, Word.ofNat?_val n⟩

end Text

namespace Args

variable {a : Args} {cs : List Char} {c : Char} {d k : Nat} {key u v : String} {n : Word}

/-! ### Numbers and letters -/

/-- Digits behind an optional plus sign. -/
def Numeral (cs : List Char) (d : Nat) : Prop :=
  ∃ sign ds, cs = sign ++ ds ∧ (sign = [] ∨ sign = ['+']) ∧ Denotes ds d

theorem plain?_eq_some_iff : plain? cs = some n ↔ Numeral cs n.val := by
  constructor
  · intro h
    unfold plain? at h
    split at h
    · rename_i ds
      exact ⟨['+'], ds, rfl, .inr rfl, word?_eq_some_iff.1 h⟩
    · exact ⟨[], cs, rfl, .inl rfl, word?_eq_some_iff.1 h⟩
  · rintro ⟨sign, ds, rfl, rfl | rfl, hds⟩
    · unfold plain?
      split
      · -- a plus sign is no digit
        rename_i hplus
        obtain rfl : ds = '+' :: _ := hplus
        cases hds.digits '+' List.mem_cons_self
      · exact word?_eq_some_iff.2 hds
    · exact word?_eq_some_iff.2 hds

theorem Numeral.isDigit_of_getLast? (h : Numeral cs d) (hc : c ∈ cs.getLast?) : c.isDigit = true := by
  obtain ⟨sign, ds, rfl, -, hds⟩ := h
  rw [List.getLast?_append_of_ne_nil _ hds.ne_nil] at hc
  exact hds.digits c (List.mem_of_mem_getLast? hc)

theorem Numeral.trimmed (h : Numeral cs d) : Trimmed cs where
  head c hc := by
    obtain ⟨sign, ds, rfl, rfl | rfl, hds⟩ := h
    · exact not_isBlank_of_isKeyChar (isKeyChar_of_isDigit (hds.digits c (List.mem_of_mem_head? hc)))
    · cases hc
      decide
  last c hc := not_isBlank_of_isKeyChar (isKeyChar_of_isDigit (h.isDigit_of_getLast? hc))

/-- The letters that stand for a factor. -/
def letters : List (Char × Nat) :=
  [('K', 2 ^ 10), ('k', 2 ^ 10), ('M', 2 ^ 20), ('m', 2 ^ 20), ('G', 2 ^ 30), ('g', 2 ^ 30)]

theorem factor?_eq_some_iff : factor? c = some k ↔ (c, k) ∈ letters := by
  constructor
  · intro h
    unfold factor? at h
    split_ifs at h with hkilo hmega hgiga
    · obtain rfl := Option.some.inj h
      rcases hkilo with rfl | rfl <;> decide
    · obtain rfl := Option.some.inj h
      rcases hmega with rfl | rfl <;> decide
    · obtain rfl := Option.some.inj h
      rcases hgiga with rfl | rfl <;> decide
  · intro h
    simp only [letters, List.mem_cons, List.not_mem_nil, or_false, Prod.mk.injEq] at h
    rcases h with ⟨rfl, rfl⟩ | ⟨rfl, rfl⟩ | ⟨rfl, rfl⟩ | ⟨rfl, rfl⟩ | ⟨rfl, rfl⟩ | ⟨rfl, rfl⟩ <;> rfl

theorem isDigit_letters : ∀ p ∈ letters, p.1.isDigit = false := by decide

theorem pos_letters : ∀ p ∈ letters, 0 < p.2 := by decide

/-- No digit stands for a factor. -/
theorem factor?_of_isDigit (h : c.isDigit = true) : factor? c = none := by
  rw [Option.eq_none_iff_forall_ne_some]
  intro k hk
  cases h.symm.trans (isDigit_letters _ (factor?_eq_some_iff.1 hk))

/-! ### Amounts -/

/-- What stands behind a number, and the factor that it stands for: nothing, or a letter with any blanks before it. -/
inductive Suffix : List Char → Nat → Prop where
  | none : Suffix [] 1
  | letter {blanks : List Char} {c : Char} {k : Nat} (hblanks : IsBlank blanks) (hletter : (c, k) ∈ letters) :
      Suffix (blanks ++ [c]) k

theorem Suffix.pos (h : Suffix cs k) : 0 < k := by
  cases h with
  | none => exact Nat.one_pos
  | letter _ hletter => exact pos_letters _ hletter

/-- A text that writes the number `m`: but for blanks around them, digits and a suffix whose product is `m`. -/
def Spells (cs : List Char) (m : Nat) : Prop :=
  ∃ numeral suffix d k, Trims cs (numeral ++ suffix) ∧ Numeral numeral d ∧ Suffix suffix k ∧ m = d * k

/-- The digits of a number are a text of it. -/
theorem spells_digits (m : Nat) : Spells (digits m) m := by
  have hnumeral : Numeral (digits m) m := ⟨[], digits m, rfl, .inl rfl, denotes_digits m⟩
  refine ⟨digits m, [], m, 1, ?_, hnumeral, .none, (Nat.mul_one m).symm⟩
  rw [List.append_nil]
  exact trims_iff.2 (trim_of_trimmed hnumeral.trimmed)

/-- A text that ends with a letter is the number before it, times the factor that it stands for. -/
theorem size?_of_letter {xs : List Char} (htrim : trim v.toList = xs ++ [c]) (hfactor : factor? c = some k) :
    size? v = plain? (trim xs) >>= fun m => Word.ofNat? (m.val * k) := by
  unfold size?
  simp only [htrim, List.getLast?_concat, Option.bind_some, hfactor, List.dropLast_concat]

theorem size?_of_no_letter (h : (trim v.toList).getLast?.bind factor? = none) : size? v = plain? (trim v.toList) := by
  unfold size?
  simp only [h]

/-- An amount that is read is spelled in the text. -/
theorem spells_of_size? (h : size? v = some n) : Spells v.toList n.val := by
  have htrims : Trims v.toList (trim v.toList) := trims_iff.2 rfl
  cases hlast : (trim v.toList).getLast?.bind factor? with
  | none =>
    rw [size?_of_no_letter hlast] at h
    refine ⟨trim v.toList, [], n.val, 1, ?_, plain?_eq_some_iff.1 h, .none, (Nat.mul_one _).symm⟩
    rwa [List.append_nil]
  | some k =>
    obtain ⟨c, hc, hfactor⟩ := Option.bind_eq_some_iff.1 hlast
    obtain ⟨xs, hxs⟩ := List.getLast?_eq_some_iff.1 hc
    rw [size?_of_letter hxs hfactor] at h
    obtain ⟨m, hm, hn⟩ := Option.bind_eq_some_iff.1 h
    -- the text does not begin with a blank, so neither does what stands before the letter
    have hhead : ∀ b ∈ xs.head?, isBlank b = false := by
      intro b hb
      apply htrims.1.head b
      rw [hxs]
      exact List.mem_head?_append_of_mem_head? hb
    obtain ⟨blanks, hsplit, hblanks⟩ := exists_trim_append hhead
    refine ⟨trim xs, blanks ++ [c], m.val, k, ?_, plain?_eq_some_iff.1 hm, ?_, (Word.ofNat?_eq_some.1 hn).symm⟩
    · rw [← List.append_assoc, ← hsplit, ← hxs]
      exact htrims
    · exact .letter hblanks (factor?_eq_some_iff.1 hfactor)

/-- A number that is spelled in a text is read if a word can hold it. -/
theorem size?_of_spells (h : Spells v.toList n.val) : size? v = some n := by
  obtain ⟨numeral, suffix, d, k, htrims, hnumeral, hsuffix, hn⟩ := h
  -- the factor makes the number no smaller, so the digits alone fit as well
  have hd : d < 0x10000000000000000 :=
    calc
      d ≤ d * k := Nat.le_mul_of_pos_right d hsuffix.pos
      _ = n.val := hn.symm
      _ < _ := n.isLt
  have hplain : plain? numeral = some ⟨d, hd⟩ := plain?_eq_some_iff.2 hnumeral
  rw [trims_iff] at htrims
  cases hsuffix with
  | none =>
    rw [List.append_nil] at htrims
    have hlast : (trim v.toList).getLast?.bind factor? = none := by
      rw [htrims, Option.bind_eq_none_iff]
      exact fun c hc => factor?_of_isDigit (hnumeral.isDigit_of_getLast? hc)
    rw [size?_of_no_letter hlast, htrims, hplain]
    exact congrArg some (Word.ext (by rw [hn, Nat.mul_one]))
  | letter hblanks hletter =>
    rw [← List.append_assoc] at htrims
    have htrim := trim_surround (u := []) (by simp) hnumeral.trimmed hblanks
    rw [List.nil_append] at htrim
    rw [size?_of_letter htrims (factor?_eq_some_iff.2 hletter), htrim, hplain]
    exact Word.ofNat?_eq_some.2 hn.symm

theorem size?_eq_some_iff : size? v = some n ↔ Spells v.toList n.val := ⟨spells_of_size?, size?_of_spells⟩

/-- A text is no amount exactly if no word can hold a number that it spells. -/
theorem size?_eq_none_iff : size? v = none ↔ ∀ m, Spells v.toList m → 2 ^ 64 ≤ m := by
  simp only [Option.eq_none_iff_forall_ne_some, ne_eq, size?_eq_some_iff]
  constructor
  · intro h m hm
    by_contra hsmall
    exact h ⟨m, Nat.lt_of_not_le hsmall⟩ hm
  · intro h n hn
    exact Nat.not_lt.2 (h n.val hn) n.isLt

/-! ### The values of keys -/

/-- The value that a key has: that of its first entry. -/
def HasEntry (a : Args) (key v : String) : Prop :=
  ∃ pre post, a.entries = pre ++ (key, v) :: post ∧ ∀ e ∈ pre, e.1 ≠ key

theorem raw?_eq_some_iff : a.raw? key = some v ↔ HasEntry a key v := by
  unfold raw?
  constructor
  · intro h
    obtain ⟨e, he, rfl⟩ := Option.map_eq_some_iff.1 h
    obtain ⟨hkey, pre, post, hsplit, hpre⟩ := List.find?_eq_some_iff_append.1 he
    obtain rfl := beq_iff_eq.1 hkey
    exact ⟨pre, post, hsplit, by simpa using hpre⟩
  · rintro ⟨pre, post, hsplit, hpre⟩
    have hfind : a.entries.find? (fun e => e.1 == key) = some (key, v) :=
      List.find?_eq_some_iff_append.2 ⟨beq_self_eq_true key, pre, post, hsplit, by simpa using hpre⟩
    rw [hfind]
    rfl

theorem raw?_eq_none_iff : a.raw? key = none ↔ ∀ e ∈ a.entries, e.1 ≠ key := by
  simp [raw?]

/-- A value without the two quotes around it.  Any other value stays as it is. -/
inductive Unquotes : String → String → Prop where
  | quoted (u : String) : Unquotes ("\"" ++ u ++ "\"") u
  | bare {v : String} (h : ∀ u, v ≠ "\"" ++ u ++ "\"") : Unquotes v v

theorem toList_quoted (v : String) : ("\"" ++ v ++ "\"").toList = '"' :: (v.toList ++ ['"']) := by
  simp

theorem unquote_quoted (v : String) : unquote ("\"" ++ v ++ "\"") = v := by
  unfold unquote
  rw [toList_quoted]
  simp

theorem unquote_bare (h : ∀ u, v ≠ "\"" ++ u ++ "\"") : unquote v = v := by
  unfold unquote
  split
  · rename_i rest hrest
    split
    · rename_i hlast
      obtain ⟨xs, rfl⟩ := List.getLast?_eq_some_iff.1 hlast
      refine absurd (String.toList_inj.1 ?_) (h (.ofList xs))
      rw [hrest, toList_quoted, String.toList_ofList]
    · rfl
  · rfl

theorem unquotes_iff : Unquotes v u ↔ unquote v = u := by
  constructor
  · rintro (_ | h)
    · exact unquote_quoted u
    · exact unquote_bare h
  · rintro rfl
    by_cases h : ∃ u, v = "\"" ++ u ++ "\""
    · obtain ⟨u, rfl⟩ := h
      rw [unquote_quoted]
      exact .quoted u
    · rw [unquote_bare (not_exists.1 h)]
      exact .bare (not_exists.1 h)

/-- The value that a key has, without the quotes around it. -/
def HasValue (a : Args) (key u : String) : Prop := ∃ v, HasEntry a key v ∧ Unquotes v u

theorem get?_eq_some_iff : a.get? key = some u ↔ HasValue a key u := by
  simp only [get?, HasValue, Option.map_eq_some_iff, raw?_eq_some_iff, unquotes_iff]

theorem get?_eq_none_iff : a.get? key = none ↔ ∀ e ∈ a.entries, e.1 ≠ key := by
  rw [get?, Option.map_eq_none_iff, raw?_eq_none_iff]

/-- An amount is that of the value of the key, or the default if the key is absent. -/
theorem amount_eq_ok_iff {default : Word} : a.amount key default = .ok n ↔
    (∀ e ∈ a.entries, e.1 ≠ key) ∧ n = default ∨ ∃ u, HasValue a key u ∧ Spells u.toList n.val := by
  simp only [← get?_eq_none_iff, ← get?_eq_some_iff, ← size?_eq_some_iff]
  unfold amount
  cases a.get? key with
  | none => simp [eq_comm]
  | some u => cases hsize : size? u <;> simp [hsize]

/-- A value that is no amount is reported without its quotes. -/
theorem amount_eq_error_iff {default : Word} {e : ArgsError} : a.amount key default = .error e ↔
    ∃ u, HasValue a key u ∧ (∀ m, Spells u.toList m → 2 ^ 64 ≤ m) ∧ e = .invalidValue key u := by
  simp only [← get?_eq_some_iff, ← size?_eq_none_iff]
  unfold amount
  cases a.get? key with
  | none => simp
  | some u => cases hsize : size? u <;> simp [hsize, eq_comm]

/-- A quota is read exactly if both of its amounts are. -/
theorem quota_eq_ok_iff {q : Quota} : a.quota = .ok q ↔ a.donation .ram = .ok q.ram ∧ a.donation .caps = .ok q.caps := by
  unfold quota
  cases a.donation .ram with
  | error e => simp [bind, Except.bind]
  | ok ram =>
    cases a.donation .caps with
    | error e => simp [bind, Except.bind]
    | ok caps => simp [bind, Except.bind, pure, Except.pure, Quota.ext_iff]

/-- The first amount that cannot be read is the reason why a quota cannot be read. -/
theorem quota_eq_error_iff {e : ArgsError} : a.quota = .error e ↔
    a.donation .ram = .error e ∨ (∀ e', a.donation .ram ≠ .error e') ∧ a.donation .caps = .error e := by
  unfold quota
  cases a.donation .ram with
  | error e' => simp [bind, Except.bind]
  | ok ram =>
    cases a.donation .caps with
    | error e' => simp [bind, Except.bind]
    | ok caps => simp [bind, Except.bind, pure, Except.pure]

/-- A text is the amount `n` exactly if it spells `n`: blanks, an optional plus sign, one or more digits, an optional
letter with any blanks before it, and blanks, where `n` is the number of the digits times the factor of the letter.  It is
no amount if it is not of this form, or if the number is `2 ^ 64` or more.  A key that is absent has the default, and a
key that is there has the amount of its value without the quotes around it.  If that is no amount, it is reported
together with the key. -/
theorem amount_exact :
    (∀ v n, size? v = some n ↔ Spells v.toList n.val) ∧
      (∀ v, size? v = none ↔ ∀ m, Spells v.toList m → 2 ^ 64 ≤ m) ∧
      ∀ a key default,
        (∀ n, amount a key default = .ok n ↔
          (∀ e ∈ a.entries, e.1 ≠ key) ∧ n = default ∨ ∃ u, HasValue a key u ∧ Spells u.toList n.val) ∧
        ∀ e, amount a key default = .error e ↔
          ∃ u, HasValue a key u ∧ (∀ m, Spells u.toList m → 2 ^ 64 ≤ m) ∧ e = .invalidValue key u :=
  ⟨fun _ _ => size?_eq_some_iff, fun _ => size?_eq_none_iff, fun _ _ _ =>
    ⟨fun _ => amount_eq_ok_iff, fun _ => amount_eq_error_iff⟩⟩

/-- The largest amount with the factor of `G`, and the first number behind it that no word can hold. -/
example : size? " +17179869183 g" = some ⟨18446744072635809792, by decide⟩ ∧ size? "17179869184G" = none := by decide

end Args

end SessionBroker
