import SessionBroker.Proofs.Amounts

/-!
# SessionBroker.Proofs.Assignments — arguments in which a key is set

A key is set in the place of its first entry, or else at the end.

* `exists_entries_set`: the entries after a key was set.
* `donation_setAmount`: an amount that is set is read, and the amounts of other resources stay
  (`donation_setAmount_of_ne`).
* `parse_text`: what was read from a text is read again from its written form, and so are the amounts of an upgrade.
-/

namespace SessionBroker.Args

variable {a : Args} {key value : String} {r r' : Resource}

/-! ### Setting a key -/

theorem replaceFirst_cases (key value : String) (es : List (String × String)) :
    (replaceFirst key value es = none ∧ ∀ e ∈ es, e.1 ≠ key) ∨
      ∃ pre e post, es = pre ++ e :: post ∧ (∀ e ∈ pre, e.1 ≠ key) ∧
        replaceFirst key value es = some (pre ++ (key, value) :: post) := by
  induction es with
  | nil => exact .inl ⟨rfl, by simp⟩
  | cons e es ih =>
    by_cases he : e.1 = key
    · refine .inr ⟨[], e, es, rfl, by simp, ?_⟩
      simp [replaceFirst, he]
    · obtain ⟨hnone, hes⟩ | ⟨pre, e', post, rfl, hpre, hsome⟩ := ih
      · exact .inl ⟨by simp [replaceFirst, he, hnone], List.forall_mem_cons.2 ⟨he, hes⟩⟩
      · refine .inr ⟨e :: pre, e', post, rfl, List.forall_mem_cons.2 ⟨he, hpre⟩, ?_⟩
        simp [replaceFirst, he, hsome]

/-- A key that is set is the first of its name, and the other entries are as before. -/
theorem exists_entries_set (a : Args) (key value : String) : ∃ pre post,
    (a.set key value).entries = pre ++ (key, value) :: post ∧ (∀ e ∈ pre, e.1 ≠ key) ∧
      ∀ e ∈ pre ++ post, e ∈ a.entries := by
  unfold set
  obtain ⟨hnone, hne⟩ | ⟨pre, e, post, hes, hne, hsome⟩ := replaceFirst_cases key value a.entries
  · exact ⟨a.entries, [], by simp [hnone], hne, by simp⟩
  · refine ⟨pre, post, by simp [hsome], hne, ?_⟩
    intro e' he'
    rw [hes]
    exact (List.mem_append.1 he').elim (List.mem_append_left _) fun h => by simp [h]

theorem clean_set (ha : ∀ e ∈ a.entries, Clean e) (hnew : Clean (key, value)) :
    ∀ e ∈ (a.set key value).entries, Clean e := by
  obtain ⟨pre, post, hentries, -, hmem⟩ := exists_entries_set a key value
  rw [hentries]
  intro e he
  rcases List.mem_append.1 he with he | he
  · exact ha e (hmem e (List.mem_append_left _ he))
  · rcases List.mem_cons.1 he with rfl | he
    · exact hnew
    · exact ha e (hmem e (List.mem_append_right _ he))

theorem find?_replaceFirst {key key' value : String} (h : key' ≠ key) : ∀ {l l' : List (String × String)},
    replaceFirst key value l = some l' → (l'.find? fun e => e.1 == key') = l.find? fun e => e.1 == key'
  | [], _, hl => by cases hl
  | e :: rest, l', hl => by
    unfold replaceFirst at hl
    split at hl
    · rename_i he
      obtain rfl := Option.some.inj hl
      have hkey : e.1 = key := by simpa using he
      simp [hkey, Ne.symm h]
    · obtain ⟨rest', hrest, rfl⟩ := Option.map_eq_some_iff.1 hl
      simp only [List.find?_cons]
      rw [find?_replaceFirst h hrest]

/-- A key keeps its value when another key is set. -/
theorem get?_set_of_ne (a : Args) {key key' : String} (value : String) (h : key' ≠ key) :
    (a.set key value).get? key' = a.get? key' := by
  unfold get? raw? set
  cases hl : replaceFirst key value a.entries with
  | some l' => rw [Option.getD_some, find?_replaceFirst h hl]
  | none =>
    have hne : (key == key') = false := by simpa using Ne.symm h
    simp [List.find?_append, hne]

/-! ### Setting an amount -/

theorem quotaKey_chars (r : Resource) : (quotaKey r).toList ≠ [] ∧ ∀ c ∈ (quotaKey r).toList, isKeyChar c = true := by
  rw [← List.all_eq_true]
  cases r <;> decide

theorem clean_setAmount (ha : ∀ e ∈ a.entries, Clean e) (r : Resource) (w : Word) :
    ∀ e ∈ (a.setAmount (quotaKey r) w).entries, Clean e := by
  have hdigits : ∀ c ∈ Text.digits w.val, isKeyChar c = true :=
    fun _ hc => isKeyChar_of_isDigit (Text.isDigit_of_mem_digits hc)
  refine clean_set ha ⟨(quotaKey_chars r).1, (quotaKey_chars r).2, ?_, ?_⟩
  · rw [String.toList_ofList]
    exact trimmed_of_isKeyChar hdigits
  · rw [String.toList_ofList]
    exact unbroken_of_plain (plain_of_isKeyChar hdigits)

theorem quotaKey_injective (h : quotaKey r' = quotaKey r) : r' = r := by
  cases r <;> cases r' <;> first | rfl | exact absurd h (by decide)

theorem unquotes_digits (w : Word) : Unquotes (.ofList (Text.digits w.val)) (.ofList (Text.digits w.val)) := by
  refine .bare fun u hu => ?_
  have hquote : '"' ∈ Text.digits w.val := by
    rw [← String.toList_ofList (l := Text.digits w.val), hu, toList_quoted]
    exact List.mem_cons_self
  cases Text.isDigit_of_mem_digits hquote

/-- An amount that is written in digits is read back. -/
theorem donation_setAmount (a : Args) (r : Resource) (w : Word) : (a.setAmount (quotaKey r) w).donation r = .ok w := by
  obtain ⟨pre, post, hentries, hpre, -⟩ := exists_entries_set a (quotaKey r) (.ofList (Text.digits w.val))
  have hvalue : HasValue (a.setAmount (quotaKey r) w) (quotaKey r) (.ofList (Text.digits w.val)) :=
    ⟨_, ⟨pre, post, hentries, hpre⟩, unquotes_digits w⟩
  have hspells : Spells (String.ofList (Text.digits w.val)).toList w.val := by
    rw [String.toList_ofList]
    exact spells_digits w.val
  exact amount_eq_ok_iff.2 (.inr ⟨_, hvalue, hspells⟩)

theorem donation_setAmount_of_ne (a : Args) (w : Word) (h : r' ≠ r) :
    (a.setAmount (quotaKey r) w).donation r' = a.donation r' := by
  unfold donation amount setAmount
  rw [get?_set_of_ne _ _ fun hkey => h (quotaKey_injective hkey)]

/-! ### Reading back -/

theorem quota_upgrade (q : Quota) : (upgrade q).quota = .ok q := by
  have hram : (upgrade q).donation .ram = .ok q.ram := by
    unfold upgrade
    rw [donation_setAmount_of_ne _ _ (by decide), donation_setAmount]
  exact quota_eq_ok_iff.2 ⟨hram, donation_setAmount _ .caps q.caps⟩

theorem clean_upgrade (q : Quota) : ∀ e ∈ (upgrade q).entries, Clean e := by
  have hnone : ∀ e ∈ ({} : Args).entries, Clean e := by simp
  exact clean_setAmount (clean_setAmount hnone .ram q.ram) .caps q.caps

/-- What was read from a text is read again from its written form, with the same entries in the same order.  From the
written form of an upgrade, exactly its amounts are read. -/
theorem parse_text : (∀ text a, parse text = .ok a → parse a.text = .ok a) ∧
    ∀ q, parse (upgrade q).text = .ok (upgrade q) ∧ (upgrade q).quota = .ok q :=
  ⟨fun _ _ h => parse_text_of_clean (clean_of_parse h), fun q =>
    ⟨parse_text_of_clean (clean_upgrade q), quota_upgrade q⟩⟩

/-- A text with a comma and a sign in values, a key that stands twice, an empty value, quotes inside a value, blanks of
several kinds and pieces without an entry. -/
def spelledWidely : String := ",a==\t,b=\"x, y\",a=,, \u2003k_1 =\u00a0v\"w,\"\u2003z,"

theorem parse_text_spelledWidely : ∃ a, parse spelledWidely = .ok a ∧
    a.entries = [("a", "="), ("b", "\"x, y\""), ("a", ""), ("k_1", "v\"w,\"\u2003z")] ∧ parse a.text = .ok a := by
  have hread : parse spelledWidely = .ok ⟨[("a", "="), ("b", "\"x, y\""), ("a", ""), ("k_1", "v\"w,\"\u2003z")]⟩ := by
    decide +kernel
  exact ⟨_, hread, rfl, parse_text.1 _ _ hread⟩

end SessionBroker.Args
