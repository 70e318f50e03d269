import SessionBroker.Proofs.Hexadecimals
import SessionBroker.Uuid

/-!
# SessionBroker.Proofs.Identifiers — identifiers as texts

An identifier can be given in four forms, in either case, and is always written in one of them, in lower case and behind
the tag of its kind.

* `Uuid.Grouped ds cs`: text `cs` is digits `ds` in groups with a hyphen between two of them.
* `Uuid.Spells ds cs`: text `cs` is one of the four forms of digits `ds`.
* `ObjectId.FaithfulTexts`: texts and identifiers of a kind determine each other, up to the form.
-/

namespace SessionBroker

namespace Uuid

variable {ds ds' cs : List Char} {u : Uuid} {s : String}

/-! ### The forms of an identifier -/

/-- The digits of an identifier, in either case. -/
structure IsDigits (ds : List Char) : Prop where
  length : ds.length = 32
  chars : ∀ c ∈ ds, c ∈ Text.hexChars

/-- Digits in groups of 8, 4, 4, 4 and 12, with a hyphen between two groups. -/
def Grouped (ds cs : List Char) : Prop :=
  ∃ a b c d e : List Char, (a.length = 8 ∧ b.length = 4 ∧ c.length = 4 ∧ d.length = 4 ∧ e.length = 12) ∧
    ds = a ++ b ++ c ++ d ++ e ∧ cs = a ++ '-' :: b ++ '-' :: c ++ '-' :: d ++ '-' :: e

/-- The texts with some digits: the digits alone, or in groups, and then also in braces or behind the scheme, which may
be in either case. -/
inductive Spells (ds : List Char) : List Char → Prop
  | bare : Spells ds ds
  | grouped {cs : List Char} : Grouped ds cs → Spells ds cs
  | braced {cs : List Char} : Grouped ds cs → Spells ds ('\x7b' :: cs ++ ['\x7d'])
  | urn {scheme cs : List Char} :
      scheme.map Char.toLower = "urn:uuid:".toList → Grouped ds cs → Spells ds (scheme ++ cs)

theorem grouped_hyphenate (h : ds.length = 32) : Grouped ds (hyphenate ds) := by
  refine ⟨ds.take 8, (ds.drop 8).take 4, (ds.drop 12).take 4, (ds.drop 16).take 4, ds.drop 20, ?_, ?_, rfl⟩
  · simp only [List.length_take, List.length_drop]
    omega
  · rw [← List.take_add, ← List.take_add, ← List.take_add, List.take_append_drop]

theorem hyphenate_of_grouped (h : Grouped ds cs) : ds.length = 32 ∧ hyphenate ds = cs := by
  obtain ⟨a, b, c, d, e, ⟨ha, hb, hc, hd, he⟩, rfl, rfl⟩ := h
  refine ⟨by simp only [List.length_append]; omega, ?_⟩
  simp (disch := omega) [hyphenate, List.drop_append, List.drop_of_length_le, ha, hb, hc]

theorem length_of_grouped (h : Grouped ds cs) : cs.length = 36 := by
  obtain ⟨a, b, c, d, e, ⟨ha, hb, hc, hd, he⟩, -, rfl⟩ := h
  simp only [List.length_append, List.length_cons]
  omega

/-- The digits of a text in groups. -/
theorem unhyphenate?_eq_some_iff : unhyphenate? cs = some ds ↔ Grouped ds cs := by
  unfold unhyphenate?
  dsimp only
  constructor
  · intro h
    split at h
    · rename_i hgood
      obtain ⟨hlength, hcs⟩ := hgood
      have hds := Option.some.inj h
      have hcount := congrArg List.length hds
      simp only [List.length_append, List.length_take, List.length_drop] at hcount
      rw [hds] at hcs
      subst hcs
      exact grouped_hyphenate (by omega)
    · cases h
  · intro h
    have hcs := (hyphenate_of_grouped h).2
    have hlength := length_of_grouped h
    obtain ⟨a, b, c, d, e, ⟨ha, hb, hc, hd, he⟩, rfl, rfl⟩ := h
    have hdigits : ∀ l : List Char, l = a ++ '-' :: b ++ '-' :: c ++ '-' :: d ++ '-' :: e →
        l.take 8 ++ (l.drop 9).take 4 ++ (l.drop 14).take 4 ++ (l.drop 19).take 4 ++ l.drop 24 =
          a ++ b ++ c ++ d ++ e := by
      rintro l rfl
      simp (disch := omega) [List.drop_append, List.drop_of_length_le, ha, hb, hc, hd]
    rw [hdigits _ rfl, if_pos ⟨hlength, hcs⟩]

/-- A text with groups is that of one list of digits. -/
theorem Grouped.unique (h : Grouped ds cs) (h' : Grouped ds' cs) : ds = ds' :=
  Option.some.inj ((unhyphenate?_eq_some_iff.2 h).symm.trans (unhyphenate?_eq_some_iff.2 h'))

/-- A text that is read has one of the four forms. -/
theorem spells_of_bareDigits? (h : bareDigits? cs = some ds) : Spells ds cs := by
  unfold bareDigits? at h
  split at h
  · obtain rfl := Option.some.inj h
    exact .bare
  · split at h
    · rename_i hbraces
      obtain ⟨hlength, hfirst, hlast⟩ := hbraces
      obtain ⟨inner, rfl⟩ := List.getLast?_eq_some_iff.1 hlast
      cases inner with
      | nil => simp at hlength
      | cons c inner =>
        obtain rfl : c = '\x7b' := Option.some.inj hfirst
        rw [List.cons_append, List.drop_one, List.tail_cons, List.dropLast_concat] at h
        exact .braced (unhyphenate?_eq_some_iff.1 h)
    · split at h
      · rename_i hscheme
        rw [← List.take_append_drop 9 cs]
        exact .urn hscheme.2 (unhyphenate?_eq_some_iff.1 h)
      · exact .grouped (unhyphenate?_eq_some_iff.1 h)

/-- The four forms are told apart by their lengths. -/
theorem bareDigits?_of_spells (hds : ds.length = 32) (h : Spells ds cs) : bareDigits? cs = some ds := by
  unfold bareDigits?
  cases h with
  | bare => rw [if_pos hds]
  | grouped hcs =>
    have hlength := length_of_grouped hcs
    rw [if_neg (by omega), if_neg (by omega), if_neg (by omega), unhyphenate?_eq_some_iff.2 hcs]
  | @braced cs hcs =>
    have hlength : ('\x7b' :: cs ++ ['\x7d']).length = 38 := by simp [length_of_grouped hcs]
    rw [if_neg (by omega), if_pos ⟨hlength, rfl, List.getLast?_eq_some_iff.2 ⟨_, rfl⟩⟩, List.cons_append, List.drop_one,
      List.tail_cons, List.dropLast_concat, unhyphenate?_eq_some_iff.2 hcs]
  | @urn scheme cs hscheme hcs =>
    have hnine : scheme.length = 9 := by simpa using congrArg List.length hscheme
    have hlength : (scheme ++ cs).length = 45 := by simp [length_of_grouped hcs, hnine]
    rw [if_neg (by omega), if_neg (by omega), List.take_left' hnine, if_pos ⟨hlength, hscheme⟩, List.drop_left' hnine,
      unhyphenate?_eq_some_iff.2 hcs]

/-! ### Reading and writing -/

theorem bits_lt (u : Uuid) : u.bits.val < 16 ^ 32 := u.bits.isLt

/-- The digits that an identifier writes. -/
def digits (u : Uuid) : List Char := Text.hexDigits 32 u.bits.val

@[simp] theorem length_digits (u : Uuid) : u.digits.length = 32 := Text.length_hexDigits ..

theorem hexNumber?_digits (u : Uuid) : Text.hexNumber? u.digits = some u.bits.val := Text.hexNumber?_hexDigits u.bits_lt

theorem toList_text (u : Uuid) : u.text.toList = hyphenate u.digits := String.toList_ofList

theorem isDigits_digits (u : Uuid) : IsDigits u.digits where
  length := u.length_digits
  chars := Text.exists_hexNumber?_iff.1 ⟨_, u.hexNumber?_digits⟩

theorem map_toLower_digits (u : Uuid) : u.digits.map Char.toLower = u.digits := by
  have hlower := (Text.hexDigits_of_hexNumber? u.hexNumber?_digits).2
  rw [length_digits] at hlower
  exact hlower.symm

theorem grouped_digits (u : Uuid) : Grouped u.digits (hyphenate u.digits) := grouped_hyphenate u.length_digits

/-- Digits are those of one identifier, which writes them in lower case. -/
theorem exists_ofDigits? (h : IsDigits ds) : ∃ u, ofDigits? ds = some u ∧ u.digits = ds.map Char.toLower := by
  obtain ⟨v, hv⟩ := Text.exists_hexNumber?_iff.2 h.chars
  obtain ⟨hbound, hlower⟩ := Text.hexDigits_of_hexNumber? hv
  rw [h.length] at hbound hlower
  have hbits : (ofNat v).bits.val = v := Nat.mod_eq_of_lt hbound
  refine ⟨ofNat v, ?_, ?_⟩
  · rw [ofDigits?, if_pos h.length, hv, Option.map_some]
  · rw [digits, hbits, hlower]

theorem digits_injective {u u' : Uuid} (h : u.digits = u'.digits) : u = u' := by
  have hbits := u.hexNumber?_digits
  rw [h, hexNumber?_digits] at hbits
  exact Uuid.ext (Fin.ext (Option.some.inj hbits).symm)

theorem ofDigits?_eq_some_iff : ofDigits? ds = some u ↔ IsDigits ds ∧ u.digits = ds.map Char.toLower := by
  constructor
  · intro h
    have hds : IsDigits ds := by
      unfold ofDigits? at h
      split at h
      · rename_i hlength
        obtain ⟨v, hv, -⟩ := Option.map_eq_some_iff.1 h
        exact ⟨hlength, Text.exists_hexNumber?_iff.1 ⟨v, hv⟩⟩
      · cases h
    -- the identifier of these digits is the one that was made
    obtain ⟨u', hu', hdigits⟩ := exists_ofDigits? hds
    obtain rfl := Option.some.inj (h.symm.trans hu')
    exact ⟨hds, hdigits⟩
  · rintro ⟨hds, hdigits⟩
    obtain ⟨u', hu', hdigits'⟩ := exists_ofDigits? hds
    rw [hu', digits_injective (hdigits'.trans hdigits.symm)]

/-- A text is read exactly if it is one of the four forms of some digits, and then these are what the identifier
writes, in lower case. -/
theorem parse?_eq_some_iff :
    parse? s = some u ↔ ∃ ds, IsDigits ds ∧ Spells ds s.toList ∧ u.digits = ds.map Char.toLower := by
  unfold parse?
  rw [Option.bind_eq_bind, Option.bind_eq_some_iff]
  constructor
  · rintro ⟨ds, hbare, hu⟩
    obtain ⟨hds, hdigits⟩ := ofDigits?_eq_some_iff.1 hu
    exact ⟨ds, hds, spells_of_bareDigits? hbare, hdigits⟩
  · rintro ⟨ds, hds, hspells, hdigits⟩
    exact ⟨ds, bareDigits?_of_spells hds.length hspells, ofDigits?_eq_some_iff.2 ⟨hds, hdigits⟩⟩

/-! ### Order -/

/-- The hyphens stand at the same places in all texts in groups. -/
theorem compare_of_grouped {cs' : List Char} (h : Grouped ds cs) (h' : Grouped ds' cs') :
    compare cs cs' = compare ds ds' := by
  obtain ⟨a, b, c, d, e, ⟨ha, hb, hc, hd, -⟩, rfl, rfl⟩ := h
  obtain ⟨a', b', c', d', e', ⟨ha', hb', hc', hd', -⟩, rfl, rfl⟩ := h'
  have hhyphen : ∀ xs ys : List Char, compare ('-' :: xs) ('-' :: ys) = compare xs ys :=
    Text.compare_append_left ['-']
  -- group by group: each is as long in the one text as in the other
  simp (disch := simp [*]) only [Text.compare_append, hhyphen]

end Uuid

/-! ### The tag of a kind -/

/-- What the texts of a kind begin with. -/
def ObjectKind.lead (kind : ObjectKind) : List Char := kind.tag.toList ++ [':']

theorem ObjectKind.toList_lead (kind : ObjectKind) : (kind.tag ++ ":").toList = kind.lead := String.toList_append

/-- No text begins with the leads of two kinds. -/
theorem ObjectKind.lead_unique {k k' : ObjectKind} {cs : List Char} (h : k.lead <+: cs) (h' : k'.lead <+: cs) :
    k = k' := by
  have hapart : ∀ k k' : ObjectKind, k.lead <+: k'.lead → k = k' := by
    intro k k'
    cases k <;> cases k' <;> decide
  rcases List.prefix_or_prefix_of_prefix h h' with hle | hle
  · exact hapart k k' hle
  · exact (hapart k' k hle).symm

namespace ObjectId

variable {kind : ObjectKind} {s : String} {i : ObjectId kind} {ds rest : List Char}

theorem toList_text (i : ObjectId kind) : i.text.toList = kind.lead ++ Uuid.hyphenate i.uuid.digits := by
  rw [text, String.toList_append, kind.toList_lead, Uuid.toList_text]

theorem parse_of_lead (h : s.toList = kind.lead ++ rest) :
    parse kind s = (Uuid.parse? (.ofList rest)).elim (.error (.invalidUuid s)) fun u => .ok ⟨u⟩ := by
  have hprefix : kind.lead.isPrefixOf (kind.lead ++ rest) = true :=
    List.isPrefixOf_iff_prefix.2 (List.prefix_append ..)
  unfold parse
  dsimp only
  rw [kind.toList_lead, h, if_pos hprefix, List.drop_left]
  cases Uuid.parse? (.ofList rest) <;> rfl

theorem parse_of_no_lead (h : ¬ kind.lead <+: s.toList) : parse kind s = .error (.wrongTag kind.tag s) := by
  unfold parse
  rw [kind.toList_lead, if_neg (mt List.isPrefixOf_iff_prefix.1 h)]

theorem parse_eq_ok_iff :
    parse kind s = .ok i ↔ ∃ rest, s.toList = kind.lead ++ rest ∧ Uuid.parse? (.ofList rest) = some i.uuid := by
  constructor
  · intro h
    by_cases hlead : kind.lead <+: s.toList
    · obtain ⟨rest, hs⟩ := hlead
      rw [parse_of_lead hs.symm] at h
      cases hu : Uuid.parse? (.ofList rest) with
      | none => rw [hu] at h; cases h
      | some u =>
        rw [hu] at h
        obtain rfl := Except.ok.inj h
        exact ⟨rest, hs.symm, hu⟩
    · rw [parse_of_no_lead hlead] at h
      cases h
  · rintro ⟨rest, hs, hu⟩
    rw [parse_of_lead hs, hu, Option.elim_some]

/-- Text `cs` is the tag of a kind, a colon and one of the forms of digits `ds`. -/
def Names (kind : ObjectKind) (ds cs : List Char) : Prop :=
  ∃ rest, cs = kind.lead ++ rest ∧ Uuid.Spells ds rest

/-- Text `cs` is the tag of a kind, a colon and digits `ds` in lower case and in groups. -/
def Writes (kind : ObjectKind) (ds cs : List Char) : Prop :=
  ∃ rest, cs = kind.lead ++ rest ∧ Uuid.Grouped (ds.map Char.toLower) rest

theorem writes_text_iff : Writes kind ds i.text.toList ↔ i.uuid.digits = ds.map Char.toLower := by
  unfold Writes
  rw [toList_text]
  constructor
  · rintro ⟨rest, hrest, hds⟩
    obtain rfl := List.append_cancel_left hrest
    exact i.uuid.grouped_digits.unique hds
  · intro h
    exact ⟨_, rfl, h ▸ i.uuid.grouped_digits⟩

/-- What is read in one of the forms is written in lower case and in groups. -/
theorem parse_eq_ok_iff_names :
    parse kind s = .ok i ↔ ∃ ds, Uuid.IsDigits ds ∧ Names kind ds s.toList ∧ Writes kind ds i.text.toList := by
  rw [parse_eq_ok_iff]
  simp only [Uuid.parse?_eq_some_iff, writes_text_iff, String.toList_ofList, Names]
  constructor
  · rintro ⟨rest, hs, ds, hds, hspells, hdigits⟩
    exact ⟨ds, hds, ⟨rest, hs, hspells⟩, hdigits⟩
  · rintro ⟨ds, hds, ⟨rest, hs, hspells⟩, hdigits⟩
    exact ⟨rest, hs, ds, hds, hspells, hdigits⟩

/-- All forms of all digits are read. -/
theorem exists_parse_iff :
    (∃ i : ObjectId kind, parse kind s = .ok i) ↔ ∃ ds, Uuid.IsDigits ds ∧ Names kind ds s.toList := by
  constructor
  · rintro ⟨i, h⟩
    obtain ⟨ds, hds, hnames, -⟩ := parse_eq_ok_iff_names.1 h
    exact ⟨ds, hds, hnames⟩
  · rintro ⟨ds, hds, hnames⟩
    obtain ⟨u, -, hdigits⟩ := Uuid.exists_ofDigits? hds
    exact ⟨⟨u⟩, parse_eq_ok_iff_names.2 ⟨ds, hds, hnames, writes_text_iff.2 hdigits⟩⟩

theorem parse_own_text (i : ObjectId kind) : parse kind i.text = .ok i := by
  have hnames : Names kind i.uuid.digits i.text.toList := ⟨_, toList_text i, .grouped i.uuid.grouped_digits⟩
  have hwrites : Writes kind i.uuid.digits i.text.toList := writes_text_iff.2 i.uuid.map_toLower_digits.symm
  exact parse_eq_ok_iff_names.2 ⟨_, i.uuid.isDigits_digits, hnames, hwrites⟩

/-- Texts and identifiers of a kind determine each other, up to the form of the text. -/
structure FaithfulTexts (kind : ObjectKind) : Prop where
  /-- A text that was written is read back. -/
  readBack : ∀ i : ObjectId kind, parse kind i.text = .ok i
  /-- The texts that are read are those with the tag and one of the forms of an identifier, whatever the case of its
  digits. -/
  accepts : ∀ s, (∃ i : ObjectId kind, parse kind s = .ok i) ↔ ∃ ds, Uuid.IsDigits ds ∧ Names kind ds s.toList
  /-- What is read is written with the same digits, in lower case and in groups. -/
  reads : ∀ (s : String) (i : ObjectId kind),
    parse kind s = .ok i ↔ ∃ ds, Uuid.IsDigits ds ∧ Names kind ds s.toList ∧ Writes kind ds i.text.toList
  /-- A text that is read by one kind has the wrong tag for each other. -/
  apart : ∀ (s : String) (i : ObjectId kind) (kind' : ObjectKind),
    parse kind s = .ok i → kind' ≠ kind → parse kind' s = .error (.wrongTag kind'.tag s)
  /-- Identifiers are in the order of their texts. -/
  ordered : ∀ i j : ObjectId kind, compare i j = compare i.text.toList j.text.toList

/-- Whatever the form and the case of a text that is read, the identifier is written in one form, and this is read back.
No other kind reads the text, and identifiers are in the order of what they write. -/
theorem faithful_texts (kind : ObjectKind) : FaithfulTexts kind where
  readBack := parse_own_text
  accepts _ := exists_parse_iff
  reads _ _ := parse_eq_ok_iff_names
  apart s i kind' h hne := by
    obtain ⟨rest, hs, -⟩ := parse_eq_ok_iff.1 h
    have hlead : kind.lead <+: s.toList := hs ▸ List.prefix_append ..
    exact parse_of_no_lead fun hlead' => hne (ObjectKind.lead_unique hlead' hlead)
  ordered i j := by
    have hgroups := Uuid.compare_of_grouped i.uuid.grouped_digits j.uuid.grouped_digits
    have hdigits : compare i.uuid.digits j.uuid.digits = compare i.uuid.bits.val j.uuid.bits.val :=
      Text.compare_hexDigits i.uuid.bits_lt j.uuid.bits_lt
    rw [toList_text, toList_text, Text.compare_append_left, hgroups, hdigits]
    rfl

example : (parse .cap "cap:\x7b550E8400-E29B-41D4-A716-446655440000\x7d").map text =
    .ok "cap:550e8400-e29b-41d4-a716-446655440000" := by decide +kernel

end ObjectId

end SessionBroker
