import SessionBroker.Proofs.Assignments
import SessionBroker.Proofs.ParentRequests

/-!
# SessionBroker.Proofs.Relabelling — what a provider reads of a session that was relabelled

A provider is given the arguments of a session in writing.  A new label is put between quotes, and nothing in it is
escaped.

* `Label.Quotable`: a label that can stand between quotes: it has no comma outside its own pairs of quotes, where the
  quotes around it are counted too, and it closes what it opens.
* `Args.clean_setLabel`: arguments with such a label are read back as they are.
* `Args.quotable_of_label`: with any other label they are not read back, or under another label.
* `Session.relabel_reads`: what is read of a session before and after it is relabelled.
* `quota_forged`: a label that names another quota.
-/

namespace SessionBroker

/-- Whether a label can stand between quotes. -/
def Label.Quotable (l : Label) : Prop := Args.Unbroken true l.text.toList true

instance (l : Label) : Decidable l.Quotable := inferInstanceAs (Decidable (Args.Unbroken true l.text.toList true))

namespace Args

variable {a a' : Args} {l : Label} {key value : String} {xs : List Char}

/-! ### Labels between quotes -/

theorem unbroken_quoted (h : Unbroken true xs true) : Unbroken false ('"' :: (xs ++ ['"'])) false :=
  unbroken_cons_iff.2 ⟨by decide, h.append (by decide)⟩

theorem trimmed_quoted (xs : List Char) : Text.Trimmed ('"' :: (xs ++ ['"'])) := by
  constructor
  · simp
    decide
  · simp [List.getLast?_cons]
    decide

theorem labelKey_chars : labelKey.toList ≠ [] ∧ ∀ c ∈ labelKey.toList, isKeyChar c = true :=
  ⟨by decide, List.all_eq_true.1 (by decide)⟩

theorem label_setLabel (a : Args) (l : Label) : (a.setLabel l).label = l := by
  obtain ⟨pre, post, hentries, hpre, -⟩ := exists_entries_set a labelKey ("\"" ++ l.text ++ "\"")
  have hraw : (a.setLabel l).raw? labelKey = some ("\"" ++ l.text ++ "\"") :=
    raw?_eq_some_iff.2 ⟨pre, post, hentries, hpre⟩
  simp [label, get?, hraw, unquote_quoted]

/-- Arguments are as clean under a label that can stand between quotes. -/
theorem clean_setLabel (ha : ∀ e ∈ a.entries, Clean e) (hl : l.Quotable) : ∀ e ∈ (a.setLabel l).entries, Clean e := by
  refine clean_set ha ⟨labelKey_chars.1, labelKey_chars.2, ?_, ?_⟩
  · rw [toList_quoted]
    exact trimmed_quoted l.text.toList
  · rw [toList_quoted]
    exact unbroken_quoted hl

/-! ### Other labels -/

/-- What is read of a label that breaks at a comma is not the label. -/
theorem unquote_trim_ne (xs ys : List Char) :
    unquote (.ofList (Text.trim ('"' :: xs))) ≠ .ofList (xs ++ ',' :: ys) := by
  -- the opening quote is no blank, so only blanks at the end are dropped
  have hhead : ∀ c ∈ ('"' :: xs).head?, Text.isBlank c = false := by
    rintro c ⟨⟩
    decide
  obtain ⟨v, htext, hv⟩ := Text.exists_trim_append hhead
  generalize Text.trim ('"' :: xs) = w at htext ⊢
  have hstart : ∃ w', w = '"' :: w' ∧ xs = w' ++ v := by
    cases w with
    | nil =>
      have hquote : '"' ∈ v := by
        rw [show v = '"' :: xs from htext.symm]
        exact List.mem_cons_self
      exact absurd (hv '"' hquote) (by decide)
    | cons c w' =>
      obtain ⟨rfl, hxs⟩ := List.cons.inj htext
      exact ⟨w', rfl, hxs⟩
  obtain ⟨w', rfl, rfl⟩ := hstart
  intro heq
  have hchars := congrArg String.toList heq
  simp only [unquote, String.toList_ofList] at hchars
  split at hchars
  · have hlength := congrArg List.length hchars
    simp at hlength
    omega
  · -- the text is as long as the label only if the label is made of quotes
    rw [String.toList_ofList] at hchars
    have hlength := congrArg List.length hchars
    have hquotes := congrArg (List.count '"') hchars
    have hv' := List.count_le_length (a := '"') (l := v)
    have hys := List.count_le_length (a := '"') (l := ys)
    simp at hlength hquotes
    omega

/-- Behind an entry stands nothing, or a comma and the entries that follow. -/
theorem exists_entriesText_cons (e : String × String) (es : List (String × String)) (hes : ∀ e ∈ es, Clean e) :
    ∃ rest, entriesText (e :: es) = entryText e ++ rest ∧ (pieces false rest).2 = false := by
  cases es with
  | nil => exact ⟨[], by simp [entriesText], rfl⟩
  | cons e' es =>
    refine ⟨',' :: ' ' :: entriesText (e' :: es), rfl, ?_⟩
    have hread := (parse_eq_ok_iff.1 (parse_text_of_clean (a := ⟨e' :: es⟩) hes)).1
    rw [text, String.toList_ofList] at hread
    exact hread

theorem entryText_label (l : Label) :
    entryText (labelKey, "\"" ++ l.text ++ "\"") = labelKey.toList ++ ['=', '"'] ++ (l.text.toList ++ ['"']) := by
  rw [entryText, toList_quoted]
  simp

theorem unbroken_labelKey : Unbroken false (labelKey.toList ++ ['=', '"']) true := by decide

/-- If the text of a label breaks at a comma, the label that is read ends there. -/
theorem label_of_comma {pre : List (String × String)} {ys : List Char} (hpre : ∀ e ∈ pre, e.1 ≠ labelKey)
    (hxs : Unbroken true xs false)
    (h : (collect (pieces false (labelKey.toList ++ ['=', '"'] ++ xs ++ ',' :: ys)).1).map (pre ++ ·) =
      .ok a'.entries) : a'.label = ⟨unquote (.ofList (Text.trim ('"' :: xs)))⟩ := by
  have hentry : entry? (labelKey.toList ++ ['=', '"'] ++ xs) =
      .ok (some (labelKey, .ofList (Text.trim ('"' :: xs)))) := by
    have hread := entry?_of_key labelKey_chars.1 labelKey_chars.2 ('"' :: xs)
    rw [String.ofList_toList] at hread
    simpa using hread
  rw [pieces_append_comma (unbroken_labelKey.append hxs), collect_cons hentry] at h
  cases hothers : collect (pieces false ys).1 with
  | error e => rw [hothers] at h; cases h
  | ok es =>
    rw [hothers] at h
    have hraw := raw?_eq_some_iff.2 ⟨pre, es, (Except.ok.inj h).symm, hpre⟩
    simp [label, get?, hraw]

/-- Arguments with a label that cannot stand between quotes are not read back, or under another label. -/
theorem quotable_of_label (ha : ∀ e ∈ a.entries, Clean e) (h : parse (a.setLabel l).text = .ok a')
    (hl : a'.label = l) : l.Quotable := by
  obtain ⟨pre, post, hentries, hpre, hmem⟩ := exists_entries_set a labelKey ("\"" ++ l.text ++ "\"")
  have hpreClean : ∀ e ∈ pre, Clean e := fun e he => ha e (hmem e (List.mem_append_left _ he))
  have hpostClean : ∀ e ∈ post, Clean e := fun e he => ha e (hmem e (List.mem_append_right _ he))
  obtain ⟨hcollect, hend⟩ := collect_entriesText_append hpreClean (labelKey, "\"" ++ l.text ++ "\"") post
  obtain ⟨rest, htext, hrest⟩ := exists_entriesText_cons (labelKey, "\"" ++ l.text ++ "\"") post hpostClean
  obtain ⟨hread, hall⟩ := parse_eq_ok_iff.1 h
  rw [text, String.toList_ofList, setLabel, hentries] at hread hall
  rw [hend, htext, entryText_label] at hread
  rw [hcollect, htext, entryText_label] at hall
  obtain ⟨q', hwhole⟩ | ⟨xs, ys, hsplit, hfirst⟩ := unbroken_or_comma true l.text.toList
  · cases q' with
    | true => exact hwhole
    | false =>
      -- the quotes of the label do not close, so the text ends inside quotes
      exfalso
      have hquote : Unbroken false (labelKey.toList ++ ['=', '"'] ++ (l.text.toList ++ ['"'])) true :=
        unbroken_labelKey.append (hwhole.append (by decide))
      have hinside := snd_pieces_not false rest
      rw [snd_pieces_append, congrArg Prod.snd hquote] at hread
      rw [hrest] at hinside
      exact absurd (hread.symm.trans hinside) (by decide)
  · -- the text breaks inside the label
    exfalso
    have hbreak : labelKey.toList ++ ['=', '"'] ++ (l.text.toList ++ ['"']) ++ rest =
        labelKey.toList ++ ['=', '"'] ++ xs ++ ',' :: (ys ++ ['"'] ++ rest) := by
      rw [hsplit]
      simp
    rw [hbreak] at hall
    have hname := label_of_comma hpre hfirst hall
    apply unquote_trim_ne xs ys
    rw [← hsplit, String.ofList_toList, ← hl, hname]

end Args

/-! ### Sessions -/

theorem RuntimeConfig.clean_withDefaults (c : RuntimeConfig) {a : Args} (ha : ∀ e ∈ a.entries, Args.Clean e) :
    ∀ e ∈ (c.withDefaults a).entries, Args.Clean e := by
  have hone : ∀ (a : Args) (r : Resource), (∀ e ∈ a.entries, Args.Clean e) →
      ∀ e ∈ (if a.contains (Args.quotaKey r) || c.defaultQuota.get r == 0 then a
        else a.setAmount (Args.quotaKey r) (c.defaultQuota.get r)).entries, Args.Clean e := by
    intro a r ha
    split
    · exact ha
    · exact Args.clean_setAmount ha r _
  exact hone _ .caps (hone a .ram ha)

/-- The arguments of a new session are clean, and its label is the one that they name. -/
theorem RuntimeConfig.clean_newSession {c : RuntimeConfig} {service args : String} {affinity : Affinity} {s : Session}
    (h : c.newSession service args affinity = .ok s) : (∀ e ∈ s.args.entries, Args.Clean e) ∧ s.args.label = s.label := by
  unfold newSession Session.create at h
  split at h
  · cases h
  · rename_i a hparse
    split at h
    · cases h
    · obtain rfl := Except.ok.inj h
      exact ⟨c.clean_withDefaults (Args.clean_of_parse hparse), rfl⟩

/-- What a provider learns from a text: it can be read, and names a label and a quota. -/
def Tells (text : String) (l : Label) (q : Quota) : Prop :=
  ∃ a, Args.parse text = .ok a ∧ a.label = l ∧ a.quota = .ok q

namespace Session

variable {c : RuntimeConfig} {service args : String} {affinity : Affinity} {s : Session}

/-- What a new session tells its provider.  Under the label of its requester, it tells this label and the quota that was
reserved, and is read back as it is.  Under another label it does so exactly if the label can stand between quotes. -/
structure TellsAll (s : Session) : Prop where
  whole : Args.parse s.args.text = .ok s.args
  own : Tells s.args.text s.label s.resources
  relabelled : ∀ l, Tells (s.relabel l).args.text l s.resources ↔ l.Quotable
  wholeRelabelled : ∀ l, l.Quotable → Args.parse (s.relabel l).args.text = .ok (s.relabel l).args

theorem relabel_reads (h : c.newSession service args affinity = .ok s) : s.TellsAll := by
  obtain ⟨hclean, hlabel⟩ := RuntimeConfig.clean_newSession h
  have hquota := RuntimeConfig.quota_newSession h
  have hwhole : ∀ l, l.Quotable → Args.parse (s.relabel l).args.text = .ok (s.relabel l).args :=
    fun l hl => Args.parse_text_of_clean (Args.clean_setLabel hclean hl)
  have hself := Args.parse_text_of_clean hclean
  refine ⟨hself, ⟨s.args, hself, hlabel, hquota⟩, fun l => ?_, hwhole⟩
  constructor
  · rintro ⟨a, hread, hl, -⟩
    exact Args.quotable_of_label hclean hread hl
  · intro hl
    exact ⟨(s.relabel l).args, hwhole l hl, Args.label_setLabel s.args l, (Args.quota_setLabel s.args l).trans hquota⟩

/-- A session that is relabelled tells the new label, and all that was reserved. -/
theorem relabel_reads_sample : ∃ s, (default : RuntimeConfig).newSession "log" "label=\"x\", ram_quota=4K" {} = .ok s ∧
    s.TellsAll ∧ Tells (s.relabel ⟨"a, b"⟩).args.text ⟨"a, b"⟩ s.resources := by
  obtain ⟨s, hs⟩ : ∃ s, (default : RuntimeConfig).newSession "log" "label=\"x\", ram_quota=4K" {} = .ok s :=
    ⟨_, rfl⟩
  have htells := relabel_reads hs
  exact ⟨s, hs, htells, (htells.relabelled ⟨"a, b"⟩).2 (by decide)⟩

/-- A label that names another quota: the provider reads a label that nobody gave, and a quota that nobody reserved. -/
theorem quota_forged : ∃ s a, (default : RuntimeConfig).newSession "log" "label=\"x\", ram_quota=4K" {} = .ok s ∧
    s.resources = { ram := ⟨4096, by decide⟩ } ∧
    Args.parse (s.relabel ⟨"a\", ram_quota=1G, x=\""⟩).args.text = .ok a ∧ a.label = ⟨"a"⟩ ∧
    a.quota = .ok { ram := ⟨1073741824, by decide⟩ } :=
  ⟨_, _, rfl, by decide +kernel, rfl, by decide +kernel, by decide +kernel⟩

end Session

end SessionBroker
