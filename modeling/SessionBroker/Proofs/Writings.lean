import Mathlib.Data.List.TakeWhile
import SessionBroker.Args.Parser

/-!
# SessionBroker.Proofs.Writings — arguments that are written and read back

A text is cut at the commas outside quotes, and each piece is trimmed, as are the key and the value in it.  So an entry
that was read has a value without blanks at its ends, and with no comma outside its own pairs of quotes; and an entry of
that form is read back from what is written for it.

* `Text.Trimmed`: a text without blanks at its ends.
* `Args.Unbroken q cs q'`: a text without a comma outside quotes; `q` and `q'` tell whether its two ends are inside.
* `Args.Clean`: entries of the form above.  Arguments that were read are clean (`clean_of_parse`), and clean arguments
  are read back (`parse_text_of_clean`).
* `collect_entriesText_append`: clean entries are read off the front of a text, whatever comes behind them.
-/

namespace SessionBroker

namespace Text

/-- A text without blanks at its ends. -/
structure Trimmed (cs : List Char) : Prop where
  head : ∀ c ∈ cs.head?, isBlank c = false
  last : ∀ c ∈ cs.getLast?, isBlank c = false

/-- What `dropWhile` leaves begins with something that it does not drop. -/
theorem head_dropWhile {p : Char → Bool} {cs : List Char} {c : Char} (h : c ∈ (cs.dropWhile p).head?) : p c = false := by
  have hhead := List.head?_dropWhile_not p cs
  rw [Option.mem_def.1 h] at hhead
  simpa using hhead

theorem trimmed_trim (cs : List Char) : Trimmed (trim cs) where
  head c hc := by
    obtain ⟨v, hv⟩ : trim cs <+: trimStart cs := by
      unfold trim trimEnd
      rw [← List.reverse_suffix, List.reverse_reverse]
      exact List.dropWhile_suffix isBlank
    suffices c ∈ (trimStart cs).head? from head_dropWhile this
    rw [← hv]
    cases htrim : trim cs with
    | nil => rw [htrim] at hc; cases hc
    | cons d ds => rw [htrim] at hc; exact hc
  last c hc := by
    unfold trim trimEnd at hc
    rw [List.getLast?_reverse] at hc
    exact head_dropWhile hc

/-- Blanks are dropped before a text that does not begin with one. -/
theorem dropWhile_blanks {u cs : List Char} (hu : ∀ c ∈ u, isBlank c = true) (hcs : ∀ c ∈ cs.head?, isBlank c = false) :
    (u ++ cs).dropWhile isBlank = cs := by
  rw [List.dropWhile_append_of_pos hu]
  cases cs with
  | nil => rfl
  | cons c cs => exact List.dropWhile_cons_of_neg (by simpa using hcs c rfl)

/-- A text is found again between blanks. -/
theorem trim_surround {u t v : List Char} (hu : ∀ c ∈ u, isBlank c = true) (ht : Trimmed t)
    (hv : ∀ c ∈ v, isBlank c = true) : trim (u ++ t ++ v) = t := by
  have hend : trimEnd (t ++ v) = t := by
    unfold trimEnd
    rw [List.reverse_append, dropWhile_blanks, List.reverse_reverse]
    · exact fun c hc => hv c (List.mem_reverse.1 hc)
    · rw [List.head?_reverse]
      exact ht.last
  cases t with
  | nil =>
    have hblank : trimStart (u ++ v) = [] := by
      apply List.dropWhile_eq_nil_iff.2
      intro c hc
      exact (List.mem_append.1 hc).elim (hu c) (hv c)
    rw [List.append_nil, trim, hblank]
    rfl
  | cons c t =>
    have hstart : trimStart (u ++ (c :: t ++ v)) = c :: t ++ v := dropWhile_blanks hu ht.head
    rw [List.append_assoc, trim, hstart]
    exact hend

theorem trim_of_trimmed {t : List Char} (ht : Trimmed t) : trim t = t := by
  simpa using trim_surround (u := []) (v := []) (by simp) ht (by simp)

/-- A text is its trimmed form between blanks. -/
theorem exists_surround (cs : List Char) :
    ∃ u v, cs = u ++ trim cs ++ v ∧ (∀ c ∈ u, isBlank c = true) ∧ ∀ c ∈ v, isBlank c = true := by
  have hend := congrArg List.reverse (List.takeWhile_append_dropWhile (p := isBlank) (l := (trimStart cs).reverse))
  rw [List.reverse_append, List.reverse_reverse] at hend
  refine ⟨cs.takeWhile isBlank, ((trimStart cs).reverse.takeWhile isBlank).reverse, ?_, ?_, ?_⟩
  · rw [List.append_assoc]
    show cs = _ ++ (((trimStart cs).reverse.dropWhile isBlank).reverse ++ _)
    rw [hend]
    exact List.takeWhile_append_dropWhile.symm
  · exact fun c hc => List.mem_takeWhile_imp hc
  · exact fun c hc => List.mem_takeWhile_imp (List.mem_reverse.1 hc)

/-- Of a text that does not begin with a blank, only blanks at its end are trimmed. -/
theorem exists_trim_append {cs : List Char} (h : ∀ c ∈ cs.head?, isBlank c = false) :
    ∃ v, cs = trim cs ++ v ∧ ∀ c ∈ v, isBlank c = true := by
  obtain ⟨u, v, hsplit, hu, hv⟩ := exists_surround cs
  cases u with
  | nil => exact ⟨v, hsplit, hv⟩
  | cons b u =>
    have hb : isBlank b = false := by
      apply h
      rw [hsplit]
      rfl
    cases hb.symm.trans (hu b List.mem_cons_self)

/-- Blanks around a text are dropped with those at its ends. -/
theorem trim_between {u v : List Char} (hu : ∀ c ∈ u, isBlank c = true) (cs : List Char)
    (hv : ∀ c ∈ v, isBlank c = true) : trim (u ++ cs ++ v) = trim cs := by
  obtain ⟨u', v', hsplit, hu', hv'⟩ := exists_surround cs
  have hwhole : u ++ cs ++ v = (u ++ u') ++ trim cs ++ (v' ++ v) :=
    calc
      u ++ cs ++ v = u ++ (u' ++ trim cs ++ v') ++ v := by rw [← hsplit]
      _ = _ := by simp
  rw [hwhole, trim_surround (List.forall_mem_append.2 ⟨hu, hu'⟩) (trimmed_trim cs) (List.forall_mem_append.2 ⟨hv', hv⟩)]

theorem trim_eq_nil_iff {cs : List Char} : trim cs = [] ↔ ∀ c ∈ cs, isBlank c = true := by
  constructor
  · intro h
    obtain ⟨u, v, hsplit, hu, hv⟩ := exists_surround cs
    rw [h, List.append_nil] at hsplit
    rw [hsplit]
    exact List.forall_mem_append.2 ⟨hu, hv⟩
  · intro h
    simpa using trim_surround (t := []) h ⟨by simp, by simp⟩ (v := []) (by simp)

/-- A text is broken at the first occurrence of the separator. -/
theorem breakAt?_eq_some_iff {sep : Char} {cs xs ys : List Char} :
    breakAt? sep cs = some (xs, ys) ↔ cs = xs ++ sep :: ys ∧ sep ∉ xs := by
  induction cs generalizing xs ys with
  | nil => simp [breakAt?]
  | cons c cs ih =>
    rw [breakAt?]
    by_cases hsep : c = sep
    · subst hsep
      cases xs with
      | nil => simp
      | cons x xs =>
        rw [if_pos rfl, List.cons_append, List.cons.injEq]
        refine iff_of_false (by simp) ?_
        rintro ⟨⟨rfl, -⟩, hmem⟩
        exact hmem List.mem_cons_self
    · rw [if_neg hsep, Option.map_eq_some_iff]
      cases xs with
      | nil => simp [hsep]
      | cons x xs =>
        simp only [Prod.exists, Prod.mk.injEq, List.cons.injEq, ih, List.cons_append, List.mem_cons, not_or]
        constructor
        · rintro ⟨xs', ys', ⟨rfl, hmem⟩, ⟨rfl, rfl⟩, rfl⟩
          exact ⟨⟨rfl, rfl⟩, Ne.symm hsep, hmem⟩
        · rintro ⟨⟨rfl, rfl⟩, -, hmem⟩
          exact ⟨xs, ys, ⟨rfl, hmem⟩, ⟨rfl, rfl⟩, rfl⟩

theorem breakAt?_eq_none_iff {sep : Char} {cs : List Char} : breakAt? sep cs = none ↔ sep ∉ cs := by
  induction cs with
  | nil => simp [breakAt?]
  | cons c cs ih =>
    rw [breakAt?, List.mem_cons, not_or]
    by_cases hsep : c = sep
    · simp [hsep]
    · simp [hsep, ih, Ne.symm hsep]

end Text

namespace Args

/-! ### Texts in pieces -/

theorem pieces_ne_nil (q : Bool) (cs : List Char) : (pieces q cs).1 ≠ [] := by
  cases cs with
  | nil => simp [pieces]
  | cons c cs =>
    unfold pieces
    split
    · simp
    · dsimp only
      unfold extend
      split <;> simp

/-- A text without a comma outside quotes, that begins inside quotes if `q` and ends inside quotes if `q'`. -/
def Unbroken (q : Bool) (cs : List Char) (q' : Bool) : Prop := pieces q cs = ([cs], q')

instance (q : Bool) (cs : List Char) (q' : Bool) : Decidable (Unbroken q cs q') :=
  inferInstanceAs (Decidable (_ = _))

variable {q q' q'' : Bool} {c : Char} {cs xs ys : List Char}

theorem unbroken_nil (q : Bool) : Unbroken q [] q := rfl

theorem pieces_cons (h : ¬(c = ',' ∧ q = false)) (cs : List Char) :
    pieces q (c :: cs) = (extend c (pieces (q ^^ (c == '"')) cs).1, (pieces (q ^^ (c == '"')) cs).2) := by
  rw [pieces, if_neg h]

theorem unbroken_cons_iff :
    Unbroken q (c :: cs) q' ↔ ¬(c = ',' ∧ q = false) ∧ Unbroken (q ^^ (c == '"')) cs q' := by
  by_cases hcomma : c = ',' ∧ q = false
  · refine iff_of_false ?_ fun h => h.1 hcomma
    unfold Unbroken pieces
    rw [if_pos hcomma]
    simp
  · rw [Unbroken, pieces_cons hcomma, Unbroken]
    cases hps : pieces (q ^^ (c == '"')) cs with
    | mk ps last =>
      have hne := pieces_ne_nil (q ^^ (c == '"')) cs
      rw [hps] at hne
      cases ps with
      | nil => exact absurd rfl hne
      | cons p ps => simp [extend, hcomma]

/-- A text is unbroken if its two parts are. -/
theorem unbroken_append_iff : Unbroken q (xs ++ ys) q'' ↔ ∃ q', Unbroken q xs q' ∧ Unbroken q' ys q'' := by
  induction xs generalizing q with
  | nil =>
    constructor
    · exact fun h => ⟨q, unbroken_nil q, h⟩
    · rintro ⟨q', hx, hy⟩
      obtain rfl : q = q' := congrArg Prod.snd hx
      exact hy
  | cons x xs ih => simp only [List.cons_append, unbroken_cons_iff, ih, and_assoc, exists_and_left]

theorem Unbroken.append (hx : Unbroken q xs q') (hy : Unbroken q' ys q'') : Unbroken q (xs ++ ys) q'' :=
  unbroken_append_iff.2 ⟨q', hx, hy⟩

/-- A text without quotes and commas. -/
def Plain (cs : List Char) : Prop := ∀ c ∈ cs, c ≠ '"' ∧ c ≠ ','

theorem Plain.append (hx : Plain xs) (hy : Plain ys) : Plain (xs ++ ys) := by
  intro c hc
  exact (List.mem_append.1 hc).elim (hx c) (hy c)

theorem unbroken_of_plain (h : Plain cs) : Unbroken q cs q := by
  induction cs with
  | nil => exact unbroken_nil q
  | cons c cs ih =>
    obtain ⟨hquote, hcomma⟩ := h c List.mem_cons_self
    have hsame : (q ^^ (c == '"')) = q := by rw [beq_false_of_ne hquote, Bool.xor_false]
    rw [unbroken_cons_iff, hsame]
    exact ⟨fun hc => hcomma hc.1, ih fun d hd => h d (List.mem_cons_of_mem c hd)⟩

theorem unbroken_plain_append_iff (h : Plain xs) : Unbroken q (xs ++ ys) q' ↔ Unbroken q ys q' := by
  rw [unbroken_append_iff]
  constructor
  · rintro ⟨r, hx, hy⟩
    obtain rfl : r = q := congrArg Prod.snd (hx.symm.trans (unbroken_of_plain h))
    exact hy
  · exact fun hy => ⟨q, unbroken_of_plain h, hy⟩

theorem unbroken_append_plain_iff (h : Plain ys) : Unbroken q (xs ++ ys) q' ↔ Unbroken q xs q' := by
  rw [unbroken_append_iff]
  constructor
  · rintro ⟨r, hx, hy⟩
    obtain rfl : q' = r := congrArg Prod.snd (hy.symm.trans (unbroken_of_plain h))
    exact hx
  · exact fun hx => ⟨q', hx, unbroken_of_plain h⟩

/-- An unbroken text in front of a comma outside quotes is a piece. -/
theorem pieces_append_comma (h : Unbroken q xs false) (ys : List Char) :
    pieces q (xs ++ ',' :: ys) = (xs :: (pieces false ys).1, (pieces false ys).2) := by
  induction xs generalizing q with
  | nil =>
    obtain rfl : q = false := congrArg Prod.snd h
    rfl
  | cons x xs ih =>
    obtain ⟨hcomma, hrest⟩ := unbroken_cons_iff.1 h
    rw [List.cons_append, pieces_cons hcomma, ih hrest]
    rfl

/-- A text without a comma outside quotes is unbroken, and any other one breaks at its first comma. -/
theorem unbroken_or_comma (q : Bool) (cs : List Char) :
    (∃ q', Unbroken q cs q') ∨ ∃ xs ys, cs = xs ++ ',' :: ys ∧ Unbroken q xs false := by
  induction cs generalizing q with
  | nil => exact .inl ⟨q, unbroken_nil q⟩
  | cons c cs ih =>
    by_cases hcomma : c = ',' ∧ q = false
    · obtain ⟨rfl, rfl⟩ := hcomma
      exact .inr ⟨[], cs, rfl, unbroken_nil false⟩
    · obtain ⟨q', h⟩ | ⟨xs, ys, rfl, h⟩ := ih (q ^^ (c == '"'))
      · exact .inl ⟨q', unbroken_cons_iff.2 ⟨hcomma, h⟩⟩
      · exact .inr ⟨c :: xs, ys, rfl, unbroken_cons_iff.2 ⟨hcomma, h⟩⟩

/-- The pieces of a text that ends outside quotes are unbroken. -/
theorem unbroken_of_pieces {p : List Char} {ps : List (List Char)} (h : pieces q cs = (p :: ps, false)) :
    Unbroken q p false ∧ ∀ p' ∈ ps, Unbroken false p' false := by
  induction cs generalizing q p ps with
  | nil =>
    obtain ⟨hp, rfl⟩ := Prod.mk.inj h
    obtain ⟨rfl, rfl⟩ := List.cons.inj hp
    exact ⟨unbroken_nil false, by simp⟩
  | cons c cs ih =>
    by_cases hcomma : c = ',' ∧ q = false
    · obtain ⟨rfl, rfl⟩ := hcomma
      rw [pieces, if_pos ⟨rfl, rfl⟩] at h
      obtain ⟨hp, hlast⟩ := Prod.mk.inj h
      obtain ⟨rfl, hps⟩ := List.cons.inj hp
      cases ps with
      | nil => exact absurd hps (pieces_ne_nil false cs)
      | cons p ps =>
        obtain ⟨hfirst, hrest⟩ := ih (Prod.ext hps hlast)
        exact ⟨unbroken_nil false, List.forall_mem_cons.2 ⟨hfirst, hrest⟩⟩
    · rw [pieces_cons hcomma] at h
      obtain ⟨hp, hlast⟩ := Prod.mk.inj h
      cases hpieces : (pieces (q ^^ (c == '"')) cs).1 with
      | nil => exact absurd hpieces (pieces_ne_nil _ _)
      | cons p' ps' =>
        rw [hpieces] at hp
        obtain ⟨rfl, rfl⟩ := List.cons.inj hp
        obtain ⟨hfirst, hrest⟩ := ih (Prod.ext hpieces hlast)
        exact ⟨unbroken_cons_iff.2 ⟨hcomma, hfirst⟩, hrest⟩

/-! ### Where a text ends -/

theorem snd_pieces_cons (q : Bool) (c : Char) (cs : List Char) :
    (pieces q (c :: cs)).2 = (pieces (q ^^ (c == '"')) cs).2 := by
  by_cases hcomma : c = ',' ∧ q = false
  · obtain ⟨rfl, rfl⟩ := hcomma
    rfl
  · rw [pieces_cons hcomma]

/-- A text that begins on the other side of the quotes ends on the other side. -/
theorem snd_pieces_not (q : Bool) (cs : List Char) : (pieces (!q) cs).2 = !(pieces q cs).2 := by
  induction cs generalizing q with
  | nil => rfl
  | cons c cs ih =>
    rw [snd_pieces_cons, snd_pieces_cons, ← ih]
    congr 2
    cases q <;> cases c == '"' <;> rfl

theorem snd_pieces_append (q : Bool) (xs ys : List Char) :
    (pieces q (xs ++ ys)).2 = (pieces (pieces q xs).2 ys).2 := by
  induction xs generalizing q with
  | nil => rfl
  | cons x xs ih => rw [List.cons_append, snd_pieces_cons, snd_pieces_cons, ih]

/-! ### Entries -/

/-- The characters of a key are digits, letters and the underscore. -/
theorem isKeyChar_cases (h : isKeyChar c = true) : (48 ≤ c.toNat ∧ c.toNat ≤ 57) ∨ (65 ≤ c.toNat ∧ c.toNat ≤ 90) ∨
    (97 ≤ c.toNat ∧ c.toNat ≤ 122) ∨ c.toNat = 95 := by
  rcases Bool.or_eq_true_iff.1 h with halphanum | hunderscore
  · rcases Bool.or_eq_true_iff.1 halphanum with halpha | hdigit
    · rcases Bool.or_eq_true_iff.1 halpha with hupper | hlower
      · exact .inr (.inl (of_decide_eq_true hupper))
      · obtain ⟨hfirst, hlast⟩ := Bool.and_eq_true_iff.1 hlower
        exact .inr (.inr (.inl ⟨of_decide_eq_true hfirst, of_decide_eq_true hlast⟩))
    · obtain ⟨hfirst, hlast⟩ := Bool.and_eq_true_iff.1 hdigit
      exact .inl ⟨of_decide_eq_true hfirst, of_decide_eq_true hlast⟩
  · obtain rfl := beq_iff_eq.1 hunderscore
    exact .inr (.inr (.inr rfl))

theorem isKeyChar_of_isDigit (h : c.isDigit = true) : isKeyChar c = true := by
  simp [isKeyChar, Char.isAlphanum, h]

theorem not_isBlank_of_isKeyChar (h : isKeyChar c = true) : Text.isBlank c = false := by
  have hrange := isKeyChar_cases h
  simp only [Text.isBlank, Text.blankRanges, List.any_eq_false, List.mem_cons, List.not_mem_nil, or_false,
    Bool.and_eq_true, decide_eq_true_eq]
  intro r hr
  rcases hr with rfl | rfl | rfl | rfl | rfl | rfl | rfl | rfl | rfl | rfl <;> omega

theorem plain_of_isKeyChar (h : ∀ c ∈ cs, isKeyChar c = true) : Plain cs := by
  intro c hc
  have hkey := h c hc
  constructor <;> rintro rfl <;> exact absurd hkey (by decide)

theorem plain_of_isBlank (h : ∀ c ∈ cs, Text.isBlank c = true) : Plain cs := by
  intro c hc
  have hblank := h c hc
  constructor <;> rintro rfl <;> exact absurd hblank (by decide)

theorem trimmed_of_isKeyChar (h : ∀ c ∈ cs, isKeyChar c = true) : Text.Trimmed cs :=
  ⟨fun c hc => not_isBlank_of_isKeyChar (h c (List.mem_of_mem_head? hc)),
    fun c hc => not_isBlank_of_isKeyChar (h c (List.mem_of_mem_getLast? hc))⟩

/-- An entry as it is read: the key is of the characters of a key, and the value has no blanks at its ends and no comma
outside its own pairs of quotes. -/
structure Clean (e : String × String) : Prop where
  key : e.1.toList ≠ []
  chars : ∀ c ∈ e.1.toList, isKeyChar c = true
  value : Text.Trimmed e.2.toList
  unbroken : Unbroken false e.2.toList false

/-- A text can be cut at its first sign and trimmed, or trimmed and cut: what stands before and behind the sign is the
same but for blanks at its ends. -/
theorem exists_trim_split (hx : '=' ∉ xs) (ys : List Char) : ∃ xs' ys',
    Text.trim (xs ++ '=' :: ys) = xs' ++ '=' :: ys' ∧ '=' ∉ xs' ∧
      Text.trim xs' = Text.trim xs ∧ Text.trim ys' = Text.trim ys := by
  obtain ⟨u, v, hsplit, hu, hv⟩ := Text.exists_surround (xs ++ '=' :: ys)
  have hnot : ∀ {w : List Char}, (∀ c ∈ w, Text.isBlank c = true) → '=' ∉ w :=
    fun hw hmem => absurd (hw '=' hmem) (by decide)
  have hmem : '=' ∈ u ++ Text.trim (xs ++ '=' :: ys) ++ v := by
    rw [← hsplit]
    simp
  obtain ⟨xs', ys', htrim, hx'⟩ := List.eq_append_cons_of_mem
    (((List.mem_append.1 hmem).resolve_right (hnot hv) |> List.mem_append.1).resolve_left (hnot hu))
  -- the first sign of the text is that of the trimmed text
  have hfirst : (xs, ys) = (u ++ xs', ys' ++ v) := by
    apply Option.some.inj
    rw [← Text.breakAt?_eq_some_iff.2 ⟨rfl, hx⟩, hsplit, htrim]
    exact Text.breakAt?_eq_some_iff.2 ⟨by simp, List.not_mem_append (hnot hu) hx'⟩
  obtain ⟨rfl, rfl⟩ := Prod.mk.inj hfirst
  refine ⟨xs', ys', htrim, hx', ?_, ?_⟩
  · simpa using (Text.trim_between hu xs' (v := []) (by simp)).symm
  · simpa using (Text.trim_between (u := []) (by simp) ys' hv).symm

/-- What a piece with a sign writes: the key stands before the first one, the value behind it. -/
theorem entry?_split (hx : '=' ∉ xs) (ys : List Char) : entry? (xs ++ '=' :: ys) =
    if Text.trim xs ≠ [] ∧ (Text.trim xs).all isKeyChar then
      .ok (some (.ofList (Text.trim xs), .ofList (Text.trim ys)))
    else .error (.malformed (.ofList (Text.trim (xs ++ '=' :: ys)))) := by
  obtain ⟨xs', ys', htrim, hx', hkey, hvalue⟩ := exists_trim_split hx ys
  unfold entry?
  simp only [htrim, Text.breakAt?_eq_some_iff.2 ⟨rfl, hx'⟩, hkey, hvalue]
  simp

/-- A piece without a sign writes nothing if it is blank, and is at fault otherwise. -/
theorem entry?_of_no_sign (h : '=' ∉ cs) : entry? cs =
    if Text.trim cs = [] then .ok none else .error (.malformed (.ofList (Text.trim cs))) := by
  have hno : '=' ∉ Text.trim cs := by
    obtain ⟨u, v, hsplit, -, -⟩ := Text.exists_surround cs
    intro hmem
    rw [hsplit] at h
    exact h (List.mem_append_left _ (List.mem_append_right _ hmem))
  unfold entry?
  simp only [Text.breakAt?_eq_none_iff.2 hno]

/-- A key, the sign and a text are read as an entry of the trimmed text. -/
theorem entry?_of_key {key : List Char} (hkey : key ≠ []) (hchars : ∀ c ∈ key, isKeyChar c = true) (w : List Char) :
    entry? (key ++ '=' :: w) = .ok (some (.ofList key, .ofList (Text.trim w))) := by
  have hsign : '=' ∉ key := fun hmem => absurd (hchars _ hmem) (by decide)
  rw [entry?_split hsign, Text.trim_of_trimmed (trimmed_of_isKeyChar hchars), if_pos ⟨hkey, List.all_eq_true.2 hchars⟩]

/-- A clean entry is read back. -/
theorem entry?_entryText {e : String × String} (he : Clean e) : entry? (entryText e) = .ok (some e) := by
  unfold entryText
  rw [entry?_of_key he.key he.chars, Text.trim_of_trimmed he.value, String.ofList_toList, String.ofList_toList]

theorem unbroken_entryText {e : String × String} (he : Clean e) : Unbroken false (entryText e) false := by
  have hkey : Plain (e.1.toList ++ ['=']) := (plain_of_isKeyChar he.chars).append (by simp [Plain])
  rw [entryText, List.append_cons, unbroken_plain_append_iff hkey]
  exact he.unbroken

theorem entry?_of_isBlank (h : Text.isBlank c = true) (cs : List Char) : entry? (c :: cs) = entry? cs := by
  have htrim : Text.trim (c :: cs) = Text.trim cs := by
    unfold Text.trim Text.trimStart
    rw [List.dropWhile_cons_of_pos h]
  unfold entry?
  rw [htrim]

/-- An entry that is read from an unbroken piece is clean. -/
theorem clean_of_entry {p : List Char} {e : String × String} (hp : Unbroken false p false)
    (h : entry? p = .ok (some e)) : Clean e := by
  by_cases hsign : '=' ∈ p
  · obtain ⟨before, after, rfl, hbefore⟩ := List.eq_append_cons_of_mem hsign
    rw [entry?_split hbefore] at h
    split at h
    · rename_i hgood
      obtain rfl := Option.some.inj (Except.ok.inj h)
      have hchars := List.all_eq_true.1 hgood.2
      refine ⟨by simpa using hgood.1, by simpa using hchars, ?_, ?_⟩
      · rw [String.toList_ofList]
        exact Text.trimmed_trim after
      · -- around the value stand blanks, the sign and the key, which are neither quotes nor commas
        obtain ⟨u, v, hkey, hu, hv⟩ := Text.exists_surround before
        obtain ⟨u', v', hvalue, hu', hv'⟩ := Text.exists_surround after
        have hsplit : before ++ '=' :: after =
            (u ++ Text.trim before ++ v ++ ['='] ++ u') ++ Text.trim after ++ v' :=
          calc
            before ++ '=' :: after = before ++ ['='] ++ after := by simp
            _ = (u ++ Text.trim before ++ v) ++ ['='] ++ (u' ++ Text.trim after ++ v') := by rw [← hkey, ← hvalue]
            _ = _ := by simp
        have hfront : Plain (u ++ Text.trim before ++ v ++ ['='] ++ u') :=
          ((((plain_of_isBlank hu).append (plain_of_isKeyChar hchars)).append (plain_of_isBlank hv)).append
            (by simp [Plain])).append (plain_of_isBlank hu')
        rw [hsplit, unbroken_append_plain_iff (plain_of_isBlank hv'), unbroken_plain_append_iff hfront] at hp
        rw [String.toList_ofList]
        exact hp
    · cases h
  · rw [entry?_of_no_sign hsign] at h
    split at h <;> cases h

theorem clean_of_collect {ps : List (List Char)} {es : List (String × String)}
    (hps : ∀ p ∈ ps, Unbroken false p false) (h : collect ps = .ok es) : ∀ e ∈ es, Clean e := by
  induction ps generalizing es with
  | nil =>
    obtain rfl := Except.ok.inj h
    simp
  | cons p ps ih =>
    obtain ⟨hp, hrest⟩ := List.forall_mem_cons.1 hps
    rw [collect] at h
    cases hentry : entry? p with
    | error e => rw [hentry] at h; cases h
    | ok o =>
      rw [hentry] at h
      cases o with
      | none => exact ih hrest h
      | some e =>
        cases hcollect : collect ps with
        | error e' => simp only [hcollect] at h; cases h
        | ok es' =>
          simp only [hcollect] at h
          obtain rfl := Except.ok.inj h
          exact List.forall_mem_cons.2 ⟨clean_of_entry hp hentry, ih hrest hcollect⟩

theorem parse_eq_ok_iff {input : String} {a : Args} : parse input = .ok a ↔
    (pieces false input.toList).2 = false ∧ collect (pieces false input.toList).1 = .ok a.entries := by
  unfold parse
  split
  · rename_i hpieces
    rw [hpieces]
    exact iff_of_false (by simp) (by simp)
  · rename_i ps hpieces
    rw [hpieces]
    cases collect ps with
    | error e => exact iff_of_false (by simp [Except.map]) (by simp)
    | ok es =>
      constructor
      · intro h
        obtain rfl := Except.ok.inj h
        exact ⟨rfl, rfl⟩
      · rintro ⟨-, h⟩
        obtain rfl := Except.ok.inj h
        rfl

/-- Arguments that were read are clean. -/
theorem clean_of_parse {input : String} {a : Args} (h : parse input = .ok a) : ∀ e ∈ a.entries, Clean e := by
  obtain ⟨hend, hcollect⟩ := parse_eq_ok_iff.1 h
  refine clean_of_collect ?_ hcollect
  cases hps : (pieces false input.toList).1 with
  | nil => simp
  | cons p ps =>
    obtain ⟨hp, hrest⟩ := unbroken_of_pieces (Prod.ext hps hend)
    exact List.forall_mem_cons.2 ⟨hp, hrest⟩

/-! ### Reading back -/

theorem collect_cons {p : List Char} {e : String × String} (h : entry? p = .ok (some e)) (ps : List (List Char)) :
    collect (p :: ps) = (collect ps).map (e :: ·) := by
  rw [collect, h]

theorem collect_extend (h : Text.isBlank c = true) {ps : List (List Char)} (hps : ps ≠ []) :
    collect (extend c ps) = collect ps := by
  cases ps with
  | nil => exact absurd rfl hps
  | cons p ps => simp only [extend, collect, entry?_of_isBlank h]

/-- A clean entry is read off the front of a text. -/
theorem collect_entry_append {e : String × String} (he : Clean e) (cs : List Char) :
    collect (pieces false (entryText e ++ ',' :: ' ' :: cs)).1 = (collect (pieces false cs).1).map (e :: ·) ∧
      (pieces false (entryText e ++ ',' :: ' ' :: cs)).2 = (pieces false cs).2 := by
  rw [pieces_append_comma (unbroken_entryText he), collect_cons (entry?_entryText he), pieces_cons (by decide)]
  exact ⟨by rw [collect_extend (by decide) (pieces_ne_nil _ _)]; rfl, rfl⟩

/-- Clean entries are read off the front of a text, whatever comes behind them. -/
theorem collect_entriesText_append {pre : List (String × String)} (hpre : ∀ e ∈ pre, Clean e) (e : String × String)
    (post : List (String × String)) :
    collect (pieces false (entriesText (pre ++ e :: post))).1 =
        (collect (pieces false (entriesText (e :: post))).1).map (pre ++ ·) ∧
      (pieces false (entriesText (pre ++ e :: post))).2 = (pieces false (entriesText (e :: post))).2 := by
  induction pre with
  | nil =>
    refine ⟨?_, rfl⟩
    rw [List.nil_append]
    cases collect (pieces false (entriesText (e :: post))).1 <;> rfl
  | cons e' pre ih =>
    obtain ⟨he', hrest⟩ := List.forall_mem_cons.1 hpre
    obtain ⟨hentries, hend⟩ := ih hrest
    have hwritten : entriesText (e' :: (pre ++ e :: post)) =
        entryText e' ++ ',' :: ' ' :: entriesText (pre ++ e :: post) := by
      cases pre <;> rfl
    obtain ⟨hfront, hlast⟩ := collect_entry_append he' (entriesText (pre ++ e :: post))
    rw [List.cons_append, hwritten, hfront, hentries, hlast, hend]
    refine ⟨?_, rfl⟩
    cases collect (pieces false (entriesText (e :: post))).1 <;> rfl

/-- Clean arguments are read back. -/
theorem parse_text_of_clean {a : Args} (ha : ∀ e ∈ a.entries, Clean e) : parse a.text = .ok a := by
  obtain ⟨es⟩ := a
  rcases List.eq_nil_or_concat es with rfl | ⟨pre, e, rfl⟩
  · rfl
  · rw [List.concat_eq_append] at ha ⊢
    have he := ha e (by simp)
    obtain ⟨hentries, hend⟩ := collect_entriesText_append (fun e' he' => ha e' (List.mem_append_left _ he')) e []
    have hone : pieces false (entriesText [e]) = ([entryText e], false) := unbroken_entryText he
    rw [hone] at hentries hend
    rw [collect_cons (entry?_entryText he)] at hentries
    rw [parse_eq_ok_iff, text, String.toList_ofList]
    exact ⟨hend, hentries⟩

end Args

end SessionBroker
