import Mathlib.Algebra.Group.Nat.Even
import Mathlib.Data.List.Forall2
import SessionBroker.Proofs.Writings

/-!
# SessionBroker.Proofs.Grammar — the texts that are arguments

The reader goes through a text once and keeps track of whether it is inside quotes.  Here the same texts are described by
what stands in them: how many quotes stand before a comma, and what stands before the first sign of a piece.

* `Args.cuts`: a text cut at the commas behind an even number of quotes.
* `Args.Writes p e`: piece `p` writes entry `e`.
* `Args.IsFault`: what is wrong with a text, and where.
* `Args.parse_grammar`: which texts are read, what is read of them, and how the others are refused.
-/

namespace SessionBroker

open Text

/-- A text without the blanks at its ends. -/
def Text.Trims (cs t : List Char) : Prop :=
  Trimmed t ∧ ∃ u v, cs = u ++ t ++ v ∧ (∀ c ∈ u, isBlank c = true) ∧ ∀ c ∈ v, isBlank c = true

theorem Text.trims_iff {cs t : List Char} : Trims cs t ↔ trim cs = t := by
  constructor
  · rintro ⟨ht, u, v, rfl, hu, hv⟩
    exact trim_surround hu ht hv
  · rintro rfl
    exact ⟨trimmed_trim cs, exists_surround cs⟩

namespace Args

variable {cs p : List Char} {ps : List (List Char)} {e : String × String} {es : List (String × String)}
  {fault : ArgsError}

/-! ### Cutting a text -/

/-- A text cut at the commas behind an even number of quotes. -/
def cuts (cs : List Char) : List (List Char) :=
  (cs.zipIdx.splitOnP fun x => x.1 == ',' && decide (Even ((cs.take x.2).count '"'))).map fun p => p.map Prod.fst

/-- One more quote changes whether their number is even. -/
theorem even_count_append_singleton (cs : List Char) (c : Char) :
    decide (Even ((cs ++ [c]).count '"')) = (decide (Even (cs.count '"')) ^^ (c == '"')) := by
  by_cases hc : c = '"'
  · subst hc
    by_cases heven : Even (cs.count '"') <;> simp [heven, Nat.even_add_one]
  · simp [hc, beq_false_of_ne hc]

/-- Inside quotes stands what an odd number of quotes stand before.  The induction is on what follows, and the counts go
over all that stands before. -/
theorem map_splitOnP_zipIdx (pre cs : List Char) :
    ((cs.zipIdx pre.length).splitOnP fun x =>
        x.1 == ',' && decide (Even (((pre ++ cs).take x.2).count '"'))).map (fun p => p.map Prod.fst) =
      (pieces (!decide (Even (pre.count '"'))) cs).1 := by
  induction cs generalizing pre with
  | nil => simp [pieces]
  | cons c cs ih =>
    have hnext := ih (pre ++ [c])
    rw [List.length_append, List.length_singleton, List.append_assoc, List.singleton_append] at hnext
    rw [List.zipIdx_cons, List.splitOnP_cons_eq_if_modifyHead, List.take_left]
    by_cases hcut : c = ',' ∧ Even (pre.count '"')
    · obtain ⟨rfl, heven⟩ := hcut
      rw [even_count_append_singleton] at hnext
      simp [heven, pieces, hnext]
    · have hpiece : ¬(c = ',' ∧ (!decide (Even (pre.count '"'))) = false) := by simpa using hcut
      have hne := pieces_ne_nil (!decide (Even ((pre ++ [c]).count '"'))) cs
      rw [pieces_cons hpiece, Bool.not_xor, ← even_count_append_singleton, ← hnext, if_neg (by simpa using hcut)]
      rw [← hnext] at hne
      generalize (cs.zipIdx (pre.length + 1)).splitOnP _ = parts at hne ⊢
      cases parts with
      | nil => exact absurd rfl hne
      | cons p ps => rfl

theorem cuts_eq (cs : List Char) : cuts cs = (pieces false cs).1 := map_splitOnP_zipIdx [] cs

theorem snd_pieces (pre cs : List Char) :
    (pieces (!decide (Even (pre.count '"'))) cs).2 = !decide (Even ((pre ++ cs).count '"')) := by
  induction cs generalizing pre with
  | nil => simp [pieces]
  | cons c cs ih => rw [snd_pieces_cons, Bool.not_xor, ← even_count_append_singleton, ih, List.append_assoc,
      List.singleton_append]

/-- A text with an even number of quotes ends outside quotes. -/
theorem snd_pieces_eq_false_iff : (pieces false cs).2 = false ↔ Even (cs.count '"') := by
  rw [show (pieces false cs).2 = !decide (Even (cs.count '"')) from snd_pieces [] cs]
  simp

/-! ### What a piece writes -/

/-- A piece of white space. -/
def IsBlank (p : List Char) : Prop := ∀ c ∈ p, isBlank c = true

instance (p : List Char) : Decidable (IsBlank p) := inferInstanceAs (Decidable (∀ c ∈ p, _))

/-- A piece that writes an entry.  Before its first sign stands a key of letters, digits and underscores, and behind it
the value, each of them between blanks. -/
structure Writes (p : List Char) (e : String × String) : Prop where
  split : ∃ before after, p = before ++ '=' :: after ∧ '=' ∉ before ∧ Trims before e.1.toList ∧ Trims after e.2.toList
  key : e.1.toList ≠ []
  chars : ∀ c ∈ e.1.toList, c.isAlphanum = true ∨ c = '_'

/-- A piece that the grammar allows. -/
def IsPiece (p : List Char) : Prop := IsBlank p ∨ ∃ e, Writes p e

theorem isKeyChar_iff {c : Char} : isKeyChar c = true ↔ c.isAlphanum = true ∨ c = '_' := by
  simp [isKeyChar]

theorem entry?_eq_none_iff : entry? p = .ok none ↔ IsBlank p := by
  by_cases hsign : '=' ∈ p
  · obtain ⟨before, after, rfl, hbefore⟩ := List.eq_append_cons_of_mem hsign
    rw [entry?_split hbefore]
    refine iff_of_false ?_ fun hblank => absurd (hblank '=' hsign) (by decide)
    split <;> simp
  · rw [entry?_of_no_sign hsign]
    split
    · rename_i hnil
      exact iff_of_true rfl (trim_eq_nil_iff.1 hnil)
    · rename_i hne
      exact iff_of_false (by simp) fun hblank => hne (trim_eq_nil_iff.2 hblank)

theorem entry?_eq_some_iff : entry? p = .ok (some e) ↔ Writes p e := by
  constructor
  · intro h
    by_cases hsign : '=' ∈ p
    · obtain ⟨before, after, rfl, hbefore⟩ := List.eq_append_cons_of_mem hsign
      rw [entry?_split hbefore] at h
      split at h
      · rename_i hgood
        obtain rfl := Option.some.inj (Except.ok.inj h)
        refine ⟨⟨before, after, rfl, hbefore, ?_, ?_⟩, ?_, ?_⟩
        · rw [String.toList_ofList]
          exact trims_iff.2 rfl
        · rw [String.toList_ofList]
          exact trims_iff.2 rfl
        · simpa using hgood.1
        · simpa [isKeyChar_iff] using hgood.2
      · cases h
    · rw [entry?_of_no_sign hsign] at h
      split at h <;> cases h
  · rintro ⟨⟨before, after, rfl, hbefore, hkey, hvalue⟩, hne, hchars⟩
    rw [trims_iff] at hkey hvalue
    have hgood : e.1.toList ≠ [] ∧ e.1.toList.all isKeyChar = true :=
      ⟨hne, List.all_eq_true.2 fun c hc => isKeyChar_iff.2 (hchars c hc)⟩
    rw [entry?_split hbefore, hkey, hvalue, if_pos hgood, String.ofList_toList, String.ofList_toList]

theorem isPiece_iff : IsPiece p ↔ ∃ o, entry? p = .ok o := by
  simp only [IsPiece, ← entry?_eq_none_iff, ← entry?_eq_some_iff, Option.exists]

/-- A piece at fault is named by its trimmed text. -/
theorem entry?_eq_error_iff :
    entry? p = .error fault ↔ ¬IsPiece p ∧ ∃ t, Trims p t ∧ fault = .malformed (.ofList t) := by
  have htext : ∀ fault, entry? p = .error fault → fault = .malformed (.ofList (trim p)) := by
    intro fault h
    unfold entry? at h
    dsimp only at h
    split at h
    · cases h
    · split at h
      · exact (Except.error.inj h).symm
      · split at h
        · cases h
        · exact (Except.error.inj h).symm
  constructor
  · intro h
    refine ⟨?_, trim p, trims_iff.2 rfl, htext fault h⟩
    rw [isPiece_iff, h]
    simp
  · rintro ⟨hnot, t, ht, rfl⟩
    cases hentry : entry? p with
    | ok o => exact absurd (isPiece_iff.2 ⟨o, hentry⟩) hnot
    | error fault => rw [htext fault hentry, trims_iff.1 ht]

/-! ### What a text writes -/

/-- The entries that are read are those that the pieces write, except for the blank ones. -/
theorem collect_eq_ok_iff : collect ps = .ok es ↔ List.Forall₂ Writes (ps.filter fun p => !decide (IsBlank p)) es := by
  induction ps generalizing es with
  | nil => simp [collect, eq_comm]
  | cons p ps ih =>
    rw [collect]
    cases hentry : entry? p with
    | error fault =>
      have hblank : ¬IsBlank p := fun hb => by cases hentry.symm.trans (entry?_eq_none_iff.2 hb)
      rw [List.filter_cons_of_pos (by simpa using hblank), List.forall₂_cons_left_iff]
      refine iff_of_false (by simp) ?_
      rintro ⟨e, es', hwrites, -⟩
      cases hentry.symm.trans (entry?_eq_some_iff.2 hwrites)
    | ok o =>
      cases o with
      | none =>
        rw [List.filter_cons_of_neg (by simpa using entry?_eq_none_iff.1 hentry)]
        exact ih
      | some e =>
        have hblank : ¬IsBlank p := fun hb => by cases hentry.symm.trans (entry?_eq_none_iff.2 hb)
        rw [List.filter_cons_of_pos (by simpa using hblank), List.forall₂_cons_left_iff]
        constructor
        · intro h
          cases hrest : collect ps with
          | error fault => rw [hrest] at h; cases h
          | ok es' =>
            rw [hrest] at h
            exact ⟨e, es', entry?_eq_some_iff.1 hentry, ih.1 hrest, (Except.ok.inj h).symm⟩
        · rintro ⟨e', es', hwrites, hrest, rfl⟩
          cases hentry.symm.trans (entry?_eq_some_iff.2 hwrites)
          show (collect ps).map (e :: ·) = .ok (e :: es')
          rw [ih.2 hrest]
          rfl

/-- All pieces are read exactly if the grammar allows each of them. -/
theorem exists_collect_iff : (∃ es, collect ps = .ok es) ↔ ∀ p ∈ ps, IsPiece p := by
  induction ps with
  | nil => simp [collect]
  | cons p ps ih =>
    rw [List.forall_mem_cons, ← ih, isPiece_iff, collect]
    cases entry? p with
    | error fault => simp
    | ok o =>
      cases o with
      | none => simp
      | some e => cases collect ps <;> simp [Except.map]

/-- The fault that is reported is the one of the first piece that the grammar does not allow. -/
theorem collect_eq_error_iff : collect ps = .error fault ↔
    ∃ pre p post, ps = pre ++ p :: post ∧ (∀ p' ∈ pre, IsPiece p') ∧ entry? p = .error fault := by
  induction ps with
  | nil => simp [collect]
  | cons p ps ih =>
    -- the first piece at fault is this one, or else that of the rest
    have hsplit : (∃ pre p' post, p :: ps = pre ++ p' :: post ∧ (∀ p'' ∈ pre, IsPiece p'') ∧ entry? p' = .error fault) ↔
        entry? p = .error fault ∨ IsPiece p ∧ collect ps = .error fault := by
      rw [ih]
      constructor
      · rintro ⟨pre, p', post, hps, hpre, hfault⟩
        cases pre with
        | nil =>
          obtain ⟨rfl, rfl⟩ := List.cons.inj hps
          exact .inl hfault
        | cons p'' pre =>
          obtain ⟨rfl, rfl⟩ := List.cons.inj hps
          obtain ⟨hp, hpre⟩ := List.forall_mem_cons.1 hpre
          exact .inr ⟨hp, pre, p', post, rfl, hpre, hfault⟩
      · rintro (hfault | ⟨hp, pre, p', post, rfl, hpre, hfault⟩)
        · exact ⟨[], p, ps, rfl, by simp, hfault⟩
        · exact ⟨p :: pre, p', post, rfl, List.forall_mem_cons.2 ⟨hp, hpre⟩, hfault⟩
    rw [hsplit, isPiece_iff, collect]
    cases entry? p with
    | error fault' => simp
    | ok o =>
      cases o with
      | none => simp
      | some e => cases collect ps <;> simp [Except.map]

/-- What is wrong with a text: it ends inside quotes, or a piece is at fault.  Then the first one is named. -/
def IsFault (text : String) (fault : ArgsError) : Prop :=
  ¬Even (text.toList.count '"') ∧ fault = .malformed text ∨
    Even (text.toList.count '"') ∧ ∃ pre p post t, cuts text.toList = pre ++ p :: post ∧ (∀ p' ∈ pre, IsPiece p') ∧
      ¬IsPiece p ∧ Trims p t ∧ fault = .malformed (.ofList t)

theorem parse_eq_error_iff {text : String} : parse text = .error fault ↔ IsFault text fault := by
  unfold IsFault
  rw [cuts_eq, ← snd_pieces_eq_false_iff]
  unfold parse
  split
  · rename_i hpieces
    rw [hpieces]
    simp [eq_comm]
  · rename_i ps hpieces
    have hmap : (collect ps).map mk = .error fault ↔ collect ps = .error fault := by
      cases collect ps <;> simp [Except.map]
    rw [hpieces, hmap, collect_eq_error_iff]
    simp only [entry?_eq_error_iff, exists_and_left]
    simp

/-- A text is read as arguments exactly if it has an even number of quotes, and each piece between the commas behind an
even number of quotes is white space or writes an entry.  Then the entries that are written are read, in their order.
Any other text is refused, and the fault names the whole text if it ends inside quotes, or else its first piece that is
neither. -/
theorem parse_grammar (text : String) :
    ((∃ a, parse text = .ok a) ↔ Even (text.toList.count '"') ∧ ∀ p ∈ cuts text.toList, IsPiece p) ∧
      (∀ a, parse text = .ok a ↔ Even (text.toList.count '"') ∧
        List.Forall₂ Writes ((cuts text.toList).filter fun p => !decide (IsBlank p)) a.entries) ∧
      ∀ fault, parse text = .error fault ↔ IsFault text fault := by
  refine ⟨?_, fun a => ?_, fun fault => parse_eq_error_iff⟩
  · rw [cuts_eq, ← snd_pieces_eq_false_iff, ← exists_collect_iff]
    constructor
    · rintro ⟨a, h⟩
      obtain ⟨hend, hread⟩ := parse_eq_ok_iff.1 h
      exact ⟨hend, a.entries, hread⟩
    · rintro ⟨hend, es, hread⟩
      exact ⟨⟨es⟩, parse_eq_ok_iff.2 ⟨hend, hread⟩⟩
  · rw [parse_eq_ok_iff, snd_pieces_eq_false_iff, collect_eq_ok_iff, cuts_eq]

/-- The comma inside quotes does not cut. -/
example : cuts "a=\"x, y\",, b=z".toList = ["a=\"x, y\"".toList, [], " b=z".toList] := by decide

end Args

end SessionBroker
