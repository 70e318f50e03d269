import SessionBroker.Label

/-!
# SessionBroker.Proofs.Separators — where a text is cut

A separator that stands in a text stands there a first time and a last time.  Each of the two places is told by what
does not hold it any more: in front of the end of its first occurrence, and behind the beginning of its last one, there
is no other.

* `Text.beforeFirst_of_fresh`, `Text.afterLast_of_fresh`: the text that is cut off at such a place.
* `Text.exists_first`, `Text.exists_last`: the places.
-/

namespace SessionBroker.Text

variable {sep pre post cs : List Char}

/-! ### The first occurrence -/

theorem prefix_of_dropLast (pre sep post : List Char) : pre ++ sep.dropLast <+: pre ++ sep ++ post := by
  rw [List.append_assoc]
  exact (List.prefix_append_right_inj pre).2 ((List.dropLast_prefix sep).trans (List.prefix_append sep post))

/-- An occurrence is the first one if there is none in what goes up to its last but one character. -/
theorem beforeFirst_of_fresh (post : List Char) (h : ¬sep <:+: pre ++ sep.dropLast) :
    beforeFirst sep (pre ++ sep ++ post) = pre := by
  induction pre with
  | nil =>
    cases sep with
    | nil => exact absurd List.nil_infix h
    | cons s sep => simp [beforeFirst]
  | cons c pre ih =>
    -- it is too long to go beyond the occurrence that was given
    have hnot : ¬sep <+: c :: pre ++ sep ++ post := by
      intro hp
      refine h (List.prefix_of_prefix_length_le hp (prefix_of_dropLast (c :: pre) sep post) ?_).isInfix
      simp only [List.length_append, List.length_cons, List.length_dropLast]
      omega
    have hrest : ¬sep <:+: pre ++ sep.dropLast := fun hi => h (List.infix_cons hi)
    rw [List.cons_append, List.cons_append, beforeFirst, if_neg (by simpa using hnot), ih hrest]

theorem beforeFirst_of_absent (h : ¬sep <:+: cs) : beforeFirst sep cs = cs := by
  induction cs with
  | nil => rfl
  | cons c cs ih =>
    have hnot : ¬sep <+: c :: cs := fun hp => h hp.isInfix
    have hrest : ¬sep <:+: cs := fun hi => h (List.infix_cons hi)
    simp [beforeFirst, hnot, ih hrest]

theorem exists_first (hsep : sep ≠ []) (h : sep <:+: cs) :
    ∃ pre post, cs = pre ++ sep ++ post ∧ ¬sep <:+: pre ++ sep.dropLast := by
  induction cs with
  | nil => exact absurd (List.eq_nil_of_infix_nil h) hsep
  | cons c cs ih =>
    by_cases hp : sep <+: c :: cs
    · obtain ⟨post, hpost⟩ := hp
      refine ⟨[], post, hpost.symm, fun hi => ?_⟩
      have hle := hi.length_le
      have hpos := List.length_pos_iff.2 hsep
      simp only [List.nil_append, List.length_dropLast] at hle
      omega
    · obtain ⟨pre, post, rfl, hfresh⟩ := ih ((List.infix_cons_iff.1 h).resolve_left hp)
      refine ⟨c :: pre, post, rfl, fun hi => ?_⟩
      rcases List.infix_cons_iff.1 hi with hi | hi
      · exact hp (hi.trans (prefix_of_dropLast (c :: pre) sep post))
      · exact hfresh hi

/-! ### The last occurrence -/

theorem afterLast?_eq_none (h : ¬sep <:+: cs) : afterLast? sep cs = none := by
  induction cs with
  | nil => rfl
  | cons c cs ih =>
    have hnot : ¬sep <+: c :: cs := fun hp => h hp.isInfix
    have hrest : ¬sep <:+: cs := fun hi => h (List.infix_cons hi)
    simp [afterLast?, hnot, ih hrest]

theorem afterLast_of_absent (h : ¬sep <:+: cs) : afterLast sep cs = cs := by
  rw [afterLast, afterLast?_eq_none h, Option.getD_none]

theorem afterLast?_append {rest : List Char} (pre : List Char) (h : afterLast? sep cs = some rest) :
    afterLast? sep (pre ++ cs) = some rest := by
  induction pre with
  | nil => exact h
  | cons c pre ih => simp [afterLast?, ih]

/-- An occurrence is the last one if there is none in what comes from its second character on. -/
theorem afterLast_of_fresh (pre : List Char) (h : ¬sep <:+: sep.tail ++ post) :
    afterLast sep (pre ++ sep ++ post) = post := by
  have hlast : afterLast? sep (sep ++ post) = some post := by
    cases sep with
    | nil => exact absurd List.nil_infix h
    | cons s sep =>
      have hnone : afterLast? (s :: sep) (sep ++ post) = none := afterLast?_eq_none h
      simp [afterLast?, hnone]
  rw [afterLast, List.append_assoc, afterLast?_append pre hlast, Option.getD_some]

theorem exists_last (hsep : sep ≠ []) (h : sep <:+: cs) :
    ∃ pre post, cs = pre ++ sep ++ post ∧ ¬sep <:+: sep.tail ++ post := by
  induction cs with
  | nil => exact absurd (List.eq_nil_of_infix_nil h) hsep
  | cons c cs ih =>
    by_cases hi : sep <:+: cs
    · obtain ⟨pre, post, rfl, hfresh⟩ := ih hi
      exact ⟨c :: pre, post, rfl, hfresh⟩
    · obtain ⟨post, hpost⟩ := (List.infix_cons_iff.1 h).resolve_right hi
      refine ⟨[], post, hpost.symm, fun hfresh => hi ?_⟩
      cases sep with
      | nil => exact absurd rfl hsep
      | cons s sep =>
        obtain ⟨-, rfl⟩ := List.cons_eq_cons.1 hpost
        exact hfresh

/-- No separator is left in what is cut off. -/
theorem not_infix_afterLast (hsep : sep ≠ []) (cs : List Char) : ¬sep <:+: afterLast sep cs := by
  by_cases h : sep <:+: cs
  · obtain ⟨pre, post, rfl, hfresh⟩ := exists_last hsep h
    rw [afterLast_of_fresh pre hfresh]
    exact fun hi => hfresh (hi.trans (List.suffix_append _ _).isInfix)
  · rw [afterLast_of_absent h]
    exact h

end SessionBroker.Text
