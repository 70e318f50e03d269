import SessionBroker.Proofs.Separators
import SessionBroker.Routing.Matcher

/-!
# SessionBroker.Proofs.Nesting — the two ends of a label with a new outermost element

A label is one text, and its elements are found again by looking for the separator.  The separator ends with the blank
that it begins with, so it can overlap with itself: where the label begins with the rest of a separator, or the new
element ends with the beginning of one, another separator stands across the joint, and the end that was there is cut.

* `Label.OpensInside`, `Label.ClosesInside`: the labels for which that happens.
* `Label.within_ends`: a new outermost element leaves the innermost element as it is, and brings its own outermost one,
  exactly if it does not happen.
-/

namespace SessionBroker

open Text

namespace Label

theorem toList_separator : separator.toList = [' ', '-', '>', ' '] := rfl

/-! ### A separator across a joint -/

section Joint

variable {xs ys zs : List Char}

/-- The two parts of a separator that is cut. -/
theorem separator_cut {u v : List Char} (hu : u ≠ []) (hv : v ≠ []) (h : separator.toList = u ++ v) :
    (u = [' '] ∧ v = ['-', '>', ' ']) ∨ (u = [' ', '-'] ∧ v = ['>', ' ']) ∨ (u = [' ', '-', '>'] ∧ v = [' ']) := by
  rw [toList_separator] at h
  simp only [List.cons_eq_append_iff, List.nil_eq_append_iff] at h
  grind

/-- Behind the blank of a separator there is another one if there is one in what follows, or if that completes it. -/
theorem infix_tail_append_iff : separator.toList <:+: separator.toList.tail ++ ys ↔
    separator.toList <:+: ys ∨ separator.toList.tail <+: ys := by
  rw [List.infix_append_iff_ne_nil]
  constructor
  · rintro (h | h | ⟨u, v, hu, hv, huv, hxs, hys⟩)
    · exact absurd h (by decide)
    · exact .inl h
    · rcases separator_cut hu hv huv with ⟨rfl, rfl⟩ | ⟨rfl, rfl⟩ | ⟨rfl, rfl⟩
      · exact .inr hys
      · exact absurd hxs (by decide)
      · exact absurd hxs (by decide)
  · rintro (h | h)
    · exact .inr (.inl h)
    · exact .inr (.inr ⟨[' '], _, by decide, by decide, rfl, by decide, h⟩)

/-- In front of the last blank of a separator there is another one if there is one in what stands before, or if that
begins it. -/
theorem infix_append_dropLast_iff : separator.toList <:+: xs ++ separator.toList.dropLast ↔
    separator.toList <:+: xs ∨ separator.toList.dropLast <:+ xs := by
  rw [List.infix_append_iff_ne_nil]
  constructor
  · rintro (h | h | ⟨u, v, hu, hv, huv, hxs, hys⟩)
    · exact .inl h
    · exact absurd h (by decide)
    · rcases separator_cut hu hv huv with ⟨rfl, rfl⟩ | ⟨rfl, rfl⟩ | ⟨rfl, rfl⟩
      · exact absurd hys (by decide)
      · exact absurd hys (by decide)
      · exact .inr hxs
  · rintro (h | h)
    · exact .inl h
    · exact .inr (.inr ⟨_, [' '], by decide, by decide, rfl, h, by decide⟩)

theorem separator_ne_nil : separator.toList ≠ [] := by decide

/-- The last element of a joined text is that of its inner part, unless another separator stands across the joint. -/
theorem afterLast_joined (h : separator.toList <:+: ys ∨ ¬separator.toList.tail <+: ys) :
    afterLast separator.toList (xs ++ separator.toList ++ ys) = afterLast separator.toList ys := by
  by_cases hin : separator.toList <:+: ys
  · obtain ⟨pre, post, rfl, hfresh⟩ := exists_last separator_ne_nil hin
    have hsplit : xs ++ separator.toList ++ (pre ++ separator.toList ++ post) =
        xs ++ separator.toList ++ pre ++ separator.toList ++ post := by simp
    rw [hsplit, afterLast_of_fresh _ hfresh, afterLast_of_fresh _ hfresh]
  · rw [afterLast_of_absent hin]
    refine afterLast_of_fresh xs fun hi => ?_
    rcases infix_tail_append_iff.1 hi with hi | hi
    · exact hin hi
    · exact h.elim hin (absurd hi)

/-- If one does, what completes it is cut off. -/
theorem afterLast_overlap (h : ¬separator.toList <:+: separator.toList.tail ++ zs) :
    afterLast separator.toList (xs ++ separator.toList ++ (separator.toList.tail ++ zs)) = zs := by
  have hsplit : xs ++ separator.toList ++ (separator.toList.tail ++ zs) =
      xs ++ separator.toList.dropLast ++ separator.toList ++ zs := by simp [toList_separator]
  rw [hsplit, afterLast_of_fresh _ h]

/-- The first element of a joined text is that of its outer part, unless another separator stands across the joint. -/
theorem beforeFirst_joined (h : separator.toList <:+: xs ∨ ¬separator.toList.dropLast <:+ xs) :
    beforeFirst separator.toList (xs ++ separator.toList ++ ys) = beforeFirst separator.toList xs := by
  by_cases hin : separator.toList <:+: xs
  · obtain ⟨pre, post, rfl, hfresh⟩ := exists_first separator_ne_nil hin
    have hsplit : pre ++ separator.toList ++ post ++ separator.toList ++ ys =
        pre ++ separator.toList ++ (post ++ separator.toList ++ ys) := by simp
    rw [hsplit, beforeFirst_of_fresh _ hfresh, beforeFirst_of_fresh _ hfresh]
  · rw [beforeFirst_of_absent hin]
    refine beforeFirst_of_fresh ys fun hi => ?_
    rcases infix_append_dropLast_iff.1 hi with hi | hi
    · exact hin hi
    · exact h.elim hin (absurd hi)

/-- If one does, what begins it is cut off. -/
theorem beforeFirst_overlap (h : ¬separator.toList <:+: zs ++ separator.toList.dropLast) :
    beforeFirst separator.toList (zs ++ separator.toList.dropLast ++ separator.toList ++ ys) = zs := by
  have hsplit : zs ++ separator.toList.dropLast ++ separator.toList ++ ys =
      zs ++ separator.toList ++ (separator.toList.tail ++ ys) := by simp [toList_separator]
  rw [hsplit, beforeFirst_of_fresh _ h]

end Joint

/-! ### Labels with a new outermost element -/

/-- The label has several elements. -/
def IsNested (l : Label) : Prop := separator.toList <:+: l.text.toList

/-- The label is one element that begins with the rest of a separator: behind a blank, it begins with a separator. -/
def OpensInside (l : Label) : Prop := ¬l.IsNested ∧ separator.toList.tail <+: l.text.toList

/-- The label is one element that ends with the beginning of a separator. -/
def ClosesInside (l : Label) : Prop := ¬l.IsNested ∧ separator.toList.dropLast <:+ l.text.toList

instance (l : Label) : Decidable l.IsNested := inferInstanceAs (Decidable (_ <:+: _))

instance (l : Label) : Decidable l.OpensInside := inferInstanceAs (Decidable (_ ∧ _))

instance (l : Label) : Decidable l.ClosesInside := inferInstanceAs (Decidable (_ ∧ _))

variable {l : Label} {outer : String}

theorem toList_last (l : Label) : l.last.toList = afterLast separator.toList l.text.toList := String.toList_ofList

theorem toList_first (l : Label) : l.first.toList = beforeFirst separator.toList l.text.toList := String.toList_ofList

theorem toList_within (hl : l.isEmpty = false) (ho : outer ≠ "") :
    (l.within outer).text.toList = outer.toList ++ separator.toList ++ l.text.toList := by
  simp [within, hl, ho]

theorem last_within (hl : l.isEmpty = false) (ho : outer ≠ "") (h : ¬l.OpensInside) :
    (l.within outer).last = l.last := by
  apply String.toList_inj.1
  rw [toList_last, toList_last, toList_within hl ho]
  exact afterLast_joined (Decidable.or_iff_not_imp_left.2 fun hnot hopen => h ⟨hnot, hopen⟩)

theorem first_within (hl : l.isEmpty = false) (ho : outer ≠ "") (h : ¬(mk outer).ClosesInside) :
    (l.within outer).first = (mk outer).first := by
  apply String.toList_inj.1
  rw [toList_first, toList_first, toList_within hl ho]
  exact beforeFirst_joined (Decidable.or_iff_not_imp_left.2 fun hnot hclose => h ⟨hnot, hclose⟩)

/-- The rest of a separator at the beginning of a label is lost. -/
theorem text_of_opensInside (hl : l.isEmpty = false) (ho : outer ≠ "") (h : l.OpensInside) :
    l.text = "-> " ++ (l.within outer).last := by
  obtain ⟨hnot, zs, hzs⟩ := h
  apply String.toList_inj.1
  rw [String.toList_append, toList_last, toList_within hl ho, ← hzs, afterLast_overlap]
  · rfl
  · rw [hzs]
    exact hnot

/-- The beginning of a separator at the end of the new element is lost. -/
theorem text_of_closesInside (hl : l.isEmpty = false) (ho : outer ≠ "") (h : (mk outer).ClosesInside) :
    outer = (l.within outer).first ++ " ->" := by
  obtain ⟨hnot, zs, hzs⟩ := h
  apply String.toList_inj.1
  rw [String.toList_append, toList_first, toList_within hl ho, show outer.toList = _ from hzs.symm, beforeFirst_overlap]
  · rfl
  · rw [hzs]
    exact hnot

/-- A label of one element is its own innermost and outermost element. -/
theorem last_of_not_isNested (h : ¬l.IsNested) : l.last = l.text := by
  apply String.toList_inj.1
  rw [toList_last, afterLast_of_absent h]

theorem first_of_not_isNested (h : ¬l.IsNested) : l.first = l.text := by
  apply String.toList_inj.1
  rw [toList_first, beforeFirst_of_absent h]

/-- No separator stands in an innermost element. -/
theorem not_isNested_last (l : Label) : ¬(mk l.last).IsNested := by
  unfold IsNested
  rw [toList_last]
  exact not_infix_afterLast separator_ne_nil _

/-- What a new outermost element does to the two ends of a label. -/
structure Embeds (l : Label) (outer : String) : Prop where
  /-- The innermost element stays, unless the label opens inside. -/
  innermost : (l.within outer).last = l.last ↔ ¬l.OpensInside
  /-- The outermost element is that of the new one, unless this closes inside. -/
  outermost : (l.within outer).first = (mk outer).first ↔ ¬(mk outer).ClosesInside
  /-- The rules for innermost elements select the label as before, unless it opens inside. -/
  selected : (∀ p, (LabelMatcher.last p).selects (l.within outer) = (LabelMatcher.last p).selects l) ↔ ¬l.OpensInside
  /-- What is lost at the inner end. -/
  opening : l.OpensInside → l.text = "-> " ++ (l.within outer).last
  /-- What is lost at the outer end. -/
  closing : (mk outer).ClosesInside → outer = (l.within outer).first ++ " ->"

/-- Labels keep their two ends in a new outermost element exactly if no separator stands across the joint. -/
theorem within_ends (hl : l.isEmpty = false) (ho : outer ≠ "") : l.Embeds outer := by
  have hinner : (l.within outer).last = l.last ↔ ¬l.OpensInside := by
    refine ⟨fun heq hopen => ?_, last_within hl ho⟩
    have hlen := congrArg String.length (text_of_opensInside hl ho hopen)
    rw [heq, last_of_not_isNested hopen.1, String.length_append] at hlen
    have hpart : "-> ".length = 3 := rfl
    omega
  exact
    { innermost := hinner
      outermost := by
        refine ⟨fun heq hclose => ?_, first_within hl ho⟩
        have hfirst : (l.within outer).first = outer := heq.trans (first_of_not_isNested hclose.1)
        have hlen := congrArg String.length (text_of_closesInside hl ho hclose)
        rw [hfirst, String.length_append] at hlen
        have hpart : " ->".length = 3 := rfl
        omega
      selected := by
        rw [← hinner]
        refine ⟨fun h => ?_, fun h p => ?_⟩
        · simpa [LabelMatcher.selects] using h l.last
        · simp only [LabelMatcher.selects, h]
      opening := text_of_opensInside hl ho
      closing := text_of_closesInside hl ho }

/-- Both ends of this label stay, since it is nested, but the new element closes inside. -/
theorem within_ends_nested :
    (mk "-> x -> app").isEmpty = false ∧ "init ->" ≠ "" ∧ (mk "-> x -> app").Embeds "init ->" :=
  ⟨by decide, by decide, within_ends (by decide) (by decide)⟩

/-- No part of the law holds for all labels: one that begins with the rest of a separator loses that, and rules for its
innermost element do not select it any more; an element that ends with the beginning of a separator loses that. -/
theorem ends_lost :
    (¬∀ (l : Label) (outer : String), l.isEmpty = false → outer ≠ "" → (l.within outer).last = l.last) ∧
      (¬∀ (l : Label) (outer : String), l.isEmpty = false → outer ≠ "" → (l.within outer).first = (mk outer).first) ∧
      ¬∀ (l : Label) (outer : String), l.isEmpty = false → outer ≠ "" → ∀ p,
        (LabelMatcher.last p).selects (l.within outer) = (LabelMatcher.last p).selects l := by
  refine ⟨fun h => ?_, fun h => ?_, fun h => ?_⟩
  · have heq := h ⟨"-> worker"⟩ "init" (by decide) (by decide)
    exact absurd heq (by decide)
  · have heq := h ⟨"worker"⟩ "init ->" (by decide) (by decide)
    exact absurd heq (by decide)
  · have heq := h ⟨"-> worker"⟩ "init" (by decide) (by decide) "-> worker"
    exact absurd heq (by decide)

end Label

end SessionBroker
