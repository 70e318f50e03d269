import SessionBroker.Proofs.Changes

/-!
# SessionBroker.Proofs.Endings — sessions that end together

* `Broker.Ending`, `Broker.Endings`: sessions end and providers go, one after the other.
* `Broker.Ended b b' ids`: what came of it: the sessions `ids` ended, and the donation of each of them was requested
  back once.
* `Endings.ended`: sessions that end one after the other are refunded once each.
-/

namespace SessionBroker.Broker

variable {new : ServerId → Prop} {b b' b'' : Broker} {id : ServerId} {ids : List ServerId} {k : ChildKey}

/-- A session ends, or providers go. -/
inductive Ending : Broker → Broker → Prop
  | session {b b' : Broker} {id : ServerId} : Ends b b' id → Ending b b'
  | providers {b b' : Broker} : Rearranged b b' → Ending b b'

/-- Sessions end and providers go, one after the other. -/
def Endings : Broker → Broker → Prop := Relation.ReflTransGen Ending

theorem Ending.change (h : Ending b b') : Change new b b' := by
  cases h with
  | session h =>
    obtain ⟨t, t', ns, heffect, -, -⟩ := h.effect
    exact .session heffect
  | providers h => exact .providers h

/-- The sessions `ids` ended, and nothing happened to the others. -/
structure Ended (b b' : Broker) (ids : List ServerId) : Prop where
  nodup : ids.Nodup
  ended : ∀ id ∈ ids, (∃ t, b.sessions.find? id = some t ∧ t.session.phase.isEnded = false) ∧
    ∃ t, b'.sessions.find? id = some t ∧ t.session.phase.isEnded = true
  others : ∀ id, id ∉ ids → b'.sessions.find? id = b.sessions.find? id
  /-- What was donated for each of them was requested back once, and no other quota was moved. -/
  bank : b'.env.bank = ids.foldl b.repaid b.env.bank
  own : b'.env.own = b.env.own
  payees : ∀ id t, id ∉ ids → b.sessions.find? id = some t →
    t.session.phase.isEnded = true ∨ b'.payee t = b.payee t
  /-- No request was posted. -/
  requests : ∀ p i id, b'.providers.request? p i = some id → b.providers.request? p i = some id

namespace Ended

theorem refl (b : Broker) : Ended b b [] where
  nodup := List.nodup_nil
  ended _ h := by cases h
  others _ _ := rfl
  bank := rfl
  own := rfl
  payees _ _ _ _ := .inr rfl
  requests _ _ _ h := h

/-- One more session ends. -/
theorem ends (h : Ended b b' ids) (hb' : b'.Sound) (hends : Ends b' b'' id) : Ended b b'' (ids ++ [id]) := by
  obtain ⟨t, t', ns, heffect, hlive, hended⟩ := hends.effect
  have hnew : id ∉ ids := fun hid => by
    obtain ⟨u, hu, hover⟩ := (h.ended id hid).2
    obtain rfl := Option.some.inj (heffect.found.symm.trans hu)
    rw [hlive] at hover
    cases hover
  have hfound : b.sessions.find? id = some t := by rw [← h.others id hnew]; exact heffect.found
  have hpayee : b'.payee t = b.payee t := by
    rcases h.payees id t hnew hfound with hover | hsame
    · rw [hlive] at hover
      cases hover
    · exact hsame
  refine
    { nodup := ?_
      ended := fun j hj => ?_
      others := fun j hj => ?_
      bank := ?_
      own := ?_
      payees := fun j u hj hu => ?_
      requests := fun p i j hi => ?_ }
  · rw [List.nodup_append]
    refine ⟨h.nodup, List.nodup_singleton id, fun i hi j hj hij => hnew ?_⟩
    rw [← List.mem_singleton.1 hj, ← hij]
    exact hi
  · rcases List.mem_append.1 hj with hj | hj
    · have hne : j ≠ id := fun he => hnew (he ▸ hj)
      rw [hends.find?_of_ne hne]
      exact h.ended j hj
    · rw [List.mem_singleton.1 hj]
      exact ⟨⟨t, hfound, hlive⟩, hends.find?_self⟩
  · simp only [List.mem_append, List.mem_singleton, not_or] at hj
    rw [hends.find?_of_ne hj.2]
    exact h.others j hj.1
  · have hrepaid : ∀ bank, b'.repaid bank id = b.repaid bank id := fun bank => by
      simp only [repaid, heffect.found, hfound, hpayee, ownAccount, h.own]
    rw [hends.bank, hrepaid, h.bank, List.foldl_append]
    rfl
  · rw [heffect.own_eq, h.own]
  · simp only [List.mem_append, List.mem_singleton, not_or] at hj
    refine (h.payees j u hj.1 hu).imp_right fun hsame => ?_
    rw [heffect.payee_eq, hsame]
  · refine h.requests p i j ?_
    by_cases hj : j = id
    · subst hj
      obtain ⟨-, hdown⟩ := heffect.posted p i hi
      have hgone := ((heffect.sound hb').slots _ _ heffect.find?_self).ended hended
      rw [hgone.2.1] at hdown
      cases hdown
    · exact (heffect.others p i j hj).1 hi

/-- Providers go. -/
theorem rearranged (h : Ended b b' ids) (hr : Rearranged b' b'') : Ended b b'' ids where
  nodup := h.nodup
  ended id hid := by
    rw [hr.sessions]
    exact h.ended id hid
  others id hid := by
    rw [hr.sessions]
    exact h.others id hid
  bank := by rw [hr.env, h.bank]
  own := by rw [hr.env, h.own]
  payees id t hid ht := by
    have ht' : b'.sessions.find? id = some t := by rw [h.others id hid, ht]
    rcases h.payees id t hid ht with hended | hsame
    · exact .inl hended
    · rw [← hsame]
      unfold payee
      cases hp : t.provider with
      | none => exact .inr rfl
      | some p => exact hr.account id t p ht' hp
  requests p i id hi := h.requests p i id (hr.posted p i id hi)

end Ended

namespace Endings

theorem refl (b : Broker) : Endings b b := Relation.ReflTransGen.refl

theorem single (h : Ending b b') : Endings b b' := Relation.ReflTransGen.single h

theorem trans (h : Endings b b') (h' : Endings b' b'') : Endings b b'' := Relation.ReflTransGen.trans h h'

theorem changes (h : Endings b b') : Changes new b b' := by
  induction h with
  | refl => exact .refl _
  | tail _ h ih => exact ih.trans (.single h.change)

theorem sound (h : Endings b b') (hb : b.Sound) : b'.Sound :=
  Changes.sound (h.changes : Changes (fun _ => True) b b') hb

/-- Each of the sessions that end is refunded once. -/
theorem ended (h : Endings b b') (hb : b.Sound) : ∃ ids, Ended b b' ids := by
  induction h with
  | refl => exact ⟨[], .refl b⟩
  | tail hends hlast ih =>
    obtain ⟨ids, hids⟩ := ih
    cases hlast with
    | session h => exact ⟨_, hids.ends (Endings.sound hends hb) h⟩
    | providers h => exact ⟨ids, hids.rearranged h⟩

/-- Steps one after the other, in each of which sessions end. -/
theorem foldl {α : Type} {f : Broker → α → Broker} (h : ∀ b x, b.Sound → Endings b (f b x)) :
    ∀ (l : List α) (b : Broker), b.Sound → Endings b (l.foldl f b)
  | [], b, _ => refl b
  | x :: l, b, hb => (h b x hb).trans (foldl h l (f b x) ((h b x hb).sound hb))

end Endings

end SessionBroker.Broker
