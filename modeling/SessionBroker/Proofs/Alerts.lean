import SessionBroker.Proofs.ChildRequests
import SessionBroker.Proofs.Custody

/-!
# SessionBroker.Proofs.Alerts — providers that are woken for the requests posted at them

A provider that is woken finds the requests that are posted at that moment, and the broker logs them with the wakeup.

* `Alert.Shows a child e`: the service of a child is woken for an entry of the child's listing, and finds it posted.
* `Broker.Silent b b'`: nobody is woken.  `Broker.Unheard b b'`: nor is anything new listed for a child.
* `Broker.Rings b b' a`: one provider is woken for one session, whose entry it finds posted.
* `Broker.Alerts b as b'`: the providers in `as` are woken, in this order, and whatever is new in the listing of a child
  is shown to the child by one of them (`Alerts.trans`: on the way to a broker, and from there).
* `Broker.Posts b id c`: what can be done to one session.  At most one provider is woken, for it (`Posts.attends`).
-/

namespace SessionBroker

/-- A provider that is woken for a session, with the bell that rings and the requests that the provider finds posted. -/
structure Alert where
  session : ServerId
  provider : Provider
  bell : Option String
  requests : List (ServerId × Request)

namespace Alert

/-- What the broker logs of an alert. -/
def wakeup (a : Alert) : Wakeup where
  provider := a.provider
  requests := a.requests

/-- The service of a child is woken for an entry of the child's listing, and finds the entry posted. -/
structure Shows (a : Alert) (child : String) (e : ServerId × Request) : Prop where
  session : a.session = e.1
  provider : a.provider = .child child e.2.service
  bell : a.bell = some (child ++ "/" ++ e.2.service)
  posted : e ∈ a.requests

end Alert

theorem Provider.ne_child_of_sync {p : Provider} (hp : p.isAsync = false) (c n : String) : p ≠ .child c n := by
  rintro rfl
  cases hp

namespace Broker

variable {b b' c d : Broker} {id : ServerId} {s : Session} {p : Provider} {a : Alert} {child : String}
  {e : ServerId × Request} {request : Request}

/-- Nobody is woken. -/
structure Silent (b b' : Broker) : Prop where
  bells : b'.env.bells = b.env.bells
  woken : b'.woken = b.woken

/-- Nobody is woken, and nothing is listed for a child that was not listed before. -/
structure Unheard (b b' : Broker) : Prop extends Silent b b' where
  listed : ∀ child e, e ∈ b'.listing child → e ∈ b.listing child

/-- One provider is woken for one session.  What is new in the listing of a child is the entry of the session, which the
provider finds posted. -/
structure Rings (b b' : Broker) (a : Alert) : Prop where
  bells : b'.env.bells = b.env.bells ++ a.bell.toList
  woken : b'.woken = b.woken ++ [a.wakeup]
  others : ∀ child e, e.1 ≠ a.session → e ∈ b'.listing child → e ∈ b.listing child
  own : ∀ child request, (a.session, request) ∈ b'.listing child → a.Shows child (a.session, request)
  due : ∀ child service, a.provider = .child child service → ∃ request, (a.session, request) ∈ b'.listing child

/-- The providers in `as` are woken, in this order.  What is new in the listing of a child is shown to the child, and a
child that is woken is shown something. -/
structure Alerts (b : Broker) (as : List Alert) (b' : Broker) : Prop where
  bells : b'.env.bells = b.env.bells ++ as.filterMap (·.bell)
  woken : b'.woken = b.woken ++ as.map (·.wakeup)
  shown : ∀ child e, e ∈ b'.listing child → e ∉ b.listing child → ∃ a ∈ as, a.Shows child e
  due : ∀ a ∈ as, ∀ child service, a.provider = .child child service → ∃ request, a.Shows child (a.session, request)

theorem Rings.woken_ne (h : Rings b b' a) : b'.woken ≠ b.woken := by
  rw [h.woken]
  simp

namespace Silent

theorem refl (b : Broker) : Silent b b := ⟨rfl, rfl⟩

theorem trans (h : Silent b c) (h' : Silent c d) : Silent b d := ⟨h'.bells.trans h.bells, h'.woken.trans h.woken⟩

end Silent

namespace Unheard

theorem refl (b : Broker) : Unheard b b := ⟨.refl b, fun _ _ he => he⟩

theorem trans (h : Unheard b c) (h' : Unheard c d) : Unheard b d :=
  ⟨h.toSilent.trans h'.toSilent, fun child e he => h.listed child e (h'.listed child e he)⟩

end Unheard

namespace Alerts

variable {as as' : List Alert}

theorem of_unheard (h : Unheard b b') : Alerts b [] b' where
  bells := by rw [h.bells, List.filterMap_nil, List.append_nil]
  woken := by rw [h.woken, List.map_nil, List.append_nil]
  shown child e he hnew := absurd (h.listed child e he) hnew
  due _ ha := by cases ha

theorem of_rings (h : Rings b b' a) : Alerts b [a] b' where
  bells := by
    rw [h.bells]
    cases hbell : a.bell <;> simp [hbell]
  woken := h.woken
  shown child e he hnew := by
    have hid : e.1 = a.session := by
      by_contra hid
      exact hnew (h.others child e hid he)
    obtain ⟨id, request⟩ := e
    obtain rfl : id = a.session := hid
    exact ⟨a, List.mem_singleton_self a, h.own child request he⟩
  due a' ha := by
    obtain rfl := List.mem_singleton.1 ha
    intro child service hprovider
    obtain ⟨request, hmem⟩ := h.due child service hprovider
    exact ⟨request, h.own child request hmem⟩

/-- What is new was listed on the way, or is listed later. -/
theorem trans (h : Alerts b as c) (h' : Alerts c as' b') : Alerts b (as ++ as') b' where
  bells := by rw [h'.bells, h.bells, List.filterMap_append, List.append_assoc]
  woken := by rw [h'.woken, h.woken, List.map_append, List.append_assoc]
  shown child e he hnew := by
    by_cases hc : e ∈ c.listing child
    · obtain ⟨a, ha, hshows⟩ := h.shown child e hc hnew
      exact ⟨a, List.mem_append_left _ ha, hshows⟩
    · obtain ⟨a, ha, hshows⟩ := h'.shown child e he hc
      exact ⟨a, List.mem_append_right _ ha, hshows⟩
  due a ha := by
    rcases List.mem_append.1 ha with ha | ha
    · exact h.due a ha
    · exact h'.due a ha

end Alerts

theorem listing_wakeIfAsync (b : Broker) (p : Provider) (child : String) :
    (b.wakeIfAsync p).listing child = b.listing child := by
  unfold wakeIfAsync
  split <;> rfl

theorem Sound.of_wakeIfAsync (h : (b.wakeIfAsync p).Sound) : b.Sound := by
  unfold wakeIfAsync at h
  split at h
  · exact ⟨h.slots, h.builtIn, h.retries, h.posted, h.listed⟩
  · exact h

/-! ### What a session waits for -/

/-- Where sessions and requests fit each other, requests are in order. -/
theorem Sound.orderly (hb : b.Sound) : b.Orderly where
  posted p i id hi := by
    obtain ⟨⟨s, provider⟩, hs, hp, hdown⟩ := hb.posted p i id hi
    obtain rfl : provider = some p := hp
    exact ⟨s, hs, hdown, (hb.slots id _ hs).isAlive_of_downstream hdown⟩
  waiting id s hw := by
    have hslot := hb.slots id _ hw.found
    exact ⟨hslot.serverId, (hslot.unrouted rfl).1, (hslot.waiting hw.phase).2⟩

theorem Awaits.congr (hsame : b'.sessions.find? id = b.sessions.find? id) (h : b'.Awaits id child request) :
    b.Awaits id child request := by
  unfold Awaits at h ⊢
  rwa [hsame] at h

/-- Session `id` waits for no child. -/
def Idle (b : Broker) (id : ServerId) : Prop := ∀ child request, ¬b.Awaits id child request

theorem idle_of_due?_none {t : Slot} (hfound : b.sessions.find? id = some t) (hdue : t.session.due? = none) :
    b.Idle id := by
  rintro child request ⟨s, hs, -, hdue'⟩
  obtain rfl := Option.some.inj (hfound.symm.trans hs)
  cases hdue.symm.trans hdue'

theorem idle_of_owns (hown : b.Owns p id) (hp : ∀ c n, p ≠ .child c n) : b.Idle id := by
  rintro child request ⟨s, hs, -⟩
  exact hp _ _ (hown.eq hs)

theorem idle_of_unrouted (hfound : b.sessions.find? id = some ⟨s, none⟩) : b.Idle id := by
  rintro child request ⟨u, hu, -⟩
  cases hfound.symm.trans hu

theorem idle_of_absent (habsent : b.sessions.find? id = none) : b.Idle id := by
  rintro child request ⟨u, hu, -⟩
  cases habsent.symm.trans hu

/-- Nobody is woken, and no session begins to wait for a child. -/
theorem unheard_of_awaits (hb : b.Sound) (hb' : b'.Sound) (hsilent : Silent b b')
    (h : ∀ id child request, b'.Awaits id child request → b.Awaits id child request) : Unheard b b' :=
  ⟨hsilent, fun child e he => (mem_listing_iff hb).2 (h e.1 child e.2 ((mem_listing_iff hb').1 he))⟩

/-- Nobody is woken, and one session is touched, which waits for no child then. -/
theorem unheard_of_idle (hb : b.Sound) (hb' : b'.Sound) (hsilent : Silent b b')
    (hothers : ∀ j, j ≠ id → b'.sessions.find? j = b.sessions.find? j) (hidle : b'.Idle id) : Unheard b b' := by
  refine unheard_of_awaits hb hb' hsilent fun j child request h => ?_
  by_cases hj : j = id
  · subst hj
    exact absurd h (hidle child request)
  · exact h.congr (hothers j hj)

/-! ### Bells of children -/

/-- Every service of a child has a bell of its own. -/
def BellsNamed (b : Broker) : Prop :=
  ∀ child service u, b.providers.standing? (.child child service) = some u → u.bell = some (child ++ "/" ++ service)

theorem BellsNamed.of_stands (h : b.BellsNamed) (hstands : b.Stands b') : b'.BellsNamed := by
  intro child service u hu
  rw [hstands.providers.standing?_eq fun n hn => by cases hn] at hu
  exact h child service u hu

/-- The service of a session that waits for a child has its bell. -/
theorem BellsNamed.bell?_eq (h : b.BellsNamed) (hb : b.Sound) (hawaits : b.Awaits id child request) :
    b.providers.bell? (.child child request.service) = some (child ++ "/" ++ request.service) := by
  obtain ⟨s, hs, hdown, -⟩ := hawaits
  have hrefers : b.Refers id ⟨child, request.service⟩ request.id := ⟨_, hs, rfl, hdown⟩
  obtain ⟨v, hv⟩ := hrefers.exists_service hb
  have hstanding : b.providers.standing? (.child child request.service) =
      some { withdrawn := v.abandoned, bell := v.desk.bell } := by
    simp only [Registry.standing?, hv, Option.map_some]
  unfold Registry.bell?
  rw [hstanding, Option.bind_some]
  exact h child request.service _ hstanding

/-! ### What is done to one session -/

/-- A request of session `id` is in place, and then its provider is woken. -/
def Wakes (b : Broker) (id : ServerId) (p : Provider) (c : Broker) : Prop :=
  ∃ (d : Broker) (s : Session), c = d.wakeIfAsync p ∧ Silent b d ∧
    d.sessions.find? id = some ⟨s, some p⟩ ∧ s.downstream.isSome = true ∧ s.due?.isSome = true

/-- What is done to session `id`: nothing, or nobody is woken and it waits for no child, or its provider is woken. -/
inductive Posts (b : Broker) (id : ServerId) : Broker → Prop
  | same : Posts b id b
  | idle {c : Broker} : Silent b c → c.Idle id → Posts b id c
  | woken {c : Broker} {p : Provider} : p.isAsync = true → Wakes b id p c → Posts b id c

/-- Nothing is heard, or one provider is woken, for session `id`. -/
def Attends (b b' : Broker) (id : ServerId) : Prop := Unheard b b' ∨ ∃ a, a.session = id ∧ Rings b b' a

/-- A provider that answers later is woken for a request in its place, and finds it there. -/
theorem rings_of_wakes (hb : b.Sound) (hc : c.Sound) (hnamed : c.BellsNamed)
    (hothers : ∀ j, j ≠ id → c.sessions.find? j = b.sessions.find? j) (hp : p.isAsync = true) (h : Wakes b id p c) :
    ∃ a, a.session = id ∧ Rings b c a := by
  obtain ⟨d, s, heq, hsilent, hfound, hdown, hdue⟩ := h
  have hd : d.Sound := by
    rw [heq] at hc
    exact hc.of_wakeIfAsync
  have hlisting : ∀ child, c.listing child = d.listing child := fun child => by rw [heq, listing_wakeIfAsync]
  have hself : ∀ {child request}, (id, request) ∈ c.listing child → p = .child child request.service := by
    intro child request hmem
    rw [hlisting] at hmem
    obtain ⟨u, hu, -⟩ := (mem_listing_iff hd).1 hmem
    obtain ⟨-, hprovider⟩ := Slot.mk.inj (Option.some.inj (hfound.symm.trans hu))
    exact Option.some.inj hprovider
  have hshows : ∀ child request, (id, request) ∈ c.listing child →
      Alert.Shows ⟨id, p, c.providers.bell? p, d.requestsFor p⟩ child (id, request) := by
    intro child request hmem
    obtain rfl := hself hmem
    refine ⟨rfl, rfl, hnamed.bell?_eq hc ((mem_listing_iff hc).1 hmem), mem_requestsFor_child_iff.2 ⟨?_, rfl⟩⟩
    rw [← hlisting]
    exact hmem
  refine ⟨⟨id, p, c.providers.bell? p, d.requestsFor p⟩, rfl, ?_, ?_, fun child e he hmem => ?_, hshows,
    fun child service hchild => ?_⟩
  · rw [heq, wakeIfAsync_eq hd.builtIn hp]
    show (d.providers.wake d.env p).bells = _ ++ (d.providers.bell? p).toList
    rw [Registry.bells_wake hd.builtIn, hsilent.bells]
  · rw [heq, wakeIfAsync_eq hd.builtIn hp]
    show d.woken ++ [_] = _
    rw [hsilent.woken]
    rfl
  · exact (mem_listing_iff hb).2 (((mem_listing_iff hc).1 hmem).congr (hothers e.1 he))
  · obtain ⟨i, hi⟩ := Option.isSome_iff_exists.1 hdown
    obtain ⟨kind, hkind⟩ := Option.isSome_iff_exists.1 hdue
    obtain rfl : p = .child child service := hchild
    refine ⟨⟨service, i, kind⟩, ?_⟩
    rw [hlisting]
    exact (mem_listing_iff hd).2 ⟨s, hfound, hi, hkind⟩

theorem Posts.attends (h : Posts b id c) (hb : b.Sound) (hc : c.Sound) (hnamed : c.BellsNamed)
    (hothers : ∀ j, j ≠ id → c.sessions.find? j = b.sessions.find? j) : Attends b c id := by
  cases h with
  | same => exact .inl (.refl b)
  | idle hsilent hidle => exact .inl (unheard_of_idle hb hc hsilent hothers hidle)
  | woken hp hwakes => exact .inr (rings_of_wakes hb hc hnamed hothers hp hwakes)

end Broker

end SessionBroker
