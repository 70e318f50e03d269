import SessionBroker.Proofs.LocalObjects
import SessionBroker.Proofs.Standing

/-!
# SessionBroker.Proofs.Places — the places of objects that sessions refer to

A session refers to its object by a place in the registry of its service, and the service is found by its name.  So it
is the service behind the name that has to stay the same, not the name.

* `Broker.object? b id`: the object that session `id` refers to.
* `Broker.Shelving op b b' n l'`: what a part of an operation does to the objects of service `n` and to the places that
  sessions refer to (`shelving_part`).
* `Broker.Shelves`: the sessions of a service refer to places that were given out, each to its own.
* `Op.RegistersNew`: a service that is registered replaces none that a session needs.
* `preserves_step`: then places stay in order, and every session keeps its object until it is closed.
-/

namespace SessionBroker

/-- A provider leaves the other services of this component as they are. -/
theorem Registry.locals_initiate? {r : Registry} {s : Session} {env : Env} {p : Provider} {o : Outcome Registry}
    {n : String} (h : r.initiate? s env p = some o) (hp : p ≠ .here n) :
    o.service.locals.find? n = r.locals.find? n := by
  cases p with
  | here k =>
    obtain ⟨v, -, rfl⟩ := Option.map_eq_some_iff.1 h
    have hk : n ≠ k := fun h => hp (by rw [h])
    exact Table.find?_insert_of_ne _ _ hk
  | later k | parent k | child c k =>
    obtain ⟨v, -, rfl⟩ := Option.map_eq_some_iff.1 h
    rfl

namespace Broker

variable {new : ServerId → Prop} {op : Op} {b b' c : Broker} {id : ServerId} {n : String} {l l' : LocalService}
  {m : ObjectMark}

/-! ### The object of a session -/

/-- The service of this component that has a name. -/
def local? (b : Broker) (n : String) : Option LocalService :=
  match b.providers.locals.find? n with
  | some (.made l) => some l
  | _ => none

/-- The object that a session refers to. -/
def object? (b : Broker) (id : ServerId) : Option ObjectMark :=
  match b.sessions.find? id with
  | some ⟨s, some (.here n)⟩ => (b.local? n).bind fun l => s.place?.bind l.mark?
  | _ => none

theorem local?_iff : b.local? n = some l ↔ b.providers.locals.find? n = some (.made l) := by
  unfold local?
  cases b.providers.locals.find? n with
  | none => simp
  | some v => cases v <;> simp

theorem object?_iff : b.object? id = some m ↔ ∃ s n l a, b.sessions.find? id = some ⟨s, some (.here n)⟩ ∧
    b.local? n = some l ∧ s.place? = some a ∧ l.mark? a = some m := by
  unfold object?
  split
  · rename_i s n hfound
    rw [hfound]
    constructor
    · intro h
      obtain ⟨l, hl, h⟩ := Option.bind_eq_some_iff.1 h
      obtain ⟨a, ha, h⟩ := Option.bind_eq_some_iff.1 h
      exact ⟨s, n, l, a, rfl, hl, ha, h⟩
    · rintro ⟨s', n', l, a, hsame, hl, ha, h⟩
      cases hsame
      simp [hl, ha, h]
  · rename_i hnot
    refine ⟨fun h => (by cases h), ?_⟩
    rintro ⟨s, n, l, a, hfound, -⟩
    exact absurd hfound (hnot s n)

/-! ### What parts of operations do to objects -/

/-- What a part of an operation does to the objects of service `n`, and to the places that sessions refer to. -/
inductive Shelving (op : Op) (b b' : Broker) (n : String) (l' : LocalService) : Prop
  /-- The service is registered. -/
  | registered (operation : op = .registerLocal (.made l')) (name : l'.name = n) (sessions : b'.sessions = b.sessions)
  /-- Objects and places stay. -/
  | kept (l : LocalService) (service : b.local? n = some l) (keeps : l.Keeps l')
      (back : ∀ id s a, b'.sessions.find? id = some ⟨s, some (.here n)⟩ → s.place? = some a →
        ∃ u, b.sessions.find? id = some ⟨u, some (.here n)⟩ ∧ u.place? = some a)
      (forth : ∀ id s, b.sessions.find? id = some ⟨s, some (.here n)⟩ → b'.isLive id = true →
        ∃ u, b'.sessions.find? id = some ⟨u, some (.here n)⟩ ∧ u.place? = s.place?)
  /-- An object is made for a session that was not routed before. -/
  | made (l : LocalService) (id : ServerId) (s s' : Session) (m : ObjectMark) (service : b.local? n = some l)
      (found : b.sessions.find? id = some ⟨s, none⟩) (makes : l.Makes l' m)
      (sessions : b'.sessions = b.sessions.modify id fun _ => ⟨s', some (.here n)⟩)
      (place : s'.place? = some l.nextSlot)
  /-- The object of a session goes, and the session is closed. -/
  | dropped (l : LocalService) (id : ServerId) (s s' : Session) (service : b.local? n = some l)
      (found : b.sessions.find? id = some ⟨s, some (.here n)⟩) (drops : l.Drops l' s.place?)
      (sessions : b'.sessions = b.sessions.modify id fun _ => ⟨s', some (.here n)⟩)
      (place : s'.place? = none) (closed : s'.phase = .closed)

namespace Shelving

theorem of_sessions (hl : b.local? n = some l') (hsessions : b'.sessions = b.sessions) : Shelving op b b' n l' := by
  refine .kept l' hl (.refl l') (fun id s a hfound ha => ?_) fun id s hfound _ => ?_
  · rw [hsessions] at hfound
    exact ⟨s, hfound, ha⟩
  · rw [hsessions]
    exact ⟨s, hfound, rfl⟩

/-- One session is stored anew. -/
theorem of_modify {t t' : Slot} (hl : b.local? n = some l) (hkeeps : l.Keeps l') (hfound : b.sessions.find? id = some t)
    (hsessions : b'.sessions = b.sessions.modify id fun _ => t')
    (hback : t'.provider = some (.here n) → ∀ a, t'.session.place? = some a →
      t.provider = some (.here n) ∧ t.session.place? = some a)
    (hforth : t.provider = some (.here n) → t'.provider = some (.here n) ∧ t'.session.place? = t.session.place?) :
    Shelving op b b' n l' := by
  obtain ⟨s, provider⟩ := t
  obtain ⟨s', provider'⟩ := t'
  have hafter : ∀ {j v}, b'.sessions.find? j = some v ↔
      j = id ∧ ⟨s', provider'⟩ = v ∨ j ≠ id ∧ b.sessions.find? j = some v := by
    intro j v
    rw [hsessions]
    exact Table.find?_set_eq_some hfound
  refine .kept l hl hkeeps (fun j u a hu ha => ?_) fun j u hu _ => ?_
  · rcases hafter.1 hu with ⟨rfl, hself⟩ | ⟨-, hu⟩
    · obtain ⟨rfl, rfl⟩ := Slot.mk.inj hself
      obtain ⟨rfl, hplace⟩ := hback rfl a ha
      exact ⟨s, hfound, hplace⟩
    · exact ⟨u, hu, ha⟩
  · by_cases hj : j = id
    · subst hj
      obtain ⟨rfl, rfl⟩ := Slot.mk.inj (Option.some.inj (hfound.symm.trans hu))
      obtain ⟨rfl, hplace⟩ := hforth rfl
      exact ⟨s', hafter.2 (.inl ⟨rfl, rfl⟩), hplace⟩
    · exact ⟨u, hafter.2 (.inr ⟨hj, hu⟩), rfl⟩

end Shelving

theorem place?_of_handle {s s' : Session} (h : s'.handle = s.handle) : s'.place? = s.place? := by
  unfold Session.place?
  rw [h]

theorem place?_of_handle_none {s : Session} (h : s.handle = none) : s.place? = none := by
  unfold Session.place?
  rw [h]
  rfl

/-- A session that was not routed has no object. -/
theorem place?_of_unrouted (hb : b.Sound) {t : Slot} (hfound : b.sessions.find? id = some t)
    (hunrouted : t.provider = none) : t.session.place? = none := by
  have hsound := hb.slots id t hfound
  refine place?_of_handle_none ?_
  rcases (hsound.unrouted hunrouted).2 with hphase | hended
  · exact (hsound.waiting hphase).1
  · exact (hsound.ended hended).1

/-- A service that works on a session of its own. -/
theorem shelving_initiate (hb : b.Sound) {t : Slot} {phase : Phase} {s s' : Session} {env : Env}
    (hl : b.local? n = some l) (hfound : b.sessions.find? id = some t)
    (hprovider : t.provider = if phase = .createRequested then none else some (.here n)) (hphase : s.phase = phase)
    (hhandle : s.handle = t.session.handle)
    (hsessions : b'.sessions = b.sessions.modify id fun _ => ⟨s', some (.here n)⟩)
    (hhandle' : s'.handle = (l.initiate s env).session.handle)
    (hphase' : phase = .closeRequested → s'.phase = (l.initiate s env).session.phase) :
    Shelving op b b' n (l.initiate s env).service := by
  have hplace : s.place? = t.session.place? := place?_of_handle hhandle
  obtain ⟨u, provider⟩ := t
  have hkept : l.Keeps (l.initiate s env).service → (l.initiate s env).session.handle = s.handle →
      Shelving op b b' n (l.initiate s env).service := by
    intro hkeeps hsame
    have hplace' : s'.place? = u.place? := (place?_of_handle (hhandle'.trans hsame)).trans hplace
    refine .of_modify hl hkeeps hfound hsessions (fun _ a ha => ?_) fun _ => ⟨rfl, hplace'⟩
    have ha : s'.place? = some a := ha
    rw [hplace'] at ha
    refine ⟨?_, ha⟩
    by_cases hcreate : phase = .createRequested
    · rw [if_pos hcreate] at hprovider
      cases ha.symm.trans (place?_of_unrouted hb hfound hprovider)
    · rw [if_neg hcreate] at hprovider
      exact hprovider
  subst hphase
  cases hp : s.phase with
  | createRequested =>
    have hinit : l.initiate s env = l.create s env := by simp [LocalService.initiate, hp]
    rw [hinit] at hkept hhandle' ⊢
    rw [if_pos hp] at hprovider
    obtain rfl : provider = none := hprovider
    rcases l.create_cases s env with ⟨hkeeps, hsame⟩ | ⟨m, hmakes, hmade⟩
    · exact hkept hkeeps hsame
    · refine .made l id u s' m hl hfound hmakes hsessions ?_
      unfold Session.place?
      rw [hhandle', hmade]
      rfl
  | upgradeRequested =>
    have hinit : l.initiate s env = l.upgrade s env := by simp [LocalService.initiate, hp]
    rw [hinit] at hkept ⊢
    obtain ⟨hkeeps, hsame⟩ := l.keeps_upgrade s env
    exact hkept hkeeps hsame
  | closeRequested =>
    have hinit : l.initiate s env = l.close s env := by simp [LocalService.initiate, hp]
    rw [hinit] at hhandle' hphase' ⊢
    rw [if_neg (by rw [hp]; exact Phase.noConfusion)] at hprovider
    obtain rfl : provider = some (.here n) := hprovider
    obtain ⟨hdrops, hnone, hclosed⟩ := l.drops_close s env
    rw [hplace] at hdrops
    exact .dropped l id u s' hl hfound hdrops hsessions (place?_of_handle_none (hhandle'.trans hnone))
      ((hphase' hp).trans (hclosed hp))
  | available | capHandedOut | closed | serviceDenied | insufficientRam | insufficientCaps =>
    have hinit : l.initiate s env = { service := l, session := s, env := env } := by simp [LocalService.initiate, hp]
    rw [hinit] at hkept ⊢
    exact hkept (.refl l) rfl

theorem local?_congr (h : b'.providers.locals.find? n = b.providers.locals.find? n) : b'.local? n = b.local? n := by
  unfold local?
  rw [h]

theorem shelving_turn {phase : Phase} (hb : b.Sound) (h : Turn phase b b' id) (hl : b'.local? n = some l') :
    Shelving op b b' n l' := by
  cases h with
  | idle hsame =>
    rw [hsame] at hl ⊢
    exact .of_sessions hl rfl
  | stored t t' hfound hunrouted hsessions _ hhandle _ hlocals =>
    have hsame : b'.local? n = b.local? n := local?_congr (by rw [hlocals])
    have hplace : t'.session.place? = none := (place?_of_handle hhandle).trans (place?_of_unrouted hb hfound hunrouted)
    refine .of_modify (hsame.symm.trans hl) (.refl l') hfound hsessions (fun _ a ha => ?_) fun hp => ?_
    · cases hplace.symm.trans ha
    · cases hunrouted.symm.trans hp
  | lost s s' p hfound _ hgone hsessions hlocals =>
    have hsame : b'.local? n = b.local? n := local?_congr (by rw [hlocals])
    have hp : p ≠ .here n := by
      rintro rfl
      have hthere : b.providers.contains (.here n) = true :=
        Table.contains_eq_true.2 ⟨_, local?_iff.1 (hsame.symm.trans hl)⟩
      rw [hgone] at hthere
      cases hthere
    refine .of_modify (hsame.symm.trans hl) (.refl l') hfound hsessions (fun h _ _ => ?_) fun h => ?_
    · exact absurd (Option.some.inj h) hp
    · exact absurd (Option.some.inj h) hp
  | worked t p s s' r env o hfound hprovider hphase hhandle _ hlocals _ hgiven _ hproviders hsessions hhandle' _ hphase' =>
    have hfind : b'.providers.locals.find? n = o.service.locals.find? n := by rw [hproviders]
    by_cases hp : p = .here n
    · subst hp
      obtain ⟨v, hv, rfl⟩ := Option.map_eq_some_iff.1 hgiven
      rw [hlocals] at hv
      obtain ⟨l, rfl⟩ := hb.builtIn.locals n v hv
      obtain rfl : (l.initiate s env).service = l' := by
        rw [local?_iff, hfind] at hl
        have hself : (r.locals.insert n (Service.initiate (.made l) s env).service).find? n =
            some (.made (l.initiate s env).service) := Table.find?_insert_self _ _ _
        exact Service.made.inj (Option.some.inj (hself.symm.trans hl))
      exact shelving_initiate hb (local?_iff.2 hv) hfound hprovider hphase hhandle hsessions hhandle' hphase'
    · have hsame : b'.local? n = b.local? n := by
        refine local?_congr ?_
        rw [hfind, Registry.locals_initiate? hgiven hp, hlocals]
      refine .of_modify (hsame.symm.trans hl) (.refl l') hfound hsessions (fun h _ _ => ?_) fun h => ?_
      · exact absurd (Option.some.inj h) hp
      · rw [hprovider] at h
        split at h
        · cases h
        · exact absurd (Option.some.inj h) hp

theorem shelving_restores {p : Provider} (hp : p.isAsync = true) (h : b' = b ∨ Restores b b' id p)
    (hl : b'.local? n = some l') : Shelving op b b' n l' := by
  rcases h with hsame | h
  · rw [hsame] at hl ⊢
    exact .of_sessions hl rfl
  · obtain ⟨s, s', hfound, hsessions⟩ := h.sessions
    have hsame : b'.local? n = b.local? n := local?_congr (by rw [h.locals])
    have hp : p ≠ .here n := by
      rintro rfl
      cases hp
    refine .of_modify (hsame.symm.trans hl) (.refl l') hfound hsessions (fun h _ _ => ?_) fun h => ?_
    · exact absurd (Option.some.inj h) hp
    · exact absurd (Option.some.inj h) hp

theorem shelving_part (hb : b.Sound) (h : Part new op b b') (hl : b'.local? n = some l') : Shelving op b b' n l' := by
  cases h with
  | routed id => exact shelving_turn hb (turn_route b id) hl
  | upgraded id q => exact shelving_turn hb (turn_upgrade b id q) hl
  | closed id => exact shelving_turn hb (turn_close b id) hl
  | answered p id r hp hserves =>
    exact shelving_restores hp (restores_applyResponse (fun t ht => (hserves t ht).1) r) hl
  | dismissed k id => exact shelving_restores rfl (restores_dismiss b k id) hl
  | provided hrearranged hlocals =>
    have hsame : b'.local? n = b.local? n := local?_congr (by rw [hlocals])
    exact .of_sessions (hsame.symm.trans hl) hrearranged.sessions
  | registered l hop =>
    by_cases hn : n = l.name
    · subst hn
      obtain rfl : l = l' := by
        have hself : (b.providers.locals.insert l.name (.made l)).find? l.name = some (.made l) :=
          Table.find?_insert_self _ _ _
        exact Service.made.inj (Option.some.inj (hself.symm.trans (local?_iff.1 hl)))
      exact .registered hop rfl rfl
    · have hsame : local? { b with providers.locals := b.providers.locals.insert l.name (.made l) } n = b.local? n :=
        local?_congr (Table.find?_insert_of_ne _ _ hn)
      exact .of_sessions (hsame.symm.trans hl) rfl
  | opened d | malformed id => exact .of_sessions hl rfl
  | forgotten keep =>
    refine .kept l' hl (.refl l') (fun id s a hfound ha => ⟨s, Table.find?_of_filter hfound, ha⟩)
      fun id s hfound hlive => ?_
    obtain ⟨t, ht, -⟩ := isLive_iff.1 hlive
    obtain rfl := Option.some.inj (hfound.symm.trans (Table.find?_of_filter ht))
    exact ⟨s, ht, rfl⟩
  | admitted id s _ habsent =>
    refine .kept l' hl (.refl l') (fun j u a hfound ha => ?_) fun j u hfound _ => ?_
    · by_cases hj : j = id
      · subst hj
        cases (Table.find?_insert_self _ _ _).symm.trans hfound
      · exact ⟨u, (Table.find?_insert_of_ne _ _ hj).symm.trans hfound, ha⟩
    · have hj : j ≠ id := by
        rintro rfl
        cases habsent.symm.trans hfound
      exact ⟨u, (Table.find?_insert_of_ne _ _ hj).trans hfound, rfl⟩

/-! ### Places and objects -/

/-- The sessions of a service refer to places that it gave out, each to its own. -/
structure Shelved (b : Broker) (n : String) (l : LocalService) : Prop where
  numbered : l.Numbered
  bounded : ∀ id s a, b.sessions.find? id = some ⟨s, some (.here n)⟩ → s.place? = some a → a.val < l.made
  apart : ∀ id id' s s' a, b.sessions.find? id = some ⟨s, some (.here n)⟩ →
    b.sessions.find? id' = some ⟨s', some (.here n)⟩ → s.place? = some a → s'.place? = some a → id = id'

/-- Services are registered under their names, and while a service has given out at most `2 ^ 64` places, they are in
order. -/
structure Shelves (b : Broker) : Prop where
  named : ∀ n l, b.local? n = some l → l.name = n
  shelved : ∀ n l, b.local? n = some l → l.made ≤ 0x10000000000000000 → b.Shelved n l

/-- No session that is not over is of the service that is registered, and it has no objects yet. -/
def Op.RegistersNew (b : Broker) : Op → Prop
  | .registerLocal (.made l) => l.objects = ∅ ∧ ∀ id s, b.sessions.find? id = some ⟨s, some (.here l.name)⟩ →
      s.phase.isEnded = true
  | _ => True

namespace Shelved

theorem of_new (hempty : l.objects = ∅)
    (hnone : ∀ id s a, b.sessions.find? id = some ⟨s, some (.here n)⟩ → s.place? ≠ some a) : b.Shelved n l :=
  ⟨.of_empty hempty, fun id s a hfound ha => absurd ha (hnone id s a hfound),
    fun id _ s _ a hfound _ ha _ => absurd ha (hnone id s a hfound)⟩

theorem keeps (h : b.Shelved n l) (hkeeps : l.Keeps l')
    (hback : ∀ id s a, b'.sessions.find? id = some ⟨s, some (.here n)⟩ → s.place? = some a →
      ∃ u, b.sessions.find? id = some ⟨u, some (.here n)⟩ ∧ u.place? = some a) : b'.Shelved n l' := by
  refine ⟨h.numbered.keeps hkeeps, fun id s a hfound ha => ?_, fun id id' s s' a hfound hfound' ha ha' => ?_⟩
  · obtain ⟨u, hu, hplace⟩ := hback id s a hfound ha
    rw [hkeeps.made]
    exact h.bounded id u a hu hplace
  · obtain ⟨u, hu, hplace⟩ := hback id s a hfound ha
    obtain ⟨u', hu', hplace'⟩ := hback id' s' a hfound' ha'
    exact h.apart id id' u u' a hu hu' hplace hplace'

variable {t : Slot} {s' : Session}

/-- A new object gets a place to which no other session refers. -/
theorem makes (h : b.Shelved n l) (hmakes : l.Makes l' m) (hfew : l'.made ≤ 0x10000000000000000)
    (hfound : b.sessions.find? id = some t)
    (hsessions : b'.sessions = b.sessions.modify id fun _ => ⟨s', some (.here n)⟩)
    (hplace : s'.place? = some l.nextSlot) : b'.Shelved n l' := by
  have hmade := hmakes.made
  have hnext : l.nextSlot.val = l.made := Nat.mod_eq_of_lt (by omega)
  -- every other session refers to a place that was given out before
  have hcases : ∀ j u a, b'.sessions.find? j = some ⟨u, some (.here n)⟩ → u.place? = some a →
      j = id ∧ a = l.nextSlot ∨ j ≠ id ∧ b.sessions.find? j = some ⟨u, some (.here n)⟩ ∧ a.val < l.made := by
    intro j u a hu ha
    rw [hsessions, Table.find?_set_eq_some hfound] at hu
    rcases hu with ⟨hj, hself⟩ | ⟨hj, hu⟩
    · obtain ⟨rfl, -⟩ := Slot.mk.inj hself
      exact .inl ⟨hj, Option.some.inj (ha.symm.trans hplace)⟩
    · exact .inr ⟨hj, hu, h.bounded j u a hu ha⟩
  refine ⟨h.numbered.makes hmakes, fun j u a hu ha => ?_, fun j j' u u' a hu hu' ha ha' => ?_⟩
  · rcases hcases j u a hu ha with ⟨-, rfl⟩ | ⟨-, -, hlt⟩ <;> omega
  · rcases hcases j u a hu ha with ⟨rfl, rfl⟩ | ⟨-, hu, hlt⟩ <;>
      rcases hcases j' u' _ hu' ha' with ⟨rfl, hnext'⟩ | ⟨-, hu', hlt'⟩
    · rfl
    · omega
    · rw [hnext'] at hlt
      omega
    · exact h.apart j j' u u' a hu hu' ha ha'

/-- The place of an object that goes is referred to by nobody. -/
theorem drops (h : b.Shelved n l) {place : Option Word} (hdrops : l.Drops l' place)
    (hfound : b.sessions.find? id = some t)
    (hsessions : b'.sessions = b.sessions.modify id fun _ => ⟨s', some (.here n)⟩)
    (hplace : s'.place? = none) : b'.Shelved n l' := by
  have hback : ∀ j u a, b'.sessions.find? j = some ⟨u, some (.here n)⟩ → u.place? = some a →
      b.sessions.find? j = some ⟨u, some (.here n)⟩ := by
    intro j u a hu ha
    rw [hsessions, Table.find?_set_eq_some hfound] at hu
    rcases hu with ⟨-, hself⟩ | ⟨-, hu⟩
    · obtain ⟨rfl, -⟩ := Slot.mk.inj hself
      cases hplace.symm.trans ha
    · exact hu
  refine ⟨h.numbered.drops hdrops, fun j u a hu ha => ?_, fun j j' u u' a hu hu' ha ha' => ?_⟩
  · rw [hdrops.made]
    exact h.bounded j u a (hback j u a hu ha) ha
  · exact h.apart j j' u u' a (hback j u a hu ha) (hback j' u' a hu' ha') ha ha'

end Shelved

theorem Shelving.shelved (h : Shelving op b b' n l') (hb : b.Sound) (hshelves : b.Shelves) (hnew : op.RegistersNew b)
    (hfew : l'.made ≤ 0x10000000000000000) : b'.Shelved n l' := by
  cases h with
  | registered hop hname hsessions =>
    rw [hop] at hnew
    obtain ⟨hempty, hended⟩ := hnew
    refine .of_new hempty fun id s a hfound ha => ?_
    rw [hsessions] at hfound
    have hover := ((hb.slots id _ hfound).ended (hended id s (by rw [hname]; exact hfound))).1
    cases (place?_of_handle_none hover).symm.trans ha
  | kept l hl hkeeps hback _ =>
    have hmade := hkeeps.made
    exact (hshelves.shelved n l hl (by omega)).keeps hkeeps hback
  | made l id s s' m hl hfound hmakes hsessions hplace =>
    have hmade := hmakes.made
    exact (hshelves.shelved n l hl (by omega)).makes hmakes hfew hfound hsessions hplace
  | dropped l id s s' hl hfound hdrops hsessions hplace _ =>
    have hmade := hdrops.made
    exact (hshelves.shelved n l hl (by omega)).drops hdrops hfound hsessions hplace

theorem Shelving.named (h : Shelving op b b' n l') (hshelves : b.Shelves) : l'.name = n := by
  cases h with
  | registered _ hname => exact hname
  | kept l hl hkeeps => exact hkeeps.name.trans (hshelves.named n l hl)
  | made l id s s' m hl _ hmakes => exact hmakes.name.trans (hshelves.named n l hl)
  | dropped l id s s' hl _ hdrops => exact hdrops.name.trans (hshelves.named n l hl)

theorem shelves_part (hb : b.Sound) (hshelves : b.Shelves) (hnew : op.RegistersNew b) (h : Part new op b b') :
    b'.Shelves :=
  ⟨fun _ _ hl => (shelving_part hb h hl).named hshelves,
    fun _ _ hl hfew => (shelving_part hb h hl).shelved hb hshelves hnew hfew⟩

/-- A service of this component stays, or it is replaced. -/
theorem local?_part (hb : b.Sound) (h : Part new op b b') (hl : b.local? n = some l) : ∃ l', b'.local? n = some l' := by
  have hthere : b.providers.contains (.here n) = true := Table.contains_eq_true.2 ⟨_, local?_iff.1 hl⟩
  have hthere' : b'.providers.contains (.here n) = true := by
    cases h with
    | routed id => exact (chores_route b id).stands.contains hthere
    | upgraded id q => exact (chores_upgrade b id q).stands.contains hthere
    | closed id => exact (chores_close b id).stands.contains hthere
    | answered p id r => exact (chores_applyResponse b id p r).stands.contains hthere
    | dismissed k id => exact (chores_dismiss b id k).stands.contains hthere
    | provided _ hlocals =>
      show b'.providers.locals.contains n = true
      rw [hlocals]
      exact hthere
    | registered l =>
      refine Table.contains_eq_true.2 ?_
      by_cases hn : n = l.name
      · exact ⟨_, by rw [hn, Table.find?_insert_self]⟩
      · rw [Table.find?_insert_of_ne _ _ hn]
        exact Table.contains_eq_true.1 hthere
    | opened d | forgotten keep | malformed id | admitted id s => exact hthere
  obtain ⟨v, hv⟩ := Table.contains_eq_true.1 hthere'
  obtain ⟨l', rfl⟩ := (h.sound hb).builtIn.locals n v hv
  exact ⟨l', local?_iff.2 hv⟩

/-- Until it is closed, session `id` refers to a place of a service that has given out at least `k`, and to object `m`
in it while that are at most `2 ^ 64`. -/
def KeepsObject (b : Broker) (id : ServerId) (m : ObjectMark) (k : Nat) : Prop :=
  b.isLive id = true → ∃ s l a, b.sessions.find? id = some ⟨s, some (.here m.service)⟩ ∧
    b.local? m.service = some l ∧ s.place? = some a ∧ k ≤ l.made ∧
    (l.made ≤ 0x10000000000000000 → l.mark? a = some m)

theorem keepsObject_part {k : Nat} (hb : b.Sound) (hshelves : b.Shelves) (hnew : op.RegistersNew b)
    (h : Part new op b b') (hid : ¬new id) (hm : b.KeepsObject id m k) : b'.KeepsObject id m k := by
  intro hlive
  obtain ⟨s, l, a, hfound, hl, ha, hk, hmark⟩ := hm ((h.changes hb).isLive hid hlive)
  obtain ⟨l', hl'⟩ := local?_part hb h hl
  cases shelving_part hb h hl' with
  | registered hop hname =>
    -- the session needs the service, so it is not replaced
    rw [hop] at hnew
    have hended := hnew.2 id s (by rw [hname]; exact hfound)
    cases (place?_of_handle_none ((hb.slots id _ hfound).ended hended).1).symm.trans ha
  | kept l₀ hl₀ hkeeps _ hforth =>
    obtain rfl := Option.some.inj (hl.symm.trans hl₀)
    obtain ⟨u, hu, hplace⟩ := hforth id s hfound hlive
    have hmade := hkeeps.made
    refine ⟨u, l', a, hu, hl', hplace.trans ha, by omega, fun hfew => ?_⟩
    rw [hkeeps.marks]
    exact hmark (by omega)
  | made l₀ id₀ s₀ s' m₀ hl₀ hfound₀ hmakes hsessions =>
    obtain rfl := Option.some.inj (hl.symm.trans hl₀)
    have hne : id ≠ id₀ := by
      rintro rfl
      cases hfound.symm.trans hfound₀
    have hmade := hmakes.made
    refine ⟨s, l', a, ?_, hl', ha, by omega, fun hfew => ?_⟩
    · rw [hsessions, Table.find?_modify_of_ne _ _ hne]
      exact hfound
    · have hlt := (hshelves.shelved _ l hl (by omega)).bounded id s a hfound ha
      rw [hmakes.marks, if_neg (LocalService.ne_nextSlot (by omega) hlt)]
      exact hmark (by omega)
  | dropped l₀ id₀ s₀ s' hl₀ hfound₀ hdrops hsessions _ hclosed =>
    obtain rfl := Option.some.inj (hl.symm.trans hl₀)
    have hne : id ≠ id₀ := by
      rintro rfl
      have hself : b'.sessions.find? id = some ⟨s', some (.here m.service)⟩ := by
        rw [hsessions, Table.find?_modify_of _ hfound₀]
      rw [not_isLive_of_closed hself hclosed] at hlive
      cases hlive
    have hmade := hdrops.made
    refine ⟨s, l', a, ?_, hl', ha, by omega, fun hfew => ?_⟩
    · rw [hsessions, Table.find?_modify_of_ne _ _ hne]
      exact hfound
    · have hother : s₀.place? ≠ some a := by
        intro ha₀
        exact hne ((hshelves.shelved _ l hl (by omega)).apart id id₀ s s₀ a hfound hfound₀ ha ha₀)
      rw [hdrops.marks, if_neg hother]
      exact hmark (by omega)

/-! ### Operations and histories -/

/-- Places are in order afterwards, and the sessions that do not start keep their objects. -/
structure Preserves (new : ServerId → Prop) (b b' : Broker) : Prop where
  shelves : b'.Shelves
  keepsObject : ∀ id m k, ¬new id → b.KeepsObject id m k → b'.KeepsObject id m k

theorem preserves_parts (hb : b.Sound) (hshelves : b.Shelves) (hnew : ∀ c, op.RegistersNew c) (h : Parts new op b b') :
    Preserves new b b' := by
  have hparts := h.induction (R := fun c d => c.Shelves → Preserves new c d) hb
    (fun c hc => ⟨hc, fun _ _ _ _ hm => hm⟩)
    (fun c d e hcd hde hc => by
      have hcd := hcd hc
      have hde := hde hcd.shelves
      exact ⟨hde.shelves, fun id m k hid hm => hde.keepsObject id m k hid (hcd.keepsObject id m k hid hm)⟩)
    fun c d hcsound hpart hc => ⟨shelves_part hcsound hc (hnew c) hpart,
      fun _ _ _ hid hm => keepsObject_part hcsound hc (hnew c) hpart hid hm⟩
  exact hparts.2 hshelves

/-- An operation that registers new services only. -/
theorem preserves_step (hb : b.Sound) (hshelves : b.Shelves) (hop : op.IsBuiltIn) (hnew : op.RegistersNew b) :
    Preserves (op.Opens b) b (b.step op).2 := by
  have hother : (∀ c, op.RegistersNew c) → Preserves (op.Opens b) b (b.step op).2 :=
    fun hall => preserves_parts hb hshelves hall (parts_step hb hop)
  cases op with
  | registerLocal service =>
    obtain ⟨l, rfl⟩ := hop
    -- the service is registered, and then the sessions that wait are routed again
    have hpart : Part ((Op.registerLocal (.made l)).Opens b) (.registerLocal (.made l)) b
        { b with providers.locals := b.providers.locals.insert l.name (.made l) } := .registered l rfl
    have hretry : Parts ((Op.registerLocal (.made l)).Opens b) .reap _ _ := parts_retryWaiting (hpart.sound hb)
    have hreap : ∀ c : Broker, Op.RegistersNew c .reap := fun _ => trivial
    have hrouted := preserves_parts (hpart.sound hb) (shelves_part hb hshelves hnew hpart) hreap hretry
    exact ⟨hrouted.shelves, fun id m k hid hm =>
      hrouted.keepsObject id m k hid (keepsObject_part hb hshelves hnew hpart hid hm)⟩
  | create id service args affinity | upgrade id q | close id | childAnswer k request r | announce k account
    | withdraw k | removeChild child | applyRouting rules | registerDesk d | answerRequested service callback
    | answerUpgraded service applied | answerClosing service closed | reap => exact hother fun _ => trivial

variable {env : Env} {config : RuntimeConfig} {allowed : Broker → Op → Prop} {around : Env → Env → Prop}

theorem Reaches.shelves (h : Reaches around allowed b c) (hallowed : ∀ c op, allowed c op → op.RegistersNew c)
    (hb : b.Sound) (hshelves : b.Shelves) : c.Shelves := by
  induction h with
  | refl => exact hshelves
  | op op h hop hall ih => exact (preserves_step (h.sound hb) ih hop (hallowed _ op hall)).shelves
  | around _ _ ih =>
    refine ⟨ih.named, fun n l hl hfew => ?_⟩
    obtain ⟨hnumbered, hbounded, hapart⟩ := ih.shelved n l hl hfew
    exact ⟨hnumbered, hbounded, hapart⟩

theorem shelves_start (env : Env) (config : RuntimeConfig) : (start env config).Shelves :=
  ⟨fun _ _ hl => (by cases hl), fun _ _ hl => (by cases hl)⟩

/-- Until its id is taken again, a session keeps its object. -/
theorem Reaches.keepsObject {k : Nat}
    (h : Reaches around (fun c op => op.RegistersNew c ∧ ¬op.Opens c id) b c) (hb : b.Sound) (hshelves : b.Shelves)
    (hm : b.KeepsObject id m k) : c.KeepsObject id m k := by
  induction h with
  | refl => exact hm
  | op op h hop hall ih =>
    have hc := h.shelves (fun _ _ hall => hall.1) hb hshelves
    exact (preserves_step (h.sound hb) hc hop hall.1).keepsObject id m k hall.2 ih
  | around _ _ ih => exact ih

end Broker

end SessionBroker
