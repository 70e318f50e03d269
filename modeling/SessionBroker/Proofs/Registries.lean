import SessionBroker.Proofs.LocalTurns

/-!
# SessionBroker.Proofs.Registries — the registry of one service of this component

A service works on sessions that its callers own, and its factory may be of any type.

* `Workshop`: a service, the sessions that joined it, and what its factory did for each of them.
* `Workshop.Story w slot`: the object in a place was made for one session, upgraded for this session alone, and
  destroyed once, when the session was closed.  Each upgrade was given the object as the one before had left it.
* `kept_move`: each move keeps the stories of all places, and the registry holds what the sessions refer to.
* `registry_kept`: so it is after all moves.  The registry holds the objects behind the handles of the open sessions,
  and no others.
-/

namespace SessionBroker

/-! ### A service and the sessions that it works on -/

/-- A service, the sessions that joined it, and what its factory did so far, and for which session. -/
structure Workshop (F O : Type) where
  service : FactoryService F O
  env : Env
  sessions : List Session := []
  log : List (Nat × Doing O) := []

namespace Workshop

variable {F O : Type}

inductive Move where
  /-- A session joins that was not established yet. -/
  | join (s : Session)
  /-- The callers change the `i`-th session. -/
  | act (i : Nat) (a : Session.Act)
  /-- The service works on the `i`-th session. -/
  | initiate (i : Nat)

def move (w : Workshop F O) : Move → Workshop F O
  | .join s => if s.phase = .createRequested ∧ s.handle = none then { w with sessions := w.sessions ++ [s] } else w
  | .act i a =>
    match w.sessions[i]? with
    | some s => if s.concedes a then { w with sessions := w.sessions.set i (s.perform a) } else w
    | none => w
  | .initiate i =>
    match w.sessions[i]? with
    | some s =>
      let o := w.service.initiate s w.env
      { service := o.service
        env := o.env
        sessions := w.sessions.set i o.session
        log := w.log ++ ((w.service.doing? s w.env).map fun d => (i, d)).toList }
    | none => w

def run (w : Workshop F O) (moves : List Move) : Workshop F O := moves.foldl move w

/-- A service without sessions. -/
def new (hooks : Hooks F O) (factory : F) (env : Env) : Workshop F O := { service := { hooks, factory }, env }

/-- What was done in a place of the registry, in order. -/
def history (w : Workshop F O) (slot : Word) : List (Nat × Doing O) := w.log.filter fun e => e.2.slot = slot

/-- How many objects the factory made. -/
def creates (w : Workshop F O) : Nat := w.log.countP fun e => e.2.deed.creates

/-- How many objects the factory destroyed. -/
def destroys (w : Workshop F O) : Nat := w.log.countP fun e => e.2.deed.destroys

/-- Session `i` had the object in a place upgraded, from `first` on. -/
inductive Grown (i : Nat) (slot : Word) (first : O) : List (Nat × Doing O) → O → Prop
  | new : Grown i slot first [] first
  | upgraded {upgrades : List (Nat × Doing O)} {o o' : O} {args : Args} : Grown i slot first upgrades o →
      Grown i slot first (upgrades ++ [(i, ⟨slot, .upgrade o args o'⟩)]) o'

/-- What became of the object in a place of the registry. -/
inductive Story (w : Workshop F O) (slot : Word) : Prop
  /-- The place was not given out yet. -/
  | unused (hmade : w.service.made ≤ slot.val) (hnone : w.service.objects.find? slot = none)
      (hhistory : w.history slot = []) : Story w slot
  /-- An object was made for session `i`, which is open and refers to it. -/
  | held {i : Nat} {s : Session} {first o : O} {upgrades : List (Nat × Doing O)}
      (hmade : slot.val < w.service.made) (hsession : w.sessions[i]? = some s) (halive : s.isAlive = true)
      (hhandle : s.handle = some ⟨w.service.hooks.cap first, some slot⟩)
      (hfound : w.service.objects.find? slot = some o) (hgrown : Grown i slot first upgrades o)
      (hhistory : w.history slot = (i, ⟨slot, .create first⟩) :: upgrades) : Story w slot
  /-- An object was made for session `i`, and it was destroyed when the session was closed. -/
  | gone {i : Nat} {s : Session} {first last : O} {upgrades : List (Nat × Doing O)}
      (hmade : slot.val < w.service.made) (hsession : w.sessions[i]? = some s) (hclosed : s.phase = .closed)
      (hhandle : s.handle = none) (hnone : w.service.objects.find? slot = none)
      (hgrown : Grown i slot first upgrades last)
      (hhistory : w.history slot = (i, ⟨slot, .create first⟩) :: upgrades ++ [(i, ⟨slot, .destroy last⟩)]) :
      Story w slot

/-- A session with a handle refers to an object that was made for it. -/
structure Holds (w : Workshop F O) (i : Nat) (s : Session) (h : Handle) : Prop where
  created : s.phase ≠ .createRequested
  alive : s.isAlive = true
  object : ∃ slot o, h.slot = some slot ∧ w.service.objects.find? slot = some o ∧
    (w.history slot).head?.map (·.1) = some i

/-- The registry holds what the sessions refer to, and every place has its story. -/
structure Kept (w : Workshop F O) : Prop where
  held : ∀ (i : Nat) (s : Session) (h : Handle), w.sessions[i]? = some s → s.handle = some h → w.Holds i s h
  story : ∀ slot, w.Story slot
  made : w.creates = w.service.made
  /-- The objects in the registry are those that were made and not destroyed. -/
  count : w.service.objects.size + w.destroys = w.creates

variable {w w' : Workshop F O} {i j : Nat} {s s' t : Session} {slot : Word} {h : Handle}

theorem kept_new (hooks : Hooks F O) (factory : F) (env : Env) : (new hooks factory env).Kept where
  held i s h hs := by
    rw [show (new hooks factory env).sessions = [] from rfl] at hs
    cases hs
  story slot := .unused (Nat.zero_le _) rfl rfl
  made := rfl
  count := rfl

/-! ### Moves that leave a place alone -/

/-- Sessions that refer to a place, and those that are closed, stay as they are in this respect. -/
def Leaves (w w' : Workshop F O) (slot : Word) : Prop :=
  ∀ (i : Nat) (s : Session), w.sessions[i]? = some s → s.place? = some slot ∨ s.phase = .closed →
    ∃ s', w'.sessions[i]? = some s' ∧ s'.handle = s.handle ∧ (s.phase = .closed ↔ s'.phase = .closed)

/-- The story of a place goes on while nothing is done there. -/
theorem Story.leaves (hstory : w.Story slot) (hleaves : w.Leaves w' slot)
    (hhooks : w'.service.hooks = w.service.hooks) (hmade : w.service.made ≤ w'.service.made)
    (hnext : w.service.made ≤ slot.val → w'.service.made ≤ slot.val)
    (hobject : w'.service.objects.find? slot = w.service.objects.find? slot)
    (hhistory : w'.history slot = w.history slot) : w'.Story slot := by
  cases hstory with
  | unused hunused hnone hnothing =>
    exact .unused (hnext hunused) (hobject.trans hnone) (hhistory.trans hnothing)
  | @held i s first o upgrades hslot hsession halive hhandle hfound hgrown hthere =>
    obtain ⟨s', hsession', hhandle', hclosed⟩ := hleaves i s hsession (.inl (by rw [Session.place?, hhandle]; rfl))
    have halive' : s'.isAlive = true := Session.isAlive_of_ne_closed fun h' => by
      rw [Session.isAlive, hclosed.2 h'] at halive
      cases halive
    rw [← hhooks] at hhandle
    exact .held (Nat.lt_of_lt_of_le hslot hmade) hsession' halive' (hhandle'.trans hhandle) (hobject.trans hfound)
      hgrown (hhistory.trans hthere)
  | @gone i s first last upgrades hslot hsession hclosed hhandle hnone hgrown hthere =>
    obtain ⟨s', hsession', hhandle', hclosed'⟩ := hleaves i s hsession (.inr hclosed)
    exact .gone (Nat.lt_of_lt_of_le hslot hmade) hsession' (hclosed'.1 hclosed) (hhandle'.trans hhandle)
      (hobject.trans hnone) hgrown (hhistory.trans hthere)

theorem history_self {d : Doing O} (hlog : w'.log = w.log ++ [(i, d)]) :
    w'.history d.slot = w.history d.slot ++ [(i, d)] := by
  rw [history, hlog, List.filter_append]
  simp [history]

theorem history_of_ne {d : Doing O} (hlog : w'.log = w.log ++ [(i, d)]) (hne : slot ≠ d.slot) :
    w'.history slot = w.history slot := by
  rw [history, hlog, List.filter_append]
  simp [history, Ne.symm hne]

theorem creates_of_log {d : Doing O} (hlog : w'.log = w.log ++ [(i, d)]) :
    w'.creates = w.creates + if d.deed.creates then 1 else 0 := by
  rw [creates, hlog, List.countP_append, List.countP_singleton]
  rfl

theorem destroys_of_log {d : Doing O} (hlog : w'.log = w.log ++ [(i, d)]) :
    w'.destroys = w.destroys + if d.deed.destroys then 1 else 0 := by
  rw [destroys, hlog, List.countP_append, List.countP_singleton]
  rfl

/-! ### Moves keep the registry -/

theorem sessions_set (hfound : w.sessions[i]? = some s) (hset : w'.sessions = w.sessions.set i s')
    (ht : w'.sessions[j]? = some t) : j = i ∧ t = s' ∨ j ≠ i ∧ w.sessions[j]? = some t := by
  rw [hset] at ht
  by_cases hj : j = i
  · subst hj
    rw [List.getElem?_set_self (List.getElem?_eq_some_iff.1 hfound).1] at ht
    exact .inl ⟨rfl, (Option.some.inj ht).symm⟩
  · rw [List.getElem?_set_ne (Ne.symm hj)] at ht
    exact .inr ⟨hj, ht⟩

theorem leaves_set (hfound : w.sessions[i]? = some s) (hset : w'.sessions = w.sessions.set i s')
    (hsame : s.place? = some slot ∨ s.phase = .closed →
      s'.handle = s.handle ∧ (s.phase = .closed ↔ s'.phase = .closed)) : w.Leaves w' slot := by
  intro j t ht hcase
  rw [hset]
  by_cases hj : j = i
  · subst hj
    obtain rfl := Option.some.inj (hfound.symm.trans ht)
    obtain ⟨hhandle, hclosed⟩ := hsame hcase
    exact ⟨s', List.getElem?_set_self (List.getElem?_eq_some_iff.1 hfound).1, hhandle, hclosed⟩
  · exact ⟨t, (List.getElem?_set_ne (Ne.symm hj)).trans ht, rfl, Iff.rfl⟩

/-- A session holds on to its object while nothing is done in its place. -/
theorem Holds.leaves (hholds : w.Holds j t h)
    (hplace : ∀ slot, h.slot = some slot → w'.service.objects.find? slot = w.service.objects.find? slot ∧
      w'.history slot = w.history slot) : w'.Holds j t h := by
  obtain ⟨slot, o, hslot, hfound, howner⟩ := hholds.object
  obtain ⟨hobject, hhistory⟩ := hplace slot hslot
  exact ⟨hholds.created, hholds.alive, slot, o, hslot, hobject.trans hfound, hhistory ▸ howner⟩

/-- A session that holds a handle is open, and past its create. -/
theorem Kept.phase (hw : w.Kept) (hfound : w.sessions[i]? = some s) (hhandle : s.handle ≠ none) :
    s.phase ≠ .createRequested ∧ s.phase ≠ .closed := by
  obtain ⟨h, hsome⟩ := Option.ne_none_iff_exists'.1 hhandle
  have hholds := hw.held i s h hfound hsome
  refine ⟨hholds.created, fun hclosed => ?_⟩
  have halive := hholds.alive
  rw [Session.isAlive, hclosed] at halive
  cases halive

/-- A move that does nothing with the objects keeps them, if the session keeps its handle. -/
theorem kept_quiet (hw : w.Kept) (hfound : w.sessions[i]? = some s) (hset : w'.sessions = w.sessions.set i s')
    (hhooks : w'.service.hooks = w.service.hooks) (hobjects : w'.service.objects = w.service.objects)
    (hmade : w'.service.made = w.service.made) (hlog : w'.log = w.log) (hhandle : s'.handle = s.handle)
    (hopen : s.handle ≠ none → s'.phase ≠ .createRequested ∧ s'.phase ≠ .closed)
    (hclosed : s.phase = .closed → s'.phase = .closed) : w'.Kept where
  held j t h ht hsome := by
    have hplace : ∀ slot, h.slot = some slot → w'.service.objects.find? slot = w.service.objects.find? slot ∧
        w'.history slot = w.history slot :=
      fun slot _ => ⟨by rw [hobjects], by rw [history, hlog]; rfl⟩
    rcases sessions_set hfound hset ht with ⟨rfl, rfl⟩ | ⟨-, ht⟩
    · rw [hhandle] at hsome
      have hnew := hopen (by rw [hsome]; exact Option.some_ne_none _)
      have hholds := (hw.held j s h hfound hsome).leaves hplace
      exact ⟨hnew.1, Session.isAlive_of_ne_closed hnew.2, hholds.object⟩
    · exact (hw.held j t h ht hsome).leaves hplace
  story slot := by
    refine (hw.story slot).leaves (leaves_set hfound hset ?_) hhooks (Nat.le_of_eq hmade.symm) (fun h => hmade ▸ h)
      (by rw [hobjects]) (by rw [history, hlog]; rfl)
    rintro (hplace | hphase)
    · have hheld : s.handle ≠ none := by
        intro hnone
        rw [Session.place?, hnone] at hplace
        cases hplace
      refine ⟨hhandle, ?_⟩
      simp [(hw.phase hfound hheld).2, (hopen hheld).2]
    · exact ⟨hhandle, by simp [hphase, hclosed hphase]⟩
  made := by rw [creates, hlog, hmade]; exact hw.made
  count := by rw [hobjects, destroys, creates, hlog]; exact hw.count

theorem kept_join (hw : w.Kept) (hnone : s.handle = none) :
    Kept { w with sessions := w.sessions ++ [s] } where
  held j t h ht hsome := by
    have ht' : (w.sessions ++ [s])[j]? = some t := ht
    rw [List.getElem?_append] at ht'
    split at ht'
    · exact (hw.held j t h ht' hsome).leaves fun _ _ => ⟨rfl, rfl⟩
    · rw [List.getElem?_singleton] at ht'
      split at ht'
      · obtain rfl := Option.some.inj ht'
        rw [hnone] at hsome
        cases hsome
      · cases ht'
  story slot := by
    refine (hw.story slot).leaves (fun j t ht _ => ⟨t, ?_, rfl, Iff.rfl⟩) rfl (Nat.le_refl _) id rfl rfl
    exact (List.getElem?_append_left (List.getElem?_eq_some_iff.1 ht).1).trans ht
  made := hw.made
  count := hw.count

theorem kept_act (hw : w.Kept) (hfound : w.sessions[i]? = some s) {a : Session.Act} (h : s.concedes a = true) :
    Kept { w with sessions := w.sessions.set i (s.perform a) } :=
  kept_quiet hw hfound rfl rfl rfl rfl rfl (s.perform_handle h)
    (fun hheld => s.perform_phase h hheld (hw.phase hfound hheld).1 (hw.phase hfound hheld).2)
    fun hclosed => s.perform_closed hclosed a

/-- The story of the place that an open session refers to. -/
theorem Kept.open (hw : w.Kept) (hfound : w.sessions[i]? = some s) (hplace : s.place? = some slot) :
    ∃ first o upgrades, s.handle = some ⟨w.service.hooks.cap first, some slot⟩ ∧
      w.service.objects.find? slot = some o ∧ slot.val < w.service.made ∧ Grown i slot first upgrades o ∧
      w.history slot = (i, ⟨slot, .create first⟩) :: upgrades := by
  obtain ⟨h, hhandle, hslot⟩ := Option.bind_eq_some_iff.1 hplace
  obtain ⟨slot', o, hslot', hobject, howner⟩ := (hw.held i s h hfound hhandle).object
  obtain rfl : slot' = slot := Option.some.inj (hslot'.symm.trans hslot)
  cases hw.story slot' with
  | unused _ hnone | gone _ _ _ _ hnone =>
    rw [hnone] at hobject
    cases hobject
  | @held j t first o' upgrades hmade hsession halive hhandle' hfound' hgrown hhistory =>
    obtain rfl := Option.some.inj (hfound'.symm.trans hobject)
    rw [hhistory] at howner
    obtain rfl : j = i := Option.some.inj howner
    obtain rfl := Option.some.inj (hsession.symm.trans hfound)
    exact ⟨first, o', upgrades, hhandle', hobject, hmade, hgrown, hhistory⟩

/-- The next place was not given out before. -/
theorem Kept.next (hw : w.Kept) (hfew : w.service.made < 0x10000000000000000) :
    w.service.nextSlot.val = w.service.made ∧ w.service.objects.find? w.service.nextSlot = none ∧
      w.history w.service.nextSlot = [] := by
  have hval : w.service.nextSlot.val = w.service.made := Nat.mod_eq_of_lt hfew
  cases hw.story w.service.nextSlot with
  | unused _ hnone hhistory => exact ⟨hval, hnone, hhistory⟩
  | held hmade | gone hmade => exact absurd hmade (Nat.not_lt.2 (Nat.le_of_eq hval.symm))

/-- Two sessions do not refer to one place. -/
theorem Kept.apart (hw : w.Kept) (hs : w.sessions[i]? = some s) (ht : w.sessions[j]? = some t)
    (hplace : s.place? = some slot) (hplace' : t.place? = some slot) : j = i := by
  obtain ⟨_, _, _, -, -, -, -, hhistory⟩ := hw.open hs hplace
  obtain ⟨_, _, _, -, -, -, -, hhistory'⟩ := hw.open ht hplace'
  have hhead := List.head_eq_of_cons_eq (hhistory'.symm.trans hhistory)
  exact congrArg Prod.fst hhead

/-- A deed of the factory in the turn of session `i` keeps all other places.  Its own place is the only one that the
session refers to, and no other session does. -/
theorem kept_deed {d : Doing O} (hw : w.Kept) (hfound : w.sessions[i]? = some s)
    (hset : w'.sessions = w.sessions.set i s') (hlog : w'.log = w.log ++ [(i, d)]) (hphase : s.phase ≠ .closed)
    (hown : ∀ slot, s.place? = some slot → slot = d.slot)
    (hothers : ∀ (j : Nat) (t : Session), j ≠ i → w.sessions[j]? = some t → t.place? ≠ some d.slot)
    (hhooks : w'.service.hooks = w.service.hooks)
    (hobjects : ∀ slot, slot ≠ d.slot → w'.service.objects.find? slot = w.service.objects.find? slot)
    (hmade : w.service.made ≤ w'.service.made)
    (hnext : ∀ slot, slot ≠ d.slot → w.service.made ≤ slot.val → w'.service.made ≤ slot.val)
    (hholds : ∀ h, s'.handle = some h → w'.Holds i s' h) (hstory : w'.Story d.slot)
    (hcreates : w'.creates = w'.service.made) (hcount : w'.service.objects.size + w'.destroys = w'.creates) :
    w'.Kept where
  held j t h ht hsome := by
    rcases sessions_set hfound hset ht with ⟨rfl, rfl⟩ | ⟨hj, ht⟩
    · exact hholds h hsome
    · refine (hw.held j t h ht hsome).leaves fun slot hslot => ?_
      have hne : slot ≠ d.slot := by
        rintro rfl
        exact hothers j t hj ht (by rw [Session.place?, hsome]; exact hslot)
      exact ⟨hobjects slot hne, history_of_ne hlog hne⟩
  story slot := by
    by_cases hslot : slot = d.slot
    · exact hslot ▸ hstory
    · refine (hw.story slot).leaves (leaves_set hfound hset ?_) hhooks hmade (hnext slot hslot) (hobjects slot hslot)
        (history_of_ne hlog hslot)
      rintro (hplace | hclosed)
      · exact absurd (hown slot hplace) hslot
      · exact absurd hclosed hphase
  made := hcreates
  count := hcount

theorem kept_created (hw : w.Kept) (hfew : w.service.made < 0x10000000000000000) (hfound : w.sessions[i]? = some s)
    (hphase : s.phase = .createRequested) {o : O} {f : F}
    (hservice : w'.service = { w.service with
      factory := f, objects := w.service.objects.insert w.service.nextSlot o, made := w.service.made + 1 })
    (hset : w'.sessions = w.sessions.set i { s with
      phase := .available, handle := some ⟨w.service.hooks.cap o, some w.service.nextSlot⟩ })
    (hlog : w'.log = w.log ++ [(i, ⟨w.service.nextSlot, .create o⟩)]) : w'.Kept := by
  obtain ⟨hval, hfree, hunused⟩ := hw.next hfew
  have hlt : i < w.sessions.length := (List.getElem?_eq_some_iff.1 hfound).1
  have hnone : s.handle = none := by
    by_contra hsome
    exact (hw.phase hfound hsome).1 hphase
  have hhooks : w'.service.hooks = w.service.hooks := by rw [hservice]
  have hmade : w'.service.made = w.service.made + 1 := by rw [hservice]
  have hobject : w'.service.objects.find? w.service.nextSlot = some o := by
    rw [hservice]
    exact Table.find?_insert_self _ _ _
  have hhistory : w'.history w.service.nextSlot = [(i, ⟨w.service.nextSlot, .create o⟩)] := by
    rw [history_self hlog, hunused]
    rfl
  refine kept_deed hw hfound hset hlog (by rw [hphase]; exact Phase.noConfusion) (fun slot hplace => ?_)
    (fun j t _ ht hplace => ?_) hhooks (fun slot hslot => ?_) (hmade ▸ Nat.le_succ _) (fun slot hslot hle => ?_)
    (fun h hsome => ?_) ?_ ?_ ?_
  · rw [Session.place?, hnone] at hplace
    cases hplace
  · obtain ⟨_, _, _, -, hshelved, -⟩ := hw.open ht hplace
    rw [hfree] at hshelved
    cases hshelved
  · rw [hservice]
    exact Table.find?_insert_of_ne _ _ hslot
  · rw [hmade]
    refine Nat.lt_of_le_of_ne hle fun heq => hslot ?_
    ext1
    exact heq.symm.trans hval.symm
  · obtain rfl := Option.some.inj hsome
    exact ⟨Phase.noConfusion, rfl, _, o, rfl, hobject, by rw [hhistory]; rfl⟩
  · refine .held ?_ (by rw [hset]; exact List.getElem?_set_self hlt) rfl (by rw [hhooks]) hobject .new hhistory
    rw [hmade]
    exact Nat.lt_succ_of_le (Nat.le_of_eq hval)
  · rw [creates_of_log hlog, hw.made, hmade]
    rfl
  · rw [destroys_of_log hlog, creates_of_log hlog, hservice, Table.size_insert_new o hfree, ← hw.count]
    exact Nat.add_right_comm _ 1 _

/-- What the factory does with the object of an open session keeps the rest. -/
theorem kept_deed_open {d : Doing O} (hw : w.Kept) (hfound : w.sessions[i]? = some s)
    (hset : w'.sessions = w.sessions.set i s') (hlog : w'.log = w.log ++ [(i, d)]) (hphase : s.phase ≠ .closed)
    (hplace : s.place? = some d.slot) (hdeed : d.deed.creates = false)
    (hhooks : w'.service.hooks = w.service.hooks)
    (hobjects : ∀ slot, slot ≠ d.slot → w'.service.objects.find? slot = w.service.objects.find? slot)
    (hmade : w'.service.made = w.service.made) (hholds : ∀ h, s'.handle = some h → w'.Holds i s' h)
    (hstory : w'.Story d.slot) (hcount : w'.service.objects.size + w'.destroys = w.creates) : w'.Kept := by
  have hcreates : w'.creates = w.creates := by
    rw [creates_of_log hlog, hdeed]
    rfl
  exact kept_deed hw hfound hset hlog hphase (fun _ h => Option.some.inj (h.symm.trans hplace))
    (fun j t hj ht h => hj (hw.apart hfound ht hplace h)) hhooks hobjects (Nat.le_of_eq hmade.symm)
    (fun _ _ h => hmade ▸ h) hholds hstory (by rw [hcreates, hw.made, hmade]) (hcount.trans hcreates.symm)

theorem kept_upgraded (hw : w.Kept) (hfound : w.sessions[i]? = some s) (hphase : s.phase = .upgradeRequested)
    {o o' : O} {f : F} {args : Args} (hplace : s.place? = some slot) (hobject : w.service.objects.find? slot = some o)
    (hservice : w'.service = { w.service with factory := f, objects := w.service.objects.insert slot o' })
    (hset : w'.sessions = w.sessions.set i { s with pendingUpgrade := 0, phase := .capHandedOut })
    (hlog : w'.log = w.log ++ [(i, ⟨slot, .upgrade o args o'⟩)]) : w'.Kept := by
  obtain ⟨first, o₀, upgrades, hhandle, hobject', hmade, hgrown, hstory⟩ := hw.open hfound hplace
  obtain rfl := Option.some.inj (hobject'.symm.trans hobject)
  have hlt : i < w.sessions.length := (List.getElem?_eq_some_iff.1 hfound).1
  have hhooks : w'.service.hooks = w.service.hooks := by rw [hservice]
  have hmade' : w'.service.made = w.service.made := by rw [hservice]
  have hnew : w'.service.objects.find? slot = some o' := by
    rw [hservice]
    exact Table.find?_insert_self _ _ _
  have hhistory : w'.history slot = (i, ⟨slot, .create first⟩) :: (upgrades ++ [(i, ⟨slot, .upgrade o₀ args o'⟩)]) := by
    rw [history_self hlog, hstory]
    rfl
  refine kept_deed_open hw hfound hset hlog (by rw [hphase]; exact Phase.noConfusion) hplace rfl hhooks
    (fun slot' hslot => ?_) hmade' (fun h hsome => ?_) ?_ ?_
  · rw [hservice]
    exact Table.find?_insert_of_ne _ _ hslot
  · obtain rfl := Option.some.inj (hhandle.symm.trans hsome)
    exact ⟨Phase.noConfusion, rfl, slot, o', rfl, hnew, by rw [hhistory]; rfl⟩
  · have hsession : w'.sessions[i]? = some { s with pendingUpgrade := 0, phase := .capHandedOut } := by
      rw [hset]
      exact List.getElem?_set_self hlt
    rw [← hhooks] at hhandle
    exact .held (hmade' ▸ hmade) hsession rfl hhandle hnew hgrown.upgraded hhistory
  · rw [destroys_of_log hlog, hservice, Table.size_insert_of_find? o' hobject]
    exact hw.count

theorem kept_destroyed (hw : w.Kept) (hfound : w.sessions[i]? = some s) (hphase : s.phase = .closeRequested)
    {o : O} {f : F} (hplace : s.place? = some slot) (hobject : w.service.objects.find? slot = some o)
    (hservice : w'.service = { w.service with factory := f, objects := w.service.objects.erase slot })
    (hset : w'.sessions = w.sessions.set i { s with phase := .closed, handle := none })
    (hlog : w'.log = w.log ++ [(i, ⟨slot, .destroy o⟩)]) : w'.Kept := by
  obtain ⟨first, o₀, upgrades, -, hobject', hmade, hgrown, hstory⟩ := hw.open hfound hplace
  obtain rfl := Option.some.inj (hobject'.symm.trans hobject)
  have hlt : i < w.sessions.length := (List.getElem?_eq_some_iff.1 hfound).1
  have hmade' : w'.service.made = w.service.made := by rw [hservice]
  have hgone : w'.service.objects.find? slot = none := by
    rw [hservice]
    exact Table.find?_erase_self _ _
  refine kept_deed_open hw hfound hset hlog (by rw [hphase]; exact Phase.noConfusion) hplace rfl (by rw [hservice])
    (fun slot' hslot => ?_) hmade' (fun h hsome => ?_) ?_ ?_
  · rw [hservice]
    exact Table.find?_erase_of_ne _ hslot
  · cases hsome
  · refine .gone (hmade' ▸ hmade) (by rw [hset]; exact List.getElem?_set_self hlt) rfl rfl hgone hgrown ?_
    rw [history_self hlog, hstory]
  · have hsize := Table.size_erase hobject
    have hcount := hw.count
    rw [destroys_of_log hlog, hservice]
    show (w.service.objects.erase slot).size + (w.destroys + 1) = w.creates
    omega

theorem move_initiate (hfound : w.sessions[i]? = some s) : w.move (.initiate i) =
    { service := (w.service.initiate s w.env).service
      env := (w.service.initiate s w.env).env
      sessions := w.sessions.set i (w.service.initiate s w.env).session
      log := w.log ++ ((w.service.doing? s w.env).map fun d => (i, d)).toList } := by
  simp only [move, hfound]

theorem made_initiate (l : FactoryService F O) (s : Session) (env : Env) :
    l.made ≤ (l.initiate s env).service.made := by
  have hserves := l.serves_initiate s env
  generalize l.doing? s env = d at hserves
  generalize l.initiate s env = o at hserves
  cases hserves with
  | created => exact Nat.le_succ _
  | refused | upgraded | settled | destroyed | closed | idle => exact Nat.le_refl _

/-- The turn of a session keeps the registry. -/
theorem kept_initiate (hw : w.Kept) (hfound : w.sessions[i]? = some s)
    (hfew : (w.move (.initiate i)).service.made < 0x10000000000000000) : (w.move (.initiate i)).Kept := by
  have hserves := w.service.serves_initiate s w.env
  have hle := made_initiate w.service s w.env
  rw [move_initiate hfound] at hfew ⊢
  generalize w.service.doing? s w.env = d at hserves hfew
  generalize w.service.initiate s w.env = o at hserves hfew hle
  have hshelved : s.handle ≠ none → w.service.shelved? s ≠ none := by
    intro hheld hnone
    obtain ⟨h, hsome⟩ := Option.ne_none_iff_exists'.1 hheld
    obtain ⟨slot, o, hslot, hobject, -⟩ := (hw.held i s h hfound hsome).object
    rw [FactoryService.shelved?_eq_some.2 ⟨by rw [Session.place?, hsome]; exact hslot, hobject⟩] at hnone
    cases hnone
  cases hserves with
  | created hphase hmade => exact kept_created hw (Nat.lt_of_le_of_lt hle hfew) hfound hphase rfl rfl rfl
  | refused hphase hfailed hend =>
    refine kept_quiet hw hfound rfl rfl rfl rfl (List.append_nil _) rfl (fun hheld => ?_) fun hclosed => ?_
    · exact absurd hphase (hw.phase hfound hheld).1
    · rw [hphase] at hclosed
      cases hclosed
  | upgraded hphase hplace hobject =>
    exact kept_upgraded hw hfound hphase hplace hobject rfl rfl rfl
  | settled hphase hnone =>
    refine kept_quiet hw hfound rfl rfl rfl rfl (List.append_nil _) rfl (fun hheld => absurd hnone (hshelved hheld))
      fun hclosed => ?_
    rw [hphase] at hclosed
    cases hclosed
  | destroyed hphase hplace hobject => exact kept_destroyed hw hfound hphase hplace hobject rfl rfl rfl
  | closed hphase hnone =>
    have hhandle : s.handle = none := by
      by_contra hheld
      exact hshelved hheld hnone
    exact kept_quiet hw hfound rfl rfl rfl rfl (List.append_nil _) hhandle.symm (fun hheld => absurd hhandle hheld)
      fun _ => rfl
  | idle hcreate hupgrade hclose =>
    exact kept_quiet hw hfound rfl rfl rfl rfl (List.append_nil _) rfl (hw.phase hfound) id

/-- A move does nothing, or it is one of three. -/
theorem move_cases (w : Workshop F O) (m : Move) : w.move m = w ∨
    (∃ s, s.handle = none ∧ w.move m = { w with sessions := w.sessions ++ [s] }) ∨
    (∃ (i : Nat) (s : Session) (a : Session.Act), w.sessions[i]? = some s ∧ s.concedes a = true ∧
      w.move m = { w with sessions := w.sessions.set i (s.perform a) }) ∨
    ∃ (i : Nat) (s : Session), w.sessions[i]? = some s ∧ m = .initiate i := by
  cases m with
  | join s =>
    simp only [move]
    split
    · rename_i hnew
      exact .inr (.inl ⟨s, hnew.2, rfl⟩)
    · exact .inl rfl
  | act i a =>
    simp only [move]
    split
    · rename_i s hfound
      split
      · rename_i hconcedes
        exact .inr (.inr (.inl ⟨i, s, a, hfound, hconcedes, rfl⟩))
      · exact .inl rfl
    · exact .inl rfl
  | initiate i =>
    cases hfound : w.sessions[i]? with
    | some s => exact .inr (.inr (.inr ⟨i, s, hfound, rfl⟩))
    | none => exact .inl (by simp only [move, hfound])

theorem kept_move (hw : w.Kept) (m : Move) (hfew : (w.move m).service.made < 0x10000000000000000) :
    (w.move m).Kept := by
  rcases w.move_cases m with heq | ⟨s, hnone, heq⟩ | ⟨i, s, a, hfound, hconcedes, heq⟩ | ⟨i, s, hfound, rfl⟩
  · rw [heq]
    exact hw
  · exact heq ▸ kept_join hw hnone
  · exact heq ▸ kept_act hw hfound hconcedes
  · exact kept_initiate hw hfound hfew

theorem made_move (w : Workshop F O) (m : Move) : w.service.made ≤ (w.move m).service.made := by
  rcases w.move_cases m with heq | ⟨s, -, heq⟩ | ⟨i, s, a, -, -, heq⟩ | ⟨i, s, hfound, rfl⟩
  · exact Nat.le_of_eq (by rw [heq])
  · exact heq ▸ Nat.le_refl _
  · exact heq ▸ Nat.le_refl _
  · rw [move_initiate hfound]
    exact made_initiate _ _ _

theorem made_run : ∀ (moves : List Move) (w : Workshop F O), w.service.made ≤ (w.run moves).service.made
  | [], _ => Nat.le_refl _
  | m :: moves, w => Nat.le_trans (w.made_move m) (made_run moves (w.move m))

theorem kept_run : ∀ (moves : List Move) (w : Workshop F O), w.Kept →
    (w.run moves).service.made < 0x10000000000000000 → (w.run moves).Kept
  | [], _, hw, _ => hw
  | m :: moves, w, hw, hfew =>
    kept_run moves (w.move m) (kept_move hw m (Nat.lt_of_le_of_lt (made_run moves (w.move m)) hfew)) hfew

/-! ### The registry of a service -/

/-- What the next turn of session `i` does. -/
structure Turns (w : Workshop F O) (i : Nat) (s : Session) : Prop where
  /-- An object that is made goes to a place that is free, and the session gets the handle. -/
  create : s.phase = .createRequested → ∀ o f env',
    w.service.hooks.create w.service.factory s.args s.affinity w.env = (.ok o, f, env') →
    w.service.objects.find? w.service.nextSlot = none ∧ w.move (.initiate i) =
      { service := { w.service with
          factory := f, objects := w.service.objects.insert w.service.nextSlot o, made := w.service.made + 1 }
        env := env'
        sessions := w.sessions.set i { s with
          phase := .available, handle := some ⟨w.service.hooks.cap o, some w.service.nextSlot⟩ }
        log := w.log ++ [(i, ⟨w.service.nextSlot, .create o⟩)] }
  /-- A create that fails leaves the registry alone, and the session without a handle. -/
  refuse : s.phase = .createRequested → ∀ e f env',
    w.service.hooks.create w.service.factory s.args s.affinity w.env = (.error e, f, env') →
    s.handle = none ∧ ∃ phase, (phase.isCreateFailure = true ∨ phase = .createRequested) ∧ w.move (.initiate i) =
      { w with service.factory := f, env := env', sessions := w.sessions.set i { s with phase } }
  /-- The pending upgrade is passed to the object of the session, and cleared. -/
  upgrade : s.phase = .upgradeRequested → ∀ h, s.handle = some h →
    ∃ slot o, h.slot = some slot ∧ w.service.objects.find? slot = some o ∧ ∀ o' f env',
      w.service.hooks.upgrade w.service.factory o (Args.upgrade s.pendingUpgrade) w.env = (o', f, env') →
      w.move (.initiate i) =
        { service := { w.service with factory := f, objects := w.service.objects.insert slot o' }
          env := env'
          sessions := w.sessions.set i { s with pendingUpgrade := 0, phase := .capHandedOut }
          log := w.log ++ [(i, ⟨slot, .upgrade o (Args.upgrade s.pendingUpgrade) o'⟩)] }
  /-- The object of the session is destroyed. -/
  close : s.phase = .closeRequested → ∀ h, s.handle = some h →
    ∃ slot o, h.slot = some slot ∧ w.service.objects.find? slot = some o ∧ ∀ f env',
      w.service.hooks.destroy w.service.factory o w.env = (f, env') → w.move (.initiate i) =
        { service := { w.service with factory := f, objects := w.service.objects.erase slot }
          env := env'
          sessions := w.sessions.set i { s with phase := .closed, handle := none }
          log := w.log ++ [(i, ⟨slot, .destroy o⟩)] }

/-- The registry of a service fits the sessions that it works on. -/
structure Registered (w : Workshop F O) : Prop where
  /-- Sessions with a handle are open, and their objects are registered. -/
  handles : ∀ (i : Nat) (s : Session) (h : Handle), w.sessions[i]? = some s → s.handle = some h →
    s.isAlive = true ∧ ∃ slot o, h.slot = some slot ∧ w.service.objects.find? slot = some o
  /-- Each object that is registered is behind the handle of an open session. -/
  objects : ∀ slot o, w.service.objects.find? slot = some o →
    ∃ (i : Nat) (s : Session) (h : Handle), w.sessions[i]? = some s ∧ s.isAlive = true ∧ s.handle = some h ∧
      h.slot = some slot
  /-- No two sessions have one place. -/
  apart : ∀ (i j : Nat) (s t : Session) (slot : Word), w.sessions[i]? = some s → w.sessions[j]? = some t →
    s.place? = some slot → t.place? = some slot → j = i
  count : w.destroys ≤ w.creates ∧ w.service.objects.size = w.creates - w.destroys
  story : ∀ slot, w.Story slot
  turns : ∀ (i : Nat) (s : Session), w.sessions[i]? = some s → w.Turns i s

theorem Kept.turns (hw : w.Kept) (hfew : w.service.made < 0x10000000000000000) (hfound : w.sessions[i]? = some s) :
    w.Turns i s := by
  have hserves := w.service.serves_initiate s w.env
  have hplace : ∀ h, s.handle = some h → ∃ slot o, h.slot = some slot ∧ s.place? = some slot ∧
      w.service.objects.find? slot = some o := by
    intro h hsome
    obtain ⟨slot, o, hslot, hobject, -⟩ := (hw.held i s h hfound hsome).object
    exact ⟨slot, o, hslot, by rw [Session.place?, hsome]; exact hslot, hobject⟩
  have hmove := move_initiate hfound
  generalize w.service.doing? s w.env = d at hserves hmove
  generalize w.service.initiate s w.env = o at hserves hmove
  refine
    { create := fun hphase o f env' hmade => ?_
      refuse := fun hphase e f env' hfailed => ?_
      upgrade := fun hphase h hsome => ?_
      close := fun hphase h hsome => ?_ }
  · cases hserves with
    | created _ hmade' =>
      obtain ⟨heq, rfl, rfl⟩ : _ ∧ _ ∧ _ := by simpa using hmade.symm.trans hmade'
      obtain rfl := heq
      exact ⟨(hw.next hfew).2.1, hmove⟩
    | refused _ hfailed => cases hmade.symm.trans hfailed
    | upgraded hother | settled hother | destroyed hother | closed hother => cases hphase.symm.trans hother
    | idle hother => exact absurd hphase hother
  · cases hserves with
    | created _ hmade => cases hmade.symm.trans hfailed
    | @refused e' f' env'' error phase _ hfailed' hend =>
      obtain ⟨heq, rfl, rfl⟩ : _ ∧ _ ∧ _ := by simpa using hfailed.symm.trans hfailed'
      refine ⟨?_, phase, ?_, hmove.trans (by rw [Option.map_none, Option.toList_none, List.append_nil])⟩
      · by_contra hheld
        exact (hw.phase hfound hheld).1 hphase
      · exact hend.imp (fun h => SessionError.isCreateFailure_of_terminalPhase h.1) fun h => h.2.2
    | upgraded hother | settled hother | destroyed hother | closed hother => cases hphase.symm.trans hother
    | idle hother => exact absurd hphase hother
  · obtain ⟨slot, o₀, hslot, hplaced, hobject⟩ := hplace h hsome
    refine ⟨slot, o₀, hslot, hobject, fun o' f env' hgrown => ?_⟩
    cases hserves with
    | upgraded _ hplaced' hobject' hgrown' =>
      obtain rfl := Option.some.inj (hplaced.symm.trans hplaced')
      obtain rfl := Option.some.inj (hobject.symm.trans hobject')
      obtain ⟨rfl, rfl, rfl⟩ : _ ∧ _ ∧ _ := by simpa using hgrown.symm.trans hgrown'
      exact hmove
    | settled _ hnone => cases (FactoryService.shelved?_eq_some.2 ⟨hplaced, hobject⟩).symm.trans hnone
    | created hother | refused hother | destroyed hother | closed hother => cases hphase.symm.trans hother
    | idle _ hother => exact absurd hphase hother
  · obtain ⟨slot, o₀, hslot, hplaced, hobject⟩ := hplace h hsome
    refine ⟨slot, o₀, hslot, hobject, fun f env' hgone => ?_⟩
    cases hserves with
    | destroyed _ hplaced' hobject' hgone' =>
      obtain rfl := Option.some.inj (hplaced.symm.trans hplaced')
      obtain rfl := Option.some.inj (hobject.symm.trans hobject')
      obtain ⟨rfl, rfl⟩ : _ ∧ _ := by simpa using hgone.symm.trans hgone'
      exact hmove
    | closed _ hnone => cases (FactoryService.shelved?_eq_some.2 ⟨hplaced, hobject⟩).symm.trans hnone
    | created hother | refused hother | upgraded hother | settled hother => cases hphase.symm.trans hother
    | idle _ _ hother => exact absurd hphase hother

theorem Kept.registered (hw : w.Kept) (hfew : w.service.made < 0x10000000000000000) : w.Registered where
  handles i s h hfound hsome := by
    obtain ⟨slot, o, hslot, hobject, -⟩ := (hw.held i s h hfound hsome).object
    exact ⟨(hw.held i s h hfound hsome).alive, slot, o, hslot, hobject⟩
  objects slot o hobject := by
    cases hw.story slot with
    | unused _ hnone | gone _ _ _ _ hnone => cases hnone.symm.trans hobject
    | held _ hsession halive hhandle => exact ⟨_, _, _, hsession, halive, hhandle, rfl⟩
  apart _ _ _ _ _ hs ht := hw.apart hs ht
  count := by
    have hcount := hw.count
    omega
  story := hw.story
  turns _ _ hfound := hw.turns hfew hfound

/-- **A service keeps its registry.**  That is so over any factory, and after any moves in which fewer than `2 ^ 64`
objects are made.  The services that brokers run are among these. -/
theorem registry_kept (hooks : Hooks F O) (factory : F) (env : Env) (moves : List Move)
    (hfew : ((new hooks factory env).run moves).service.made < 0x10000000000000000) :
    ((new hooks factory env).run moves).Registered ∧
      ∀ (l : LocalService) (s : Session) (env : Env),
        l.general.initiate s env = (l.initiate s env).map LocalService.general :=
  ⟨(kept_run moves _ (kept_new hooks factory env) hfew).registered hfew, LocalService.initiate_general⟩

/-- Two sessions, of which the second is refused at its first try, and the first is upgraded and closed. -/
def twoSessions : List Move :=
  let s : Session := { service := "LOG", label := ⟨""⟩, args := ⟨[]⟩, affinity := {}, resources := 0, diag := false }
  [.join s, .join s, .initiate 0, .initiate 1, .initiate 1, .act 0 (.requestUpgrade ⟨⟨1024, by decide⟩, 0⟩),
    .initiate 0, .act 0 (.advance .closeRequested), .initiate 0]

/-- A service whose factory refuses the second create for want of RAM. -/
def wanting : Workshop Factory SessionObject :=
  new (Factory.hooks "LOG") (.making (fun asked _ _ => if asked = 1 then some .outOfRam else none) 0 0) default

theorem registry_kept_twoSessions :
    (wanting.run twoSessions).service.made < 0x10000000000000000 ∧ (wanting.run twoSessions).creates = 2 ∧
      (wanting.run twoSessions).destroys = 1 ∧ (wanting.run twoSessions).Registered := by
  have hmade : (wanting.run twoSessions).service.made = 2 := by rfl
  have hfew : (wanting.run twoSessions).service.made < 0x10000000000000000 := by
    rw [hmade]
    decide
  exact ⟨hfew, by rfl, by rfl, (registry_kept _ _ _ _ hfew).1⟩

end Workshop

end SessionBroker
