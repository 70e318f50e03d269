import SessionBroker.Proofs.ParentIds

/-!
# SessionBroker.Proofs.LocalObjects — what a service of this component does with its objects

* `ObjectMark`: what an object is known by.  An upgrade leaves the mark of an object as it is.
* `LocalService.Keeps`, `LocalService.Makes`, `LocalService.Drops`: no object comes or goes, one is made in the next
  place, or the one in a place goes.  A create makes an object or keeps all, an upgrade keeps all, and a close drops that
  of its session (`create_cases`, `keeps_upgrade`, `drops_close`).
* `LocalService.Numbered`: the factory has counted the objects, so no two have the same number.
* `Env.hookCalls`: the objects that factories were told to upgrade and to destroy, in order.
-/

namespace SessionBroker

/-- What an object is known by. -/
structure ObjectMark where
  service : String
  cap : Capability
  /-- The place of the object in the order in which the factory made them. -/
  number : Nat
  deriving DecidableEq

def SessionObject.mark (service : String) (o : SessionObject) : ObjectMark := ⟨service, o.cap, o.number⟩

/-- A call of a hook of a factory, to upgrade an object or to destroy it. -/
structure HookCall where
  service : String
  number : Nat
  destroys : Bool
  deriving DecidableEq

/-- The hook that an event calls. -/
def Event.hookCall? : Event → Option HookCall
  | .objectUpgraded service number _ _ => some ⟨service, number, false⟩
  | .objectDestroyed service number => some ⟨service, number, true⟩
  | _ => none

/-- The place of the object of a session in the registry of its service. -/
def Session.place? (s : Session) : Option Word := s.handle.bind (·.slot)

namespace Env

variable {env env' : Env}

/-- The calls of hooks so far, in order. -/
def hookCalls (env : Env) : List HookCall := env.trace.filterMap Event.hookCall?

theorem hookCalls_record (env : Env) (e : Event) : (env.record e).hookCalls = env.hookCalls ++ e.hookCall?.toList := by
  simp only [hookCalls, record, List.filterMap_append, List.filterMap_cons, List.filterMap_nil]
  cases e.hookCall? <;> rfl

theorem Apart.hookCalls_eq (h : env.Apart env') : env'.hookCalls = env.hookCalls :=
  h.logs.filterMap_eq fun e he => by cases e <;> first | rfl | cases he

/-- The parent is told nothing about objects of this component. -/
theorem Requests.hookCalls_eq (h : env.Requests env') : env'.hookCalls = env.hookCalls :=
  Logs.filterMap_eq h fun e he => by cases e <;> first | rfl | cases he

end Env

namespace LocalService

variable {l l' : LocalService} {m m' : ObjectMark} {a a' : Word} {place : Option Word}

/-- The mark of the object in a place. -/
def mark? (l : LocalService) (a : Word) : Option ObjectMark := (l.objects.find? a).map (SessionObject.mark l.name)

theorem service_of_mark? (h : l.mark? a = some m) : m.service = l.name := by
  obtain ⟨o, -, rfl⟩ := Option.map_eq_some_iff.1 h
  rfl

/-! ### Objects that come and go -/

/-- No object comes or goes. -/
structure Keeps (l l' : LocalService) : Prop where
  name : l'.name = l.name
  marks : ∀ a, l'.mark? a = l.mark? a
  made : l'.made = l.made
  counted : l'.factory.made? = l.factory.made?

/-- Object `m` is made and put in the next place. -/
structure Makes (l l' : LocalService) (m : ObjectMark) : Prop where
  name : l'.name = l.name
  marks : ∀ a, l'.mark? a = if a = l.nextSlot then some m else l.mark? a
  made : l'.made = l.made + 1
  counted : l'.factory.made? = l.factory.made?.map (· + 1)
  number : ∀ k, l.factory.made? = some k → m.number = k

/-- The object in a place goes, if there is one. -/
structure Drops (l l' : LocalService) (place : Option Word) : Prop where
  name : l'.name = l.name
  marks : ∀ a, l'.mark? a = if place = some a then none else l.mark? a
  made : l'.made = l.made
  counted : l'.factory.made? = l.factory.made?

theorem Keeps.refl (l : LocalService) : Keeps l l := ⟨rfl, fun _ => rfl, rfl, rfl⟩

/-- While fewer than `2 ^ 64` places were given out, the next one is new. -/
theorem ne_nextSlot (hfew : l.made < 0x10000000000000000) (h : a.val < l.made) : a ≠ l.nextSlot := by
  rintro rfl
  have hnext : l.nextSlot.val = l.made := Nat.mod_eq_of_lt hfew
  omega

/-- Objects have numbers that the factory has passed, and no two have the same. -/
structure Numbered (l : LocalService) : Prop where
  below : ∀ a m k, l.mark? a = some m → l.factory.made? = some k → m.number < k
  distinct : ∀ a a' m m', l.factory.made?.isSome = true → l.mark? a = some m → l.mark? a' = some m' →
    m.number = m'.number → a = a'

namespace Numbered

theorem of_empty (h : l.objects = ∅) : l.Numbered := by
  have hnone : ∀ a, l.mark? a = none := by
    intro a
    unfold mark?
    rw [h]
    rfl
  refine ⟨fun a m k hm => ?_, fun a a' m m' _ hm => ?_⟩
  · rw [hnone] at hm
    cases hm
  · rw [hnone] at hm
    cases hm

theorem keeps (h : l.Numbered) (hkeeps : l.Keeps l') : l'.Numbered := by
  refine ⟨fun a m k hm hk => ?_, fun a a' m m' hk hm hm' => ?_⟩
  · rw [hkeeps.marks] at hm
    rw [hkeeps.counted] at hk
    exact h.below a m k hm hk
  · rw [hkeeps.marks] at hm hm'
    rw [hkeeps.counted] at hk
    exact h.distinct a a' m m' hk hm hm'

theorem drops (h : l.Numbered) (hdrops : l.Drops l' place) : l'.Numbered := by
  have hmark : ∀ a m, l'.mark? a = some m → l.mark? a = some m := by
    intro a m hm
    rw [hdrops.marks] at hm
    split at hm
    · cases hm
    · exact hm
  refine ⟨fun a m k hm hk => ?_, fun a a' m m' hk hm hm' => ?_⟩
  · rw [hdrops.counted] at hk
    exact h.below a m k (hmark a m hm) hk
  · rw [hdrops.counted] at hk
    exact h.distinct a a' m m' hk (hmark a m hm) (hmark a' m' hm')

/-- The object that is made has the next number, and all others are below. -/
theorem makes (h : l.Numbered) (hmakes : l.Makes l' m) : l'.Numbered := by
  have hmark : ∀ a u, l'.mark? a = some u → a = l.nextSlot ∧ u = m ∨ a ≠ l.nextSlot ∧ l.mark? a = some u := by
    intro a u hu
    rw [hmakes.marks] at hu
    split at hu
    · rename_i ha
      exact .inl ⟨ha, (Option.some.inj hu).symm⟩
    · rename_i ha
      exact .inr ⟨ha, hu⟩
  refine ⟨fun a u k hu hk => ?_, fun a a' u u' hk hu hu' hsame => ?_⟩
  · rw [hmakes.counted] at hk
    obtain ⟨i, hi, rfl⟩ := Option.map_eq_some_iff.1 hk
    rcases hmark a u hu with ⟨-, rfl⟩ | ⟨-, hu⟩
    · have := hmakes.number i hi
      omega
    · have := h.below a u i hu hi
      omega
  · rw [hmakes.counted, Option.isSome_map] at hk
    obtain ⟨i, hi⟩ := Option.isSome_iff_exists.1 hk
    have hnew := hmakes.number i hi
    rcases hmark a u hu with ⟨rfl, rfl⟩ | ⟨-, hu⟩ <;> rcases hmark a' u' hu' with ⟨rfl, rfl⟩ | ⟨-, hu'⟩
    · rfl
    · have := h.below a' u' i hu' hi
      omega
    · have := h.below a u i hu hi
      omega
    · exact h.distinct a a' u u' hk hu hu' hsame

end Numbered

end LocalService

/-! ### The work of a factory -/

namespace Factory

variable (f : Factory) (service : String) (o : SessionObject) (args : Args) (env : Env)

/-- A factory refuses to make an object, or it makes the next one. -/
theorem create_cases (affinity : Affinity) :
    (∃ e f' env', f.create service args affinity env = (.error e, f', env') ∧ f'.made? = f.made?) ∨
      ∃ o f' env', f.create service args affinity env = (.ok o, f', env') ∧ f'.made? = f.made?.map (· + 1) ∧
        ∀ k, f.made? = some k → o.number = k := by
  cases f with
  | single cap => exact .inr ⟨⟨cap, 0, 0⟩, .single cap, env, rfl, rfl, fun k hk => by cases hk⟩
  | making refusal asked made =>
    cases h : refusal asked args affinity with
    | some e =>
      refine .inl ⟨e, .making refusal (asked + 1) made, env.record (.objectAsked service args.text affinity), ?_, rfl⟩
      simp only [create, h]
    | none =>
      obtain ⟨env', henv'⟩ : ∃ env', env' = env.record (.objectAsked service args.text affinity) := ⟨_, rfl⟩
      refine .inr ⟨⟨(env'.mint service).1, made, ramOf args⟩, .making refusal (asked + 1) (made + 1),
        (env'.mint service).2, ?_, rfl, fun k hk => Option.some.inj hk⟩
      simp only [create, h, henv']

theorem mark_upgrade : (f.upgrade service o args env).1.mark service = o.mark service := by
  cases f <;> rfl

theorem hookCalls_upgrade : (f.upgrade service o args env).2.hookCalls = env.hookCalls ∨
    f.made?.isSome = true ∧
      (f.upgrade service o args env).2.hookCalls = env.hookCalls ++ [⟨service, o.number, false⟩] := by
  cases f with
  | single cap => exact .inl rfl
  | making refusal asked made => exact .inr ⟨rfl, env.hookCalls_record _⟩

theorem hookCalls_destroy : (f.destroy service o env).hookCalls = env.hookCalls ∨
    f.made?.isSome = true ∧ (f.destroy service o env).hookCalls = env.hookCalls ++ [⟨service, o.number, true⟩] := by
  cases f with
  | single cap => exact .inl rfl
  | making refusal asked made => exact .inr ⟨rfl, env.hookCalls_record _⟩

end Factory

/-! ### The work of a service on a session -/

namespace LocalService

variable (l : LocalService) (s : Session) (env : Env)

/-- A create makes an object and gives its place to the session, or it fails and keeps all. -/
theorem create_cases : (l.Keeps (l.create s env).service ∧ (l.create s env).session.handle = s.handle) ∨
    ∃ m, l.Makes (l.create s env).service m ∧ (l.create s env).session.handle = some ⟨m.cap, some l.nextSlot⟩ := by
  unfold create
  rcases l.factory.create_cases l.name s.args env s.affinity with ⟨e, f', env', heq, hmade⟩ |
    ⟨o, f', env', heq, hmade, hnumber⟩
  · refine .inl ?_
    rw [heq]
    dsimp only
    split
    · exact ⟨⟨rfl, fun _ => rfl, rfl, hmade⟩, s.handle_advance _⟩
    · exact ⟨⟨rfl, fun _ => rfl, rfl, hmade⟩, rfl⟩
  · refine .inr ⟨o.mark l.name, ?_⟩
    rw [heq]
    refine ⟨⟨rfl, fun a => ?_, rfl, hmade, hnumber⟩, Session.handle_advance _ _⟩
    unfold mark?
    by_cases ha : a = l.nextSlot
    · rw [if_pos ha, ha, Table.find?_insert_self]
      rfl
    · rw [if_neg ha, Table.find?_insert_of_ne _ _ ha]

/-- An upgrade keeps all objects, and the session keeps its own. -/
theorem keeps_upgrade : l.Keeps (l.upgrade s env).service ∧ (l.upgrade s env).session.handle = s.handle := by
  have hhandle : (s.confirmUpgrade.advance .capHandedOut).handle = s.handle := Session.handle_advance _ _
  unfold upgrade
  dsimp only
  split
  · exact ⟨.refl l, hhandle⟩
  · rename_i a _
    split
    · exact ⟨.refl l, hhandle⟩
    · rename_i o ho
      refine ⟨⟨rfl, fun a' => ?_, rfl, rfl⟩, hhandle⟩
      unfold mark?
      exact Table.map_find?_insert ho (l.factory.mark_upgrade l.name o s.upgradeArgs env) a'

/-- The factory is told to upgrade the object of the session, if it is told anything. -/
theorem hookCalls_upgrade : (l.upgrade s env).env.hookCalls = env.hookCalls ∨
    ∃ a m, s.place? = some a ∧ l.mark? a = some m ∧ l.factory.made?.isSome = true ∧
      (l.upgrade s env).env.hookCalls = env.hookCalls ++ [⟨m.service, m.number, false⟩] := by
  unfold upgrade
  dsimp only
  split
  · exact .inl rfl
  · rename_i a ha
    split
    · exact .inl rfl
    · rename_i o ho
      rcases l.factory.hookCalls_upgrade l.name o s.upgradeArgs env with hnone | ⟨hcounts, hone⟩
      · exact .inl hnone
      · refine .inr ⟨a, o.mark l.name, ha, ?_, hcounts, hone⟩
        unfold mark?
        rw [ho]
        rfl

/-- A close drops the object of the session. -/
theorem drops_close : l.Drops (l.close s env).service s.place? ∧ (l.close s env).session.handle = none ∧
    (s.phase = .closeRequested → (l.close s env).session.phase = .closed) := by
  have hhandle : ({ s with handle := none }.advance .closed).handle = none := Session.handle_advance _ _
  have hphase : s.phase = .closeRequested → ({ s with handle := none }.advance .closed).phase = .closed := by
    intro hphase
    simp [Session.advance, Session.permits, hphase, Phase.canReach, Phase.next]
  have hplace : s.handle.bind (·.slot) = s.place? := rfl
  unfold close
  dsimp only
  rw [hplace]
  cases s.place? with
  | none => exact ⟨⟨rfl, fun _ => rfl, rfl, rfl⟩, hhandle, hphase⟩
  | some a =>
    dsimp only
    cases ho : l.objects.find? a with
    | none =>
      refine ⟨⟨rfl, fun a' => ?_, rfl, rfl⟩, hhandle, hphase⟩
      by_cases ha : a' = a
      · rw [ha, if_pos rfl]
        show (l.objects.find? a).map _ = none
        rw [ho]
        rfl
      · rw [if_neg (fun h => ha (Option.some.inj h).symm)]
    | some o =>
      refine ⟨⟨rfl, fun a' => ?_, rfl, rfl⟩, hhandle, hphase⟩
      show ((l.objects.erase a).find? a').map _ = _
      by_cases ha : a' = a
      · rw [ha, if_pos rfl, Table.find?_erase_self]
        rfl
      · rw [if_neg (fun h => ha (Option.some.inj h).symm), Table.find?_erase_of_ne _ ha]
        rfl

/-- The factory is told to destroy the object of the session, if it is told anything. -/
theorem hookCalls_close : (l.close s env).env.hookCalls = env.hookCalls ∨
    ∃ a m, s.place? = some a ∧ l.mark? a = some m ∧ l.factory.made?.isSome = true ∧
      (l.close s env).env.hookCalls = env.hookCalls ++ [⟨m.service, m.number, true⟩] := by
  unfold close
  dsimp only
  split
  · exact .inl rfl
  · rename_i a ha
    split
    · exact .inl rfl
    · rename_i o ho
      rcases l.factory.hookCalls_destroy l.name o env with hnone | ⟨hcounts, hone⟩
      · exact .inl hnone
      · refine .inr ⟨a, o.mark l.name, ha, ?_, hcounts, hone⟩
        unfold mark?
        rw [ho]
        rfl

end LocalService

end SessionBroker
