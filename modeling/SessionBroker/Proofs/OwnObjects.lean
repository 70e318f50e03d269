import SessionBroker.Proofs.Places

/-!
# SessionBroker.Proofs.OwnObjects — the object of a session is its own

* `Broker.MadeFor allowed b c id m`: a history made object `m` for session `id`, and no create has taken the id since.
* `Broker.OwnCall`: a hook is called with the object of the session that is upgraded or closed.
* `objects_own`: while no service replaces one that a session needs, sessions keep the objects that were made for them,
  and every hook is called so.
* `object_lost`: a service that replaces one in use loses the objects of its sessions.
-/

namespace SessionBroker

/-- Providers other than services of this component call no hook. -/
theorem Registry.hookCalls_initiate? {r : Registry} {s : Session} {env : Env} {p : Provider} {o : Outcome Registry}
    (h : r.initiate? s env p = some o) (hp : ∀ n, p ≠ .here n) : o.env.hookCalls = env.hookCalls := by
  cases p with
  | here n => exact absurd rfl (hp n)
  | later n =>
    obtain ⟨d, -, rfl⟩ := Option.map_eq_some_iff.1 h
    exact congrArg Env.hookCalls (d.env_initiate s env)
  | parent n =>
    obtain ⟨v, -, rfl⟩ := Option.map_eq_some_iff.1 h
    exact (v.requests_initiate s env).hookCalls_eq
  | child c n =>
    obtain ⟨v, -, rfl⟩ := Option.map_eq_some_iff.1 h
    exact congrArg Env.hookCalls (v.desk.env_initiate s env)

/-- The number of places that a service gave out. -/
def Service.places : Service → Nat
  | .made l => l.made
  | _ => 0

namespace Broker

variable {new : ServerId → Prop} {op : Op} {b b' c : Broker} {id id' : ServerId} {m m' : ObjectMark}

theorem isLive_of_object? (hb : b.Sound) (hm : b.object? id = some m) : b.isLive id = true := by
  obtain ⟨s, n, l, a, hfound, -, ha, -⟩ := object?_iff.1 hm
  refine isLive_iff.2 ⟨_, hfound, Session.isAlive_of_ne_closed fun hclosed => ?_⟩
  have hended : s.phase.isEnded = true := by
    rw [hclosed]
    rfl
  cases (place?_of_handle_none ((hb.slots id _ hfound).ended hended).1).symm.trans ha

/-- Whether the factory of a service counts its objects.  The others hand out one object to everybody, and their hooks
do nothing. -/
def Counts (b : Broker) (n : String) : Prop := ∀ l, b.local? n = some l → l.factory.made?.isSome = true

/-- No service has given out more than `2 ^ 64` places. -/
def Roomy (b : Broker) : Prop := ∀ v ∈ b.providers.locals.values, v.places ≤ 0x10000000000000000

instance (b : Broker) : Decidable b.Roomy := inferInstanceAs (Decidable (∀ v ∈ b.providers.locals.values, _))

theorem Roomy.made_le {n : String} {l : LocalService} (h : b.Roomy) (hl : b.local? n = some l) :
    l.made ≤ 0x10000000000000000 := h (.made l) (Table.mem_values.2 ⟨n, local?_iff.1 hl⟩)

/-- A session refers to an object of the service that it belongs to. -/
theorem Shelves.object (hb : b.Shelves) (hm : b.object? id = some m) :
    ∃ s l a, b.sessions.find? id = some ⟨s, some (.here m.service)⟩ ∧ b.local? m.service = some l ∧
      s.place? = some a ∧ l.mark? a = some m := by
  obtain ⟨s, n, l, a, hfound, hl, ha, hmark⟩ := object?_iff.1 hm
  obtain rfl : m.service = n := (LocalService.service_of_mark? hmark).trans (hb.named n l hl)
  exact ⟨s, l, a, hfound, hl, ha, hmark⟩

/-- Two sessions do not refer to one object. -/
theorem eq_of_number_eq (hb : b.Shelves) (hroomy : b.Roomy) (hcounts : b.Counts m.service)
    (hm : b.object? id = some m) (hm' : b.object? id' = some m') (hservice : m'.service = m.service)
    (hnumber : m'.number = m.number) : id' = id := by
  obtain ⟨s, l, a, hfound, hl, ha, hmark⟩ := hb.object hm
  obtain ⟨s', l', a', hfound', hl', ha', hmark'⟩ := hb.object hm'
  rw [hservice] at hfound' hl'
  obtain rfl := Option.some.inj (hl.symm.trans hl')
  have hshelved := hb.shelved _ l hl (hroomy.made_le hl)
  obtain rfl := hshelved.numbered.distinct a a' m m' (hcounts l hl) hmark hmark' hnumber.symm
  exact hshelved.apart id' id s' s a hfound' hfound ha' ha

/-! ### Calls of hooks -/

/-- A factory that counts its objects is called with that of session `id`. -/
def CallsHook (b b' : Broker) (id : ServerId) (destroys : Bool) : Prop :=
  ∃ m n, b.provider? id = some (.here n) ∧ b.Counts n ∧ b.object? id = some m ∧
    b'.env.hookCalls = b.env.hookCalls ++ [⟨m.service, m.number, destroys⟩]

/-- A service that works on a session calls a hook with the object of the session, if it calls any. -/
theorem callsHook_initiate {n : String} {l : LocalService} {s : Session} {env : Env} (hl : b.local? n = some l)
    {t : Slot} (hfound : b.sessions.find? id = some t)
    (hprovider : t.provider = if s.phase = .createRequested then none else some (.here n))
    (hhandle : s.handle = t.session.handle) (hbefore : env.hookCalls = b.env.hookCalls)
    (hafter : b'.env.hookCalls = (l.initiate s env).env.hookCalls) :
    b'.env.hookCalls = b.env.hookCalls ∨ (s.phase = .upgradeRequested ∧ CallsHook b b' id false) ∨
      (s.phase = .closeRequested ∧ CallsHook b b' id true) := by
  have hobject : s.phase ≠ .createRequested → ∀ a m, s.place? = some a → l.mark? a = some m →
      b.provider? id = some (.here n) ∧ b.object? id = some m := by
    intro hphase a m ha hmark
    rw [if_neg hphase] at hprovider
    obtain ⟨u, provider⟩ := t
    obtain rfl : provider = some (.here n) := hprovider
    have hplace : u.place? = some a := (place?_of_handle hhandle).symm.trans ha
    refine ⟨?_, object?_iff.2 ⟨u, n, l, a, hfound, hl, hplace, hmark⟩⟩
    unfold provider?
    rw [hfound]
    rfl
  have hcounts : l.factory.made?.isSome = true → b.Counts n := by
    intro hcounts l' hl'
    obtain rfl := Option.some.inj (hl.symm.trans hl')
    exact hcounts
  rw [hafter, ← hbefore]
  unfold CallsHook
  rw [hafter, ← hbefore]
  cases hp : s.phase with
  | createRequested =>
    have hinit : l.initiate s env = l.create s env := by simp [LocalService.initiate, hp]
    rw [hinit]
    exact .inl (l.apart_create s env).hookCalls_eq
  | upgradeRequested =>
    have hinit : l.initiate s env = l.upgrade s env := by simp [LocalService.initiate, hp]
    rw [hinit]
    rcases l.hookCalls_upgrade s env with hnone | ⟨a, m, ha, hmark, hmakes, hcalls⟩
    · exact .inl hnone
    · obtain ⟨hn, hm⟩ := hobject (by rw [hp]; exact Phase.noConfusion) a m ha hmark
      exact .inr (.inl ⟨rfl, m, n, hn, hcounts hmakes, hm, hcalls⟩)
  | closeRequested =>
    have hinit : l.initiate s env = l.close s env := by simp [LocalService.initiate, hp]
    rw [hinit]
    rcases l.hookCalls_close s env with hnone | ⟨a, m, ha, hmark, hmakes, hcalls⟩
    · exact .inl hnone
    · obtain ⟨hn, hm⟩ := hobject (by rw [hp]; exact Phase.noConfusion) a m ha hmark
      exact .inr (.inr ⟨rfl, m, n, hn, hcounts hmakes, hm, hcalls⟩)
  | available | capHandedOut | closed | serviceDenied | insufficientRam | insufficientCaps =>
    have hinit : l.initiate s env = { service := l, session := s, env := env } := by simp [LocalService.initiate, hp]
    rw [hinit]
    exact .inl rfl

/-- In the turn of a session, a hook is called with its object, if any is called.  A session whose object is destroyed
is closed. -/
theorem callsHook_turn {phase : Phase} (hsound : b.Sound) (h : Turn phase b b' id) :
    b'.env.hookCalls = b.env.hookCalls ∨ (phase = .upgradeRequested ∧ CallsHook b b' id false) ∨
      (phase = .closeRequested ∧ CallsHook b b' id true ∧ b'.isLive id = false) := by
  cases h with
  | idle hsame =>
    rw [hsame]
    exact .inl rfl
  | stored t t' _ _ _ _ _ _ _ henv => exact .inl henv.hookCalls_eq
  | lost s s' p _ _ _ _ _ henv => exact .inl henv.hookCalls_eq
  | worked t p s s' r env o hfound hprovider hphase hhandle _ hlocals hbefore hgiven hafter _ hsessions _ _ hphase' =>
    subst hphase
    by_cases hp : ∃ n, p = .here n
    · obtain ⟨n, rfl⟩ := hp
      obtain ⟨v, hv, rfl⟩ := Option.map_eq_some_iff.1 hgiven
      rw [hlocals] at hv
      obtain ⟨l, rfl⟩ := hsound.builtIn.locals n v hv
      rcases callsHook_initiate (local?_iff.2 hv) hfound hprovider hhandle hbefore.hookCalls_eq hafter.hookCalls_eq with
        hnone | hupgrade | ⟨hclose, hcalls⟩
      · exact .inl hnone
      · exact .inr (.inl hupgrade)
      · have hinit : l.initiate s env = l.close s env := by simp [LocalService.initiate, hclose]
        have hself : b'.sessions.find? id = some ⟨s', some (.here n)⟩ := by
          rw [hsessions, Table.find?_modify_of _ hfound]
        have hclosed : s'.phase = .closed := by
          refine (hphase' hclose).trans ?_
          show (l.initiate s env).session.phase = _
          rw [hinit]
          exact (l.drops_close s env).2.2 hclose
        exact .inr (.inr ⟨hclose, hcalls, not_isLive_of_closed hself hclosed⟩)
    · have hnone := Registry.hookCalls_initiate? hgiven fun n hn => hp ⟨n, hn⟩
      exact .inl (hafter.hookCalls_eq.trans (hnone.trans hbefore.hookCalls_eq))

theorem hookCalls_restores {p : Provider} (h : b' = b ∨ Restores b b' id p) : b'.env.hookCalls = b.env.hookCalls := by
  rcases h with hsame | h
  · rw [hsame]
  · exact h.env.hookCalls_eq

/-- A part of an operation other than an upgrade and a close calls no hook. -/
theorem hookCalls_part (hsound : b.Sound) (hupgrade : ∀ id q, op ≠ .upgrade id q)
    (hclose : ∀ id, op ≠ .close id) (h : Part new op b b') : b'.env.hookCalls = b.env.hookCalls := by
  cases h with
  | routed id =>
    rcases callsHook_turn hsound (turn_route b id) with hnone | ⟨hphase, -⟩ | ⟨hphase, -⟩
    · exact hnone
    · cases hphase
    · cases hphase
  | upgraded id q hop => exact absurd hop (hupgrade id q)
  | closed id hop => exact absurd hop (hclose id)
  | answered p id r _ hserves => exact hookCalls_restores (restores_applyResponse (fun t ht => (hserves t ht).1) r)
  | dismissed k id => exact hookCalls_restores (restores_dismiss b k id)
  | provided hrearranged => rw [hrearranged.env]
  | registered l | opened d | forgotten keep | admitted id s => rfl
  | malformed id =>
    have happart : b.env.Apart (b.env.answer id .serviceDenied) := .record _ rfl
    exact happart.hookCalls_eq

/-- An operation calls a hook only if it upgrades or closes a session, and then that of its object. -/
theorem hookCalls_step (hsound : b.Sound) (hop : op.IsBuiltIn) : (b.step op).2.env.hookCalls = b.env.hookCalls ∨
    (∃ id q, op = .upgrade id q ∧ CallsHook b (b.step op).2 id false) ∨
      ∃ id, op = .close id ∧ CallsHook b (b.step op).2 id true ∧ (b.step op).2.isLive id = false := by
  by_cases hupgrade : ∃ id q, op = .upgrade id q
  · obtain ⟨id, q, rfl⟩ := hupgrade
    rcases callsHook_turn hsound (turn_upgrade b id q) with hnone | ⟨-, hcalls⟩ | ⟨hphase, -⟩
    · exact .inl hnone
    · exact .inr (.inl ⟨id, q, rfl, hcalls⟩)
    · cases hphase
  by_cases hclose : ∃ id, op = .close id
  · obtain ⟨id, rfl⟩ := hclose
    rcases callsHook_turn hsound (turn_close b id) with hnone | ⟨hphase, -⟩ | ⟨-, hcalls⟩
    · exact .inl hnone
    · cases hphase
    · exact .inr (.inr ⟨id, rfl, hcalls⟩)
  refine .inl ((parts_step hsound hop).induction (R := fun c d => d.env.hookCalls = c.env.hookCalls) hsound
    (fun _ => rfl) (fun _ _ _ hcd hde => hde.trans hcd) fun c d hc hpart => ?_).2
  exact hookCalls_part hc (fun id q h => hupgrade ⟨id, q, h⟩) (fun id h => hclose ⟨id, h⟩) hpart

/-! ### Objects of sessions -/

/-- A history from `b` made object `m` for session `id`, and no create has taken the id since. -/
def MadeFor (allowed : Broker → Op → Prop) (b c : Broker) (id : ServerId) (m : ObjectMark) : Prop :=
  ∃ d op, Reaches (fun _ _ => True) allowed b d ∧ op.IsBuiltIn ∧ allowed d op ∧ d.object? id = none ∧
    (d.step op).2.object? id = some m ∧
    Reaches (fun _ _ => True) (fun c op => allowed c op ∧ ¬op.Opens c id) (d.step op).2 c

/-- Operation `op` calls a hook with the object that was made for session `id`, and with that of no other session. -/
structure OwnCall (allowed : Broker → Op → Prop) (b c : Broker) (op : Op) (call : HookCall) (id : ServerId)
    (m : ObjectMark) : Prop where
  made : MadeFor allowed b c id m
  live : c.isLive id = true
  service : call.service = m.service
  number : call.number = m.number
  unique : ∀ id' m', MadeFor allowed b c id' m' → c.isLive id' = true → m'.service = m.service →
    m'.number = m.number → id' = id
  upgrade : call.destroys = false → ∃ q, op = .upgrade id q
  /-- An object is destroyed by the close of its session, which is closed then. -/
  close : call.destroys = true → op = .close id ∧ (c.step op).2.isLive id = false

/-- Sessions keep the objects that were made for them, and hooks are called with these. -/
structure ObjectsOwn (allowed : Broker → Op → Prop) (b c : Broker) : Prop where
  kept : ∀ id m, MadeFor allowed b c id m → c.isLive id = true → c.object? id = some m
  calls : ∀ op, op.IsBuiltIn → allowed c op → ∃ calls, (c.step op).2.env.hookCalls = c.env.hookCalls ++ calls ∧
    ∀ call ∈ calls, ∃ id m, OwnCall allowed b c op call id m

variable {env : Env} {config : RuntimeConfig}

theorem keepsObject_of_object? (hb : b.Shelves) (hm : b.object? id = some m) {k : Nat}
    (hk : ∀ l, b.local? m.service = some l → k ≤ l.made) : b.KeepsObject id m k := by
  intro _
  obtain ⟨s, l, a, hfound, hl, ha, hmark⟩ := hb.object hm
  exact ⟨s, l, a, hfound, hl, ha, hk l hl, fun _ => hmark⟩

/-- A session that keeps its object refers to it, while its service has given out at most `2 ^ 64` places. -/
theorem KeepsObject.object? {k : Nat} (h : b.KeepsObject id m k) (hlive : b.isLive id = true)
    (hfew : ∀ l, b.local? m.service = some l → l.made ≤ 0x10000000000000000) : b.object? id = some m := by
  obtain ⟨s, l, a, hfound, hl, ha, -, hmark⟩ := h hlive
  exact object?_iff.2 ⟨s, m.service, l, a, hfound, hl, ha, hmark (hfew l hl)⟩

/-- A session that refers to an object before and after an operation refers to the same one, and its service has given
out no more places before than after. -/
theorem object?_step (hsound : b.Sound) (hshelves : b.Shelves) (hop : op.IsBuiltIn) (hnew : op.RegistersNew b)
    (hm : b.object? id = some m) (hm' : (b.step op).2.object? id = some m')
    (hfew : ∀ l, (b.step op).2.local? m'.service = some l → l.made ≤ 0x10000000000000000) :
    m = m' ∧ ∀ l, b.local? m.service = some l → l.made ≤ 0x10000000000000000 := by
  have hpreserves := preserves_step hsound hshelves hop hnew
  obtain ⟨_, l, _, -, hl, -⟩ := hshelves.object hm
  have hkeeps : b.KeepsObject id m l.made := keepsObject_of_object? hshelves hm fun l' hl' =>
    Nat.le_of_eq (congrArg LocalService.made (Option.some.inj (hl.symm.trans hl')))
  have hkept := hpreserves.keepsObject id m l.made (not_opens_of_isLive (isLive_of_object? hsound hm) op) hkeeps
  have hlive : (b.step op).2.isLive id = true := isLive_of_object? ((parts_step hsound hop).sound hsound) hm'
  obtain ⟨_, l', _, hfound, hl', -, hmade, -⟩ := hkept hlive
  obtain ⟨_, _, _, hfound', -⟩ := hpreserves.shelves.object hm'
  have hservice : m.service = m'.service := by
    obtain ⟨-, hprovider⟩ := Slot.mk.inj (Option.some.inj (hfound.symm.trans hfound'))
    exact Provider.here.inj (Option.some.inj hprovider)
  rw [← hservice] at hfew
  refine ⟨Option.some.inj ((hkept.object? hlive hfew).symm.trans hm'), fun l₀ hl₀ => ?_⟩
  obtain rfl := Option.some.inj (hl.symm.trans hl₀)
  exact Nat.le_trans hmade (hfew l' hl')

/-- The object that a session refers to was made for it. -/
theorem madeFor_of_object? (h : Reaches (fun _ _ => True) (fun c op => op.RegistersNew c) (start env config) c)
    (hm : c.object? id = some m) (hfew : ∀ l, c.local? m.service = some l → l.made ≤ 0x10000000000000000) :
    MadeFor (fun c op => op.RegistersNew c) (start env config) c id m := by
  induction h generalizing m with
  | refl => cases hm
  | @op d op h hop hnew ih =>
    have hsound := h.sound (sound_start env config)
    have hshelves := h.shelves (fun _ _ hnew => hnew) (sound_start env config) (shelves_start env config)
    cases hbefore : d.object? id with
    | none => exact ⟨d, op, h, hop, hnew, hbefore, hm, .refl⟩
    | some u =>
      have hopens := not_opens_of_isLive (isLive_of_object? hsound hbefore) op
      obtain ⟨rfl, hfew'⟩ := object?_step hsound hshelves hop hnew hbefore hm hfew
      obtain ⟨e, op₀, he, hop₀, hnew₀, hnone, hmade, hlater⟩ := ih hbefore hfew'
      exact ⟨e, op₀, he, hop₀, hnew₀, hnone, hmade, .op op hlater hop ⟨hnew, hopens⟩⟩
  | around h _ ih =>
    obtain ⟨d, op, hd, hop, hnew, hnone, hmade, hlater⟩ := ih hm hfew
    exact ⟨d, op, hd, hop, hnew, hnone, hmade, .around hlater trivial⟩

/-- A session keeps the object that was made for it. -/
theorem object?_of_madeFor (h : MadeFor (fun c op => op.RegistersNew c) (start env config) c id m)
    (hlive : c.isLive id = true) (hroomy : c.Roomy) : c.object? id = some m := by
  obtain ⟨d, op, hd, hop, hnew, -, hmade, hlater⟩ := h
  have hsound := hd.sound (sound_start env config)
  have hshelves := hd.shelves (fun _ _ hnew => hnew) (sound_start env config) (shelves_start env config)
  have hsound' := (parts_step hsound hop).sound hsound
  have hshelves' := (preserves_step hsound hshelves hop hnew).shelves
  have hkeeps := hlater.keepsObject hsound' hshelves' (keepsObject_of_object? hshelves' hmade fun _ _ => Nat.zero_le _)
  exact hkeeps.object? hlive fun _ => hroomy.made_le

/-- The hook of a session's object is called with the object that was made for the session, and for no other one. -/
theorem ownCall_of_callsHook (h : Reaches (fun _ _ => True) (fun c op => op.RegistersNew c) (start env config) c)
    (hroomy : c.Roomy) {destroys : Bool} (hcalls : CallsHook c (c.step op).2 id destroys)
    (hupgrade : destroys = false → ∃ q, op = .upgrade id q)
    (hclose : destroys = true → op = .close id ∧ (c.step op).2.isLive id = false) :
    ∃ calls, (c.step op).2.env.hookCalls = c.env.hookCalls ++ calls ∧ ∀ call ∈ calls, ∃ id m,
      OwnCall (fun c op => op.RegistersNew c) (start env config) c op call id m := by
  have hsound := h.sound (sound_start env config)
  have hshelves := h.shelves (fun _ _ hnew => hnew) (sound_start env config) (shelves_start env config)
  obtain ⟨m, n, hn, hcounts, hm, hone⟩ := hcalls
  obtain ⟨s, _, _, hfound, -⟩ := hshelves.object hm
  obtain rfl : m.service = n := by
    unfold provider? at hn
    rw [hfound] at hn
    exact Provider.here.inj (Option.some.inj hn)
  refine ⟨_, hone, fun call hcall => ⟨id, m, ?_⟩⟩
  obtain rfl := List.mem_singleton.1 hcall
  refine
    { made := madeFor_of_object? h hm fun _ => hroomy.made_le
      live := isLive_of_object? hsound hm
      service := rfl
      number := rfl
      unique := fun id' m' hmade hlive hsame hnumber => ?_
      upgrade := hupgrade
      close := hclose }
  exact eq_of_number_eq hshelves hroomy hcounts hm (object?_of_madeFor hmade hlive hroomy) hsame hnumber

/-- The object of a session is its own, while every service that is registered replaces none that a session needs:
sessions that are not closed keep the objects that were made for them, and every hook is called with the object of the
session that is upgraded or closed. -/
theorem objects_own (h : Reaches (fun _ _ => True) (fun c op => op.RegistersNew c) (start env config) c)
    (hroomy : c.Roomy) : ObjectsOwn (fun c op => op.RegistersNew c) (start env config) c := by
  refine ⟨fun id m hmade hlive => object?_of_madeFor hmade hlive hroomy, fun op hop _ => ?_⟩
  rcases hookCalls_step (h.sound (sound_start env config)) hop with hnone | ⟨id, q, hop', hcalls⟩ |
    ⟨id, hop', hcalls, hover⟩
  · exact ⟨[], by rw [hnone, List.append_nil], fun call hcall => by cases hcall⟩
  · exact ownCall_of_callsHook h hroomy hcalls (fun _ => ⟨q, hop'⟩) fun h => by cases h
  · exact ownCall_of_callsHook h hroomy hcalls (fun h => by cases h) fun _ => ⟨hop', hover⟩

/-! ### Two histories in small -/

/-- All sessions are of one service of this component. -/
def localConfig : RuntimeConfig := { rules := [{ target := .here "rom" }] }

/-- The service makes an object for every session. -/
def roomService : LocalService := { name := "rom", factory := .scripted [] 0 }

/-- Two sessions have their objects. -/
def bothMade : Broker := (start sampleEnv localConfig).run
  [.registerLocal (.made roomService), .create ⟨0⟩ "rom" "ram_quota=5" {}, .create ⟨1⟩ "rom" "ram_quota=6" {}]

/-- The objects of two sessions are their own, and closing the first destroys the first. -/
theorem objects_own_bothMade :
    ObjectsOwn (fun c op => op.RegistersNew c) (start sampleEnv localConfig) bothMade ∧
      (bothMade.object? ⟨0⟩).map (·.number) = some 0 ∧ (bothMade.object? ⟨1⟩).map (·.number) = some 1 ∧
      (bothMade.step (.close ⟨0⟩)).2.env.hookCalls = [⟨"rom", 0, true⟩] := by
  have hregistered : Reaches (fun _ _ => True) (fun c op => op.RegistersNew c) (start sampleEnv localConfig)
      ((start sampleEnv localConfig).step (.registerLocal (.made roomService))).2 :=
    .op _ .refl ⟨roomService, rfl⟩ ⟨rfl, fun id s hfound => by cases hfound⟩
  have hreaches : Reaches (fun _ _ => True) (fun c op => op.RegistersNew c) (start sampleEnv localConfig) bothMade :=
    reaches_run [.create ⟨0⟩ "rom" "ram_quota=5" {}, .create ⟨1⟩ "rom" "ram_quota=6" {}] hregistered
      (by simp [Op.IsBuiltIn, Op.RegistersNew])
  have hroomy : bothMade.Roomy := by decide +kernel
  exact ⟨objects_own hreaches hroomy, by decide +kernel, by decide +kernel, by decide +kernel⟩

/-- The service is registered anew while a session uses it, and another session is created. -/
def replacedInUse : Broker := (start sampleEnv localConfig).run
  [.registerLocal (.made roomService), .create ⟨0⟩ "rom" "ram_quota=5" {}, .registerLocal (.made roomService),
    .create ⟨1⟩ "rom" "ram_quota=6" {}]

/-- A service that replaces one in use loses the objects of its sessions: both sessions refer to the first place of the
new service, and closing the first session destroys the object of the second, which is still open. -/
theorem object_lost :
    (replacedInUse.object? ⟨0⟩).isSome = true ∧ replacedInUse.object? ⟨0⟩ = replacedInUse.object? ⟨1⟩ ∧
      ∃ c, c.Roomy ∧ Reaches (fun _ _ => True) (fun _ _ => True) (start sampleEnv localConfig) c ∧
        ¬ObjectsOwn (fun _ _ => True) (start sampleEnv localConfig) c := by
  obtain ⟨d, hd⟩ : ∃ d, d = (start sampleEnv localConfig).run
      [.registerLocal (.made roomService), .create ⟨0⟩ "rom" "ram_quota=5" {}, .registerLocal (.made roomService)] :=
    ⟨_, rfl⟩
  have hreaches : Reaches (fun _ _ => True) (fun _ _ => True) (start sampleEnv localConfig) d := by
    rw [hd]
    exact reaches_run _ .refl (by simp [Op.IsBuiltIn])
  have hcreated : (d.step (.create ⟨1⟩ "rom" "ram_quota=6" {})).2 = replacedInUse := by
    rw [hd]
    rfl
  obtain ⟨m, hm⟩ : ∃ m, replacedInUse.object? ⟨1⟩ = some m := Option.isSome_iff_exists.1 (by decide +kernel)
  have hmade : MadeFor (fun _ _ => True) (start sampleEnv localConfig) (replacedInUse.step (.close ⟨0⟩)).2 ⟨1⟩ m := by
    refine ⟨d, .create ⟨1⟩ "rom" "ram_quota=6" {}, hreaches, trivial, trivial, ?_, hcreated ▸ hm, ?_⟩
    · rw [hd]
      decide +kernel
    · rw [hcreated]
      exact .op (.close ⟨0⟩) .refl trivial ⟨trivial, fun hopens => hopens⟩
  refine ⟨by decide +kernel, by decide +kernel, (replacedInUse.step (.close ⟨0⟩)).2, by decide +kernel, ?_,
    fun hown => ?_⟩
  · rw [← hcreated]
    exact .op (.close ⟨0⟩) (.op _ hreaches trivial trivial) trivial trivial
  · have hkept := hown.kept ⟨1⟩ m hmade (by decide +kernel)
    have hlost : (replacedInUse.step (.close ⟨0⟩)).2.object? ⟨1⟩ = none := by decide +kernel
    cases hlost.symm.trans hkept

end Broker

end SessionBroker
