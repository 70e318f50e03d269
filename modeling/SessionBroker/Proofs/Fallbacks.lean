import SessionBroker.Proofs.Demands

/-!
# SessionBroker.Proofs.Fallbacks — waiting for the grants of the parent

A component that has no handler of its own waits at each resource request, on a signal context that it makes for this.
The parent either keeps the last handler it was given, and submits it at each request, or drops every handler.

* `Env.InStep own given env`: how the component waits fits what the parent holds, where `own` are the signal contexts of
  the component, and `given` is the handler that it installed.
* `Env.Returns env text`: a resource request does not wait, or it waits for what is there.
* `Env.InStep.through`: all requests of a call return, and keep in step.
* `fallback_in_step`: so does every sequence of calls, and between two changes of the handler by the component one
  handler is installed for waiting at most.
-/

namespace SessionBroker

namespace Env

variable {env env' : Env} {own : List Nat} {given handler : Option Nat} {n : Nat} {text : String}
  {signals : List Signal} {P : Env → String → Prop}

/-! ### One resource request -/

/-- A handler submits a signal, if there is one. -/
def submitted (signals : List Signal) : Option Nat → List Signal
  | some n => signals.modify n Signal.submit
  | none => signals

/-- A handler is dropped, if there is one. -/
def dropped (signals : List Signal) : Option Nat → List Signal
  | some n => signals.modify n Signal.drop
  | none => signals

theorem giveHandler_eq (env : Env) (handler : Option Nat) : env.giveHandler handler =
    { env with
      trace := env.trace ++ [.handlerSet handler.isSome]
      parent.handler := if env.parent.keepsHandlers then handler else none
      signals := dropped env.signals (if env.parent.keepsHandlers then env.parent.handler else handler) } := by
  unfold giveHandler
  dsimp only [record, modifySignal]
  cases (if env.parent.keepsHandlers then env.parent.handler else handler) <;> rfl

/-- A resource request is recorded, and the handler that the parent holds submits a signal. -/
theorem askResources_eq (env : Env) (text : String) : ∃ bank, env.askResources text =
    { env with
      bank := bank
      trace := env.trace ++ [.resourcesAsked text]
      parent.grants := env.parent.grants.tail
      signals := submitted env.signals env.parent.handler } := by
  unfold askResources
  dsimp only
  rw [grants_eq]
  dsimp only [record, modifySignal]
  cases env.parent.handler <;> exact ⟨_, rfl⟩

/-- A pending signal is consumed, and without handlers a wait ends at once. -/
theorem waitFor_eq {s : Signal} (hs : env.signals[n]? = some s) (hready : s.pending = true ∨ s.handlers = 0) :
    env.waitFor n = { env with signals := env.signals.set n { s with pending := false } } := by
  obtain ⟨pending, handlers⟩ := s
  unfold waitFor
  rw [hs]
  cases pending with
  | true => rfl
  | false =>
    obtain rfl : handlers = 0 := by simpa using hready
    rfl

/-- A wait on context `n` ends, and leaves no signal. -/
structure Wakes (env : Env) (n : Nat) : Prop where
  /-- A signal is pending, or all handlers are gone. -/
  ready : ∃ s, env.signals[n]? = some s ∧ (s.pending = true ∨ s.handlers = 0)
  ends : (env.waitFor n).stalled = env.stalled
  left : ∃ s, (env.waitFor n).signals[n]? = some s ∧ s.pending = false

theorem wakes_of_ready {s : Signal} (hs : env.signals[n]? = some s) (hready : s.pending = true ∨ s.handlers = 0) :
    env.Wakes n := by
  have hlt : n < env.signals.length := (List.getElem?_eq_some_iff.1 hs).1
  refine ⟨⟨s, hs, hready⟩, ?_, ⟨{ s with pending := false }, ?_, rfl⟩⟩
  · rw [waitFor_eq hs hready]
  · rw [waitFor_eq hs hready]
    exact List.getElem?_set_self hlt

/-- A resource request does not wait while a handler of the component is installed, and any other one waits for what is
there. -/
def Returns (env : Env) (text : String) : Prop :=
  (env.fallback = .custom ∧ env.requestResources text = env.askResources text) ∨
    ∃ n, (env.requestResources text).fallback = .blocking n ∧
      env.requestResources text = (env.prepareFallback.askResources text).waitFor n ∧
      (env.prepareFallback.askResources text).Wakes n

/-- A handler of the component is left in place. -/
theorem prepareFallback_custom (h : env.prepareFallback.fallback = .custom) :
    env.fallback = .custom ∧ env.prepareFallback = env := by
  unfold prepareFallback at h ⊢
  cases hfallback : env.fallback with
  | idle =>
    rw [hfallback] at h
    cases h
  | blocking n =>
    rw [hfallback] at h
    cases hfallback.symm.trans h
  | custom => exact ⟨rfl, rfl⟩

/-! ### Contexts without a signal -/

/-- No signal is pending but on contexts of the component. -/
def NoneLeft (own : List Nat) (signals : List Signal) : Prop :=
  ∀ n s, n ∉ own → signals[n]? = some s → s.pending = false

namespace NoneLeft

theorem new (h : NoneLeft own signals) : NoneLeft own (signals ++ [({} : Signal)]) := by
  intro n s hn hs
  rw [List.getElem?_append] at hs
  split at hs
  · exact h n s hn hs
  · rw [List.getElem?_singleton] at hs
    split at hs
    · obtain rfl := Option.some.inj hs
      rfl
    · cases hs

/-- A context of the component, or one on which no signal becomes pending. -/
theorem modify (h : NoneLeft own signals) {f : Signal → Signal}
    (hf : n ∈ own ∨ ∀ s, s.pending = false → (f s).pending = false) : NoneLeft own (signals.modify n f) := by
  intro m s hm hs
  rw [List.getElem?_modify] at hs
  obtain ⟨s₀, hs₀, rfl⟩ := Option.map_eq_some_iff.1 hs
  have hquiet := h m s₀ hm hs₀
  split
  · rename_i hnm
    subst hnm
    exact hf.resolve_left hm s₀ hquiet
  · exact hquiet

theorem dropped (h : NoneLeft own signals) (handler : Option Nat) : NoneLeft own (dropped signals handler) := by
  cases handler with
  | none => exact h
  | some n => exact h.modify (.inr fun _ hs => hs)

theorem mono {own' : List Nat} (h : NoneLeft own signals) (hown : ∀ n ∈ own, n ∈ own') : NoneLeft own' signals :=
  fun n s hn hs => h n s (fun hmem => hn (hown n hmem)) hs

end NoneLeft

theorem length_dropped (signals : List Signal) (handler : Option Nat) :
    (dropped signals handler).length = signals.length := by
  cases handler with
  | none => rfl
  | some n => exact List.length_modify _ _ _

theorem length_submitted (signals : List Signal) (handler : Option Nat) :
    (submitted signals handler).length = signals.length := by
  cases handler with
  | none => rfl
  | some n => exact List.length_modify _ _ _

/-! ### What the component and its parent agree on -/

/-- The handler that a parent holds which keeps the last one it was given. -/
def installed (given : Option Nat) : Fallback → Option Nat
  | .idle => none
  | .blocking n => some n
  | .custom => given

/-- How the component waits for resources fits what the parent holds, where `own` are the signal contexts of the
component, and `given` is the handler that it installed. -/
structure InStep (own : List Nat) (given : Option Nat) (env : Env) : Prop where
  /-- Every wait so far ended. -/
  returned : env.stalled = false
  handler : env.parent.handler = if env.parent.keepsHandlers then installed given env.fallback else none
  given : if env.fallback = .custom then ∃ n ∈ own, given = some n else given = none
  /-- The context that the component waits on is none of its own, and has no handlers if the parent drops them. -/
  waits : ∀ n, env.fallback = .blocking n → n ∉ own ∧
    ∃ s, env.signals[n]? = some s ∧ (env.parent.keepsHandlers = false → s.handlers = 0)
  made : ∀ n ∈ own, n < env.signals.length
  /-- No signal is left over on a context that the component waited on. -/
  left : NoneLeft own env.signals

namespace InStep

/-- What a parent that keeps handlers holds, in each state of the component. -/
theorem holds (h : env.InStep own given) (hkeeps : env.parent.keepsHandlers = true) :
    (env.fallback = .idle ∧ env.parent.handler = none) ∨
      (∃ n, env.fallback = .blocking n ∧ env.parent.handler = some n ∧ n ∉ own) ∨
      env.fallback = .custom ∧ ∃ n ∈ own, env.parent.handler = some n ∧ given = some n := by
  have hgiven := h.given
  have hhandler := h.handler
  rw [if_pos hkeeps] at hhandler
  cases hfallback : env.fallback with
  | idle =>
    rw [hfallback] at hhandler
    exact .inl ⟨rfl, hhandler⟩
  | blocking n =>
    rw [hfallback] at hhandler
    exact .inr (.inl ⟨n, rfl, hhandler, (h.waits n hfallback).1⟩)
  | custom =>
    rw [if_pos hfallback] at hgiven
    obtain ⟨n, hn, rfl⟩ := hgiven
    rw [hfallback] at hhandler
    exact .inr (.inr ⟨rfl, n, hn, hhandler, rfl⟩)

theorem still (h : env.InStep own given) (hstill : env.Still env') : env'.InStep own given where
  returned := hstill.stalled.trans h.returned
  handler := by rw [hstill.handler, hstill.keeps, hstill.fallback]; exact h.handler
  given := by rw [hstill.fallback]; exact h.given
  waits := by rw [hstill.fallback, hstill.signals, hstill.keeps]; exact h.waits
  made := by rw [hstill.signals]; exact h.made
  left := by rw [hstill.signals]; exact h.left

/-- Before it waits, the component has a context to wait on, unless it installed a handler of its own. -/
theorem prepareFallback (h : env.InStep own given) :
    env.prepareFallback.InStep own given ∧ env.prepareFallback.fallback ≠ .idle := by
  unfold Env.prepareFallback
  cases hfallback : env.fallback with
  | blocking n => exact ⟨h, by rw [hfallback]; exact Fallback.noConfusion⟩
  | custom => exact ⟨h, by rw [hfallback]; exact Fallback.noConfusion⟩
  | idle =>
    refine ⟨?_, Fallback.noConfusion⟩
    have hgiven : given = none := by simpa [hfallback] using h.given
    have hnone : env.parent.handler = none := by simpa [hfallback, installed] using h.handler
    have hnew : env.signals.length ∉ own := fun hn => Nat.lt_irrefl _ (h.made _ hn)
    dsimp only [newSignal]
    rw [giveHandler_eq]
    dsimp only
    rw [hnone]
    refine
      { returned := h.returned
        handler := rfl
        given := hgiven
        waits := ?_
        made := fun n hn => ?_
        left := h.left.new.dropped _ }
    · rintro n hn
      obtain rfl := Fallback.blocking.inj hn
      refine ⟨hnew, ?_⟩
      -- a parent that keeps the handler drops none, and one that does not drops the only one
      cases env.parent.keepsHandlers with
      | true => exact ⟨{}, List.getElem?_concat_length, nofun⟩
      | false =>
        refine ⟨{ handlers := 0 }, ?_, fun _ => rfl⟩
        simp [Env.dropped, Signal.drop]
    · have hlt := h.made n hn
      rw [length_dropped, List.length_append]
      exact Nat.lt_add_right 1 hlt

/-- A request that is made with the component's own handler installed leaves its signal to the component. -/
theorem askResources_custom (h : env.InStep own given) (hcustom : env.fallback = .custom) :
    (env.askResources text).InStep own given := by
  obtain ⟨bank, heq⟩ := env.askResources_eq text
  obtain ⟨n, hn, rfl⟩ : ∃ n ∈ own, given = some n := by simpa [hcustom] using h.given
  rw [heq]
  refine
    { returned := h.returned
      handler := h.handler
      given := h.given
      waits := fun m hm => ?_
      made := fun m hm => ?_
      left := ?_ }
  · rw [show env.fallback = .blocking m from hm] at hcustom
    cases hcustom
  · rw [length_submitted]
    exact h.made m hm
  · have hholds := h.handler
    rw [hcustom] at hholds
    dsimp only
    rw [hholds]
    cases env.parent.keepsHandlers with
    | true => exact h.left.modify (.inl hn)
    | false => exact h.left

/-- A request that is waited for finds a signal or no handler, and the wait consumes the signal. -/
theorem askResources_blocking (h : env.InStep own given) (hblocking : env.fallback = .blocking n) :
    (env.askResources text).Wakes n ∧ ((env.askResources text).waitFor n).InStep own given := by
  obtain ⟨bank, heq⟩ := env.askResources_eq text
  obtain ⟨hn, s, hs, hgone⟩ := h.waits n hblocking
  have hholds := h.handler
  rw [hblocking] at hholds
  obtain ⟨s', hs', hready, hhandlers⟩ : ∃ s', (env.askResources text).signals[n]? = some s' ∧
      (s'.pending = true ∨ s'.handlers = 0) ∧ s'.handlers = s.handlers := by
    rw [heq, hholds]
    cases hkeeps : env.parent.keepsHandlers with
    | true =>
      refine ⟨s.submit, ?_, .inl rfl, rfl⟩
      simp [installed, submitted, hs]
    | false => exact ⟨s, hs, .inr (hgone hkeeps), rfl⟩
  have hlength : (env.askResources text).signals.length = env.signals.length := by
    rw [heq]
    exact length_submitted _ _
  have hlt : n < (env.askResources text).signals.length := (List.getElem?_eq_some_iff.1 hs').1
  refine ⟨wakes_of_ready hs' hready, ?_⟩
  rw [waitFor_eq hs' hready]
  refine
    { returned := by rw [heq]; exact h.returned
      handler := by rw [heq]; exact h.handler
      given := by rw [heq]; exact h.given
      waits := fun m hm => ?_
      made := fun m hm => ?_
      left := fun m u hm hu => ?_ }
  · rw [heq] at hm
    obtain rfl := Fallback.blocking.inj (hblocking.symm.trans hm)
    refine ⟨hn, _, List.getElem?_set_self hlt, fun hkeeps => ?_⟩
    rw [heq] at hkeeps
    exact hhandlers.trans (hgone hkeeps)
  · rw [List.length_set, hlength]
    exact h.made m hm
  · by_cases hmn : n = m
    · subst hmn
      rw [List.getElem?_set_self hlt] at hu
      obtain rfl := Option.some.inj hu
      rfl
    · rw [List.getElem?_set_ne hmn, heq, hholds] at hu
      have hsame : (submitted env.signals (if env.parent.keepsHandlers then installed given (.blocking n)
          else none))[m]? = env.signals[m]? := by
        cases env.parent.keepsHandlers with
        | true => simp [installed, submitted, hmn]
        | false => rfl
      exact h.left m u hm (hsame.symm.trans hu)

/-- A resource request returns, and keeps in step. -/
theorem requestResources (h : env.InStep own given) (text : String) :
    env.Returns text ∧ (env.requestResources text).InStep own given := by
  obtain ⟨hready, hnot⟩ := h.prepareFallback
  have hsame : (env.prepareFallback.askResources text).fallback = env.prepareFallback.fallback := by
    obtain ⟨bank, heq⟩ := env.prepareFallback.askResources_eq text
    rw [heq]
  cases hfallback : env.prepareFallback.fallback with
  | idle => exact absurd hfallback hnot
  | custom =>
    obtain ⟨hcustom, hprepared⟩ := prepareFallback_custom hfallback
    have hasks : env.requestResources text = env.askResources text := by
      unfold Env.requestResources
      dsimp only
      rw [hsame, hfallback, hprepared]
    rw [Returns, hasks]
    exact ⟨.inl ⟨hcustom, rfl⟩, h.askResources_custom hcustom⟩
  | blocking n =>
    have hwaits : env.requestResources text = (env.prepareFallback.askResources text).waitFor n := by
      unfold Env.requestResources
      dsimp only
      rw [hsame, hfallback]
    obtain ⟨hwakes, hstep⟩ : (env.prepareFallback.askResources text).Wakes n ∧
        ((env.prepareFallback.askResources text).waitFor n).InStep own given := hready.askResources_blocking hfallback
    refine ⟨.inr ⟨n, ?_, hwaits, hwakes⟩, by rw [hwaits]; exact hstep⟩
    obtain ⟨s, hs, hsignal⟩ := hwakes.ready
    rw [hwaits, waitFor_eq hs hsignal]
    exact hsame.trans hfallback

/-- All requests that are made on the way return. -/
theorem through (h : env.InStep own given) (hthrough : env.Through (fun _ _ => True) env') :
    env.Through Returns env' ∧ env'.InStep own given := by
  induction hthrough with
  | still hstill => exact ⟨.still hstill, h.still hstill⟩
  | asked text _ _ hstill ih =>
    obtain ⟨hbefore, hstep⟩ := ih
    obtain ⟨hreturns, hafter⟩ := hstep.requestResources text
    exact ⟨.asked text hbefore hreturns hstill, hafter.still hstill⟩

end InStep

/-! ### Handlers of the component -/

namespace InStep

/-- The component makes a signal context of its own. -/
theorem newSignal (h : env.InStep own given) : env.newSignal.2.InStep (env.signals.length :: own) given where
  returned := h.returned
  handler := h.handler
  given := by
    have hgiven := h.given
    show if env.fallback = .custom then _ else _
    split
    · rename_i hcustom
      rw [if_pos hcustom] at hgiven
      obtain ⟨n, hn, heq⟩ := hgiven
      exact ⟨n, List.mem_cons_of_mem _ hn, heq⟩
    · rename_i hother
      rwa [if_neg hother] at hgiven
  waits := by
    intro n hn
    obtain ⟨hown, s, hs, hgone⟩ := h.waits n hn
    have hlt : n < env.signals.length := (List.getElem?_eq_some_iff.1 hs).1
    refine ⟨?_, s, (List.getElem?_append_left hlt).trans hs, hgone⟩
    rw [List.mem_cons]
    rintro (rfl | hmem)
    · exact Nat.lt_irrefl _ hlt
    · exact hown hmem
  made := by
    intro n hn
    show n < (env.signals ++ [({} : Signal)]).length
    rw [List.length_append]
    rcases List.mem_cons.1 hn with rfl | hn
    · exact Nat.lt_add_one _
    · exact Nat.lt_add_right 1 (h.made n hn)
  left := h.left.new.mono fun n hn => List.mem_cons_of_mem _ hn

/-- The component hands out a further handler of a context of its own. -/
theorem share (h : env.InStep own given) (hn : n ∈ own) : (env.modifySignal n Signal.share).InStep own given where
  returned := h.returned
  handler := h.handler
  given := h.given
  waits m hm := by
    obtain ⟨hown, s, hs, hgone⟩ := h.waits m hm
    have hne : n ≠ m := fun he => hown (he ▸ hn)
    refine ⟨hown, s, ?_, hgone⟩
    show (env.signals.modify n Signal.share)[m]? = some s
    rw [List.getElem?_modify_ne _ _ hne, hs]
  made m hm := by
    show m < (env.signals.modify n Signal.share).length
    rw [List.length_modify]
    exact h.made m hm
  left := h.left.modify (.inl hn)

/-- The component installs a handler, or retires it. -/
theorem setHandler (h : env.InStep own given) (hhandler : ∀ n, handler = some n → n ∈ own) :
    (env.setHandler handler).InStep own handler := by
  unfold Env.setHandler
  rw [giveHandler_eq]
  cases handler with
  | none =>
    exact
      { returned := h.returned
        handler := by cases env.parent.keepsHandlers <;> rfl
        given := rfl
        waits := nofun
        made := fun n hn => by rw [length_dropped]; exact h.made n hn
        left := h.left.dropped _ }
  | some n =>
    exact
      { returned := h.returned
        handler := rfl
        given := ⟨n, hhandler n rfl, rfl⟩
        waits := nofun
        made := fun n hn => by rw [length_dropped]; exact h.made n hn
        left := h.left.dropped _ }

end InStep

/-! ### Handlers that are installed for waiting -/

/-- How often the parent was given a handler. -/
def handlersGiven (env : Env) : Nat := env.trace.count (.handlerSet true)

/-- How many handlers will be installed before the next wait. -/
def handlersDue (env : Env) : Nat := if env.fallback = .idle then 1 else 0

theorem Still.handlersGiven_eq (h : env.Still env') : env'.handlersGiven = env.handlersGiven := by
  obtain ⟨es, htrace, hes⟩ := h.logs
  have hnone : es.count (.handlerSet true) = 0 := List.count_eq_zero.2 fun hmem => by cases hes _ hmem
  rw [handlersGiven, htrace, List.count_append, hnone]
  rfl

theorem requestResources_fields (env : Env) (text : String) :
    (env.requestResources text).fallback = env.prepareFallback.fallback ∧
      (env.requestResources text).trace = env.prepareFallback.trace ++ [.resourcesAsked text] := by
  obtain ⟨bank, heq⟩ := env.prepareFallback.askResources_eq text
  have hwait : ∀ (e : Env) (n : Nat), (e.waitFor n).fallback = e.fallback ∧ (e.waitFor n).trace = e.trace := by
    intro e n
    unfold waitFor
    split
    · exact ⟨rfl, rfl⟩
    · dsimp only
      split <;> exact ⟨rfl, rfl⟩
  unfold requestResources
  dsimp only
  split
  · rw [(hwait _ _).1, (hwait _ _).2, heq]
    exact ⟨rfl, rfl⟩
  · rw [heq]
    exact ⟨rfl, rfl⟩
  · rw [heq]
    exact ⟨rfl, rfl⟩

/-- A resource request installs the handler that is due, and no other. -/
theorem handlers_requestResources (env : Env) (text : String) :
    (env.requestResources text).handlersGiven + (env.requestResources text).handlersDue =
      env.handlersGiven + env.handlersDue := by
  obtain ⟨hfallback, htrace⟩ := env.requestResources_fields text
  unfold handlersGiven handlersDue
  rw [hfallback, htrace, List.count_append]
  unfold prepareFallback
  cases hf : env.fallback with
  | idle =>
    dsimp only [newSignal]
    rw [giveHandler_eq]
    simp
  | blocking n => simp [hf]
  | custom => simp [hf]

/-- However many requests are made, the handler that is due is installed, and no other. -/
theorem Through.handlers (h : env.Through P env') :
    env'.handlersGiven + env'.handlersDue = env.handlersGiven + env.handlersDue := by
  have hstill : ∀ {e e' : Env}, e.Still e' →
      e'.handlersGiven + e'.handlersDue = e.handlersGiven + e.handlersDue := by
    intro e e' hstill
    rw [hstill.handlersGiven_eq, handlersDue, hstill.fallback]
    rfl
  induction h with
  | still h => exact hstill h
  | asked text _ _ h ih => rw [hstill h, handlers_requestResources, ih]

end Env

/-! ### Sequences of calls -/

/-- A component that calls its parent, with the signal contexts that it made, and the handler that it installed. -/
structure Client where
  env : Env
  own : List Nat := []
  given : Option Nat := none

namespace Client

/-- A call of a component to its parent. -/
inductive Call where
  /-- Ask for resources. -/
  | request (text : String)
  /-- Install a handler of a signal context that is new. -/
  | install
  /-- Install a further handler of a signal context that the component made before. -/
  | reinstall (n : Nat)
  /-- Retire the handler that was installed. -/
  | retire
  | upgrade (id : ClientId) (args : Args)
  | session (id : ClientId) (service : String) (args : Args) (affinity : Affinity)
  /-- Let a service of the parent work on a session. -/
  | create (p : ParentService) (s : Session)

/-- Whether a call installs a handler of the component or retires it. -/
def Call.setsHandler : Call → Bool
  | .install | .reinstall _ | .retire => true
  | _ => false

def call (c : Client) : Call → Client
  | .request text => { c with env := c.env.requestResources text }
  | .install =>
    { env := c.env.installHandler.2, own := c.env.installHandler.1 :: c.own, given := some c.env.installHandler.1 }
  | .reinstall n =>
    if n ∈ c.own then { c with env := (c.env.modifySignal n Signal.share).setHandler (some n), given := some n } else c
  | .retire => { c with env := c.env.setHandler none, given := none }
  | .upgrade id args => { c with env := (c.env.upgrade id args).2 }
  | .session id service args affinity => { c with env := (c.env.session id service args affinity).2 }
  | .create p s => { c with env := (p.initiate s c.env).env }

def run (c : Client) (calls : List Call) : Client := calls.foldl call c

/-- A component that has not called its parent yet. -/
def new (env : Env) : Client where
  env := { env with fallback := .idle, signals := [], parent.handler := none, stalled := false }

variable {c : Client} {call : Call}

theorem inStep_new (env : Env) : (new env).env.InStep (new env).own (new env).given where
  returned := rfl
  handler := by
    show none = if env.parent.keepsHandlers then none else none
    split <;> rfl
  given := rfl
  waits := nofun
  made := nofun
  left := nofun

/-- A call other than a change of the handler is made of resource requests. -/
theorem through_call (c : Client) (h : call.setsHandler = false) :
    c.env.Through (fun _ _ => True) (c.call call).env ∧ (c.call call).own = c.own ∧ (c.call call).given = c.given := by
  cases call with
  | request text => exact ⟨c.env.through_requestResources text, rfl, rfl⟩
  | install | reinstall n | retire => cases h
  | upgrade id args => exact ⟨c.env.through_upgrade id args, rfl, rfl⟩
  | session id service args affinity => exact ⟨.still (c.env.still_session id service args affinity), rfl, rfl⟩
  | create p s => exact ⟨p.through_initiate s c.env, rfl, rfl⟩

theorem inStep_call (h : c.env.InStep c.own c.given) (call : Call) :
    (c.call call).env.InStep (c.call call).own (c.call call).given := by
  cases hsets : call.setsHandler with
  | false =>
    obtain ⟨hthrough, hown, hgiven⟩ := c.through_call hsets
    rw [hown, hgiven]
    exact (h.through hthrough).2
  | true =>
    cases call with
    | install => exact h.newSignal.setHandler fun n hn => by rw [← Option.some.inj hn]; exact List.mem_cons_self
    | reinstall n =>
      unfold Client.call
      by_cases hn : n ∈ c.own
      · simp only [hn, if_true]
        exact (h.share hn).setHandler fun m hm => by rw [← Option.some.inj hm]; exact hn
      · simp only [hn, if_false]
        exact h
    | retire => exact h.setHandler nofun
    | request text | upgrade id args | session id service args affinity | create p s => cases hsets

theorem inStep_run : ∀ (calls : List Call) (c : Client), c.env.InStep c.own c.given →
    (c.run calls).env.InStep (c.run calls).own (c.run calls).given
  | [], _, h => h
  | call :: calls, c, h => inStep_run calls (c.call call) (inStep_call h call)

/-- What is installed and due adds up, while the component leaves its handler alone. -/
theorem handlers_run : ∀ (calls : List Call) (c : Client), (∀ call ∈ calls, call.setsHandler = false) →
    (c.run calls).env.handlersGiven + (c.run calls).env.handlersDue = c.env.handlersGiven + c.env.handlersDue
  | [], _, _ => rfl
  | call :: calls, c, h => by
    have hone := (c.through_call (h call List.mem_cons_self)).1.handlers
    exact (handlers_run calls (c.call call) fun call' h' => h call' (List.mem_cons_of_mem _ h')).trans hone

/-- The component and its parent agree on how grants are waited for. -/
structure InTouch (c : Client) : Prop where
  /-- No wait was entered that nothing ends. -/
  returned : c.env.stalled = false
  /-- No signal is left on a context that the component waited on. -/
  left : ∀ n s, n ∉ c.own → c.env.signals[n]? = some s → s.pending = false
  /-- A parent that keeps handlers holds that of the context that is waited on, that of the component, or none. -/
  waiting : c.env.parent.keepsHandlers = true →
    ∀ n, c.env.fallback = .blocking n ↔ c.env.parent.handler = some n ∧ n ∉ c.own
  custom : c.env.parent.keepsHandlers = true →
    (c.env.fallback = .custom ↔ ∃ n ∈ c.own, c.env.parent.handler = some n ∧ c.given = some n)
  idle : c.env.parent.keepsHandlers = true → (c.env.fallback = .idle ↔ c.env.parent.handler = none)
  /-- The component installed a handler and did not retire it since. -/
  given : c.env.fallback = .custom ↔ c.given.isSome = true
  /-- All resource requests of a call return. -/
  returns : ∀ call : Call, call.setsHandler = false → c.env.Through Env.Returns (c.call call).env
  /-- Until the component changes its handler, one is installed for waiting at most. -/
  once : ∀ calls : List Call, (∀ call ∈ calls, call.setsHandler = false) →
    (c.run calls).env.handlersGiven ≤ c.env.handlersGiven + 1

theorem inTouch_of_inStep (h : c.env.InStep c.own c.given) : c.InTouch := by
  have hgiven := h.given
  refine
    { returned := h.returned
      left := h.left
      waiting := fun hkeeps n => ?_
      custom := fun hkeeps => ?_
      idle := fun hkeeps => ?_
      given := ?_
      returns := fun call hsets => (h.through (c.through_call hsets).1).1
      once := fun calls hcalls => ?_ }
  · rcases h.holds hkeeps with ⟨hfallback, hhandler⟩ | ⟨m, hfallback, hhandler, hm⟩ | ⟨hfallback, m, hm, hhandler, -⟩ <;>
      grind
  · rcases h.holds hkeeps with ⟨hfallback, hhandler⟩ | ⟨m, hfallback, hhandler, -⟩ | ⟨hfallback, hown⟩ <;>
      grind
  · rcases h.holds hkeeps with ⟨hfallback, hhandler⟩ | ⟨m, hfallback, hhandler, -⟩ | ⟨hfallback, m, -, hhandler, -⟩ <;>
      simp [hfallback, hhandler]
  · by_cases hfallback : c.env.fallback = .custom
    · rw [if_pos hfallback] at hgiven
      obtain ⟨m, -, heq⟩ := hgiven
      simp [hfallback, heq]
    · rw [if_neg hfallback] at hgiven
      simp [hfallback, hgiven]
  · have hsum := handlers_run calls c hcalls
    have hdue : c.env.handlersDue ≤ 1 := by
      unfold Env.handlersDue
      split <;> omega
    omega

/-- **Waiting for grants never hangs.**  After any sequence of calls to a parent that keeps handlers or drops them,
component and parent agree. -/
theorem fallback_in_step (env : Env) (calls : List Call) : ((new env).run calls).InTouch :=
  inTouch_of_inStep (inStep_run calls (new env) (inStep_new env))

end Client

end SessionBroker
