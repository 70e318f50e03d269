import SessionBroker.Proofs.Responding

/-!
# SessionBroker.Proofs.Isolation — what the answer of a child can reach

A child names a request; everything else an answer does follows from the session that refers to the request.

* `Bank.MovesBetween x y`: a movement of quota that concerns two accounts only.
* `Registry.isAbandoned`: the withdrawn providers, which are the ones that a sweep may remove.
* `Broker.Touches b b' k request r id`: answer `r` to a request of service `k` touched session `id`, and it reached
  nothing beyond the session, the account and the request.
* `childAnswer_isolated`: an answer that is refused changes nothing, and any other one touches the session of the
  request.
-/

namespace SessionBroker

namespace Bank

/-- Quota moves between two accounts at most. -/
structure MovesBetween (x y : AccountRef) (b b' : Bank) : Prop where
  others : ∀ i, x ≠ some i → y ≠ some i → b'.accounts[i]? = b.accounts[i]?
  kept : ∀ i j, x = some i → y = some j → j < b.accounts.length → ∀ r,
    (b'.available r i).val + (b'.available r j).val = (b.available r i).val + (b.available r j).val

theorem MovesBetween.refl (x y : AccountRef) (b : Bank) : MovesBetween x y b b :=
  ⟨fun _ _ _ => rfl, fun _ _ _ _ _ _ => rfl⟩

theorem movesBetween_tryPay (b : Bank) (x y : AccountRef) (q : Quota) : MovesBetween x y b (b.tryPay x y q) where
  others _ hx hy := getElem?_tryPay hx hy
  kept i j hx hy hj r := by
    subst hx hy
    exact available_add_available_tryPay q r hj

end Bank

namespace Registry

variable {r : Registry} {p : Provider}

/-- Whether a provider was withdrawn. -/
def isAbandoned (r : Registry) : Provider → Bool
  | .here n => (r.locals.find? n).any fun v => v.abandoned
  | .later _ => false
  | .parent n => (r.parents.find? n).any fun v => v.abandoned
  | .child c n => (r.children.find? ⟨c, n⟩).any fun v => v.abandoned

/-- Forgetting a request removes no provider. -/
theorem contains_release (r : Registry) (i : ClientId) (p q : Provider) :
    (r.release i p).contains q = r.contains q := by
  cases p with
  | here n | parent n => rfl
  | later n =>
    cases q with
    | later m => exact Table.contains_modify _ _ _ _
    | here m | parent m | child c m => rfl
  | child c n =>
    cases q with
    | child c' m => exact Table.contains_modify _ _ _ _
    | here m | parent m | later m => rfl

theorem isAbandoned_release (r : Registry) (i : ClientId) (p q : Provider) :
    (r.release i p).isAbandoned q = r.isAbandoned q := by
  cases p with
  | here n | parent n | later n => cases q <;> rfl
  | child c n =>
    cases q with
    | child c' m =>
      show ((r.children.modify _ _).find? _).any _ = (r.children.find? _).any _
      rw [Table.find?_modify]
      split
      · exact Option.any_map
      · rfl
    | here m | parent m | later m => rfl

/-- A sweep removes withdrawn providers that are not in use. -/
theorem contains_sweep {inUse : Provider → Bool} (h : r.contains p = true) :
    (r.sweep inUse).contains p = true ∨ r.isAbandoned p = true ∧ inUse p = false := by
  cases p with
  | here n | later n => exact .inl h
  | parent n =>
    refine (Table.contains_filter h).imp_right ?_
    rintro ⟨v, hv, hgone⟩
    simpa [isAbandoned, hv] using hgone
  | child c n =>
    refine (Table.contains_filter h).imp_right ?_
    rintro ⟨v, hv, hgone⟩
    have hgone : v.abandoned = true ∧ inUse (ChildKey.mk c n).provider = false := by simpa using hgone
    exact ⟨by simpa [isAbandoned, hv] using hgone.1, hgone.2⟩

end Registry

namespace Broker

variable {b b' : Broker} {id : ServerId} {k : ChildKey} {p : Provider} {request : ClientId} {s s' : Session}
  {r : Response} {n : Notice}

/-- What an answer of a child touched: one session of the service, the quota that was donated for it, and the request.
The parent was told one thing. -/
structure Touches (b b' : Broker) (k : ChildKey) (request : ClientId) (r : Response) (id : ServerId) : Prop where
  /-- The session is the one that refers to the request. -/
  refers : b.Refers id k request
  only : ∀ j, b.Refers j k request → j = id
  /-- It moved on as the answer says, and the parent was told so. -/
  changed : ∃ s s' n, b.sessions.find? id = some ⟨s, some k.provider⟩ ∧
    b'.sessions.find? id = some ⟨s', some k.provider⟩ ∧ s'.phase ≠ s.phase ∧ s.Responds r s' n ∧
    b'.env.trace = b.env.trace ++ [n.event id]
  others : ∀ j, j ≠ id → b'.sessions.find? j = b.sessions.find? j
  /-- Quota moved between the account of the service and the own account at most. -/
  quota : Bank.MovesBetween (b.providers.account k.provider) b.ownAccount b.env.bank b'.env.bank
  surroundings : b'.env = { b.env with bank := b'.env.bank, trace := b'.env.trace }
  config : b'.config = b.config ∧ b'.rules = b.rules
  /-- Other requests stand as they stood. -/
  requests : ∀ q i, q ≠ k.provider ∨ i ≠ request → b'.providers.request? q i = b.providers.request? q i
  /-- A provider that is gone was withdrawn, and no live session needs it. -/
  removed : ∀ q, b.providers.contains q = true → b'.providers.contains q = true ∨
    b.providers.isAbandoned q = true ∧
      ∀ j t, b'.sessions.find? j = some t → t.provider = some q → t.session.isAlive = false

theorem contains_release (b : Broker) (p q : Provider) (s : Session) :
    (b.release p s).providers.contains q = b.providers.contains q := by
  unfold release
  cases s.downstream with
  | none => rfl
  | some i => exact Registry.contains_release _ i p q

theorem isAbandoned_release (b : Broker) (p q : Provider) (s : Session) :
    (b.release p s).providers.isAbandoned q = b.providers.isAbandoned q := by
  unfold release
  cases s.downstream with
  | none => rfl
  | some i => exact Registry.isAbandoned_release _ i p q

theorem isAlive_of_not_inUse {q : Provider} (h : b.inUse q = false) {j : ServerId} {t : Slot}
    (ht : b.sessions.find? j = some t) (hq : t.provider = some q) : t.session.isAlive = false := by
  cases halive : t.session.isAlive with
  | false => rfl
  | true => exact absurd (inUse_of_alive ht hq halive) (by rw [h]; exact Bool.false_ne_true)

/-- A sweep forgets no request. -/
theorem request?_sweep (hb : b.Sound) (q : Provider) (i : ClientId) :
    b.sweep.providers.request? q i = b.providers.request? q i := by
  have hsweep := rearranged_sweep hb
  refine Option.ext fun j => ⟨hsweep.posted q i j, fun hi => ?_⟩
  cases q with
  | here m | later m | parent m => exact hi
  | child c m =>
    obtain ⟨t, ht, hp, hdown⟩ := hb.posted _ i j hi
    rwa [hsweep.listed j t c m i ht hp hdown]

/-- An answer that is applied forgets the request of the session at most. -/
theorem request?_responded (hb : b.Sound) (hdown : s.downstream = some request) {q : Provider} {i : ClientId}
    (hother : q ≠ p ∨ i ≠ request) :
    (b.responded p id s s' n).providers.request? q i = b.providers.request? q i := by
  cases hended : s'.phase.isEnded with
  | false => rw [responded_of_live hended]
  | true =>
    rw [responded_of_ended hended]
    show (b.release p s).providers.request? q i = _
    rw [(release_spec hb p s).2.2, if_neg]
    rintro ⟨rfl, hi⟩
    exact hother.elim (fun h => h rfl) fun h => h (Option.some.inj (hi.symm.trans hdown))

theorem movesBetween_responded :
    Bank.MovesBetween (b.providers.account p) b.ownAccount b.env.bank (b.responded p id s s' n).env.bank := by
  cases hended : s'.phase.isEnded with
  | false =>
    rw [responded_of_live hended]
    exact .refl _ _ _
  | true =>
    rw [responded_of_ended hended]
    exact Bank.movesBetween_tryPay _ _ _ _

theorem contains_responded (q : Provider) :
    (b.responded p id s s' n).providers.contains q = b.providers.contains q := by
  cases hended : s'.phase.isEnded with
  | false => rw [responded_of_live hended]
  | true =>
    rw [responded_of_ended hended]
    exact b.contains_release p q s

theorem isAbandoned_responded (q : Provider) :
    (b.responded p id s s' n).providers.isAbandoned q = b.providers.isAbandoned q := by
  cases hended : s'.phase.isEnded with
  | false => rw [responded_of_live hended]
  | true =>
    rw [responded_of_ended hended]
    exact b.isAbandoned_release p q s

/-- An answer that fits the session of the request touches this session alone. -/
theorem touches_of_responds (hb : b.Sound) (hfound : b.sessions.find? id = some ⟨s, some k.provider⟩)
    (hdown : s.downstream = some request) (hr : s.Responds r s' n) :
    Touches b (b.responded k.provider id s s' n).sweep k request r id := by
  have hrefers : b.Refers id k request := ⟨_, hfound, rfl, hdown⟩
  have hsound := sound_responded hb hfound hr
  have hself : (b.responded k.provider id s s' n).sessions.find? id = some ⟨s', some k.provider⟩ :=
    find?_responded_self hfound
  have hothers : ∀ j, j ≠ id → (b.responded k.provider id s s' n).sessions.find? j = b.sessions.find? j :=
    fun j hj => find?_responded_of_ne hj
  refine
    { refers := hrefers
      only := fun j hj => hj.unique hb hrefers
      changed := ⟨s, s', n, hfound, hself, hr.phase_ne, hr, rfl⟩
      others := hothers
      quota := movesBetween_responded
      surroundings := rfl
      config := ⟨rfl, rfl⟩
      requests := fun q i hother => ?_
      removed := fun q hq => ?_ }
  · rw [request?_sweep hsound, request?_responded hb hdown hother]
  · refine (Registry.contains_sweep ((contains_responded q).trans hq)).imp_right ?_
    rintro ⟨hgone, huse⟩
    exact ⟨(isAbandoned_responded q).symm.trans hgone, fun j t ht hp => isAlive_of_not_inUse huse ht hp⟩

/-- In every state that is reached, an answer of a child that is refused changes nothing, and any other one touches the
session that refers to the request, and no other. -/
theorem childAnswer_isolated {env : Env} {config : RuntimeConfig}
    (h : Reaches (fun _ _ => True) (fun _ _ => True) (start env config) b) (k : ChildKey) (request : ClientId)
    (r : Response) :
    (∀ e, (b.childAnswer k request r).1 = .error e → (b.childAnswer k request r).2 = b) ∧
      ((b.childAnswer k request r).1 = .ok () → ∃ id, Touches b (b.childAnswer k request r).2 k request r id) := by
  have hb := h.sound (sound_start env config)
  refine ⟨fun e he => childAnswer_error he, fun hok => ?_⟩
  obtain ⟨id, s, s', n, hfound, hdown, hr, heq⟩ := childAnswer_ok hb hok
  refine ⟨id, ?_⟩
  rw [heq]
  exact touches_of_responds hb hfound hdown hr

/-- A refusal by the child touches its session, and an answer to a request that was never posted changes nothing. -/
theorem isolated_requestedOnce :
    (requestedOnce.childAnswer ⟨"fs", "log"⟩ ⟨0⟩ .denied).1 = .ok () ∧
      Touches requestedOnce (requestedOnce.childAnswer ⟨"fs", "log"⟩ ⟨0⟩ .denied).2 ⟨"fs", "log"⟩ ⟨0⟩ .denied ⟨1⟩ ∧
      (requestedOnce.childAnswer ⟨"fs", "log"⟩ ⟨1⟩ .denied).2 = requestedOnce := by
  have hreach : Reaches (fun _ _ => True) (fun _ _ => True) (start sampleEnv sampleConfig) requestedOnce :=
    reaches_requestedOnce
  have hok : (requestedOnce.childAnswer ⟨"fs", "log"⟩ ⟨0⟩ .denied).1 = .ok () := by decide +kernel
  have herror : (requestedOnce.childAnswer ⟨"fs", "log"⟩ ⟨1⟩ .denied).1 = .error (.protocol (.unknownSession 1)) := by
    decide +kernel
  have hrefers : requestedOnce.Refers ⟨1⟩ ⟨"fs", "log"⟩ ⟨0⟩ := ⟨_, rfl, by decide +kernel, by decide +kernel⟩
  obtain ⟨id, htouches⟩ := (childAnswer_isolated hreach ⟨"fs", "log"⟩ ⟨0⟩ .denied).2 hok
  obtain rfl := htouches.only _ hrefers
  exact ⟨hok, htouches, (childAnswer_isolated hreach ⟨"fs", "log"⟩ ⟨1⟩ .denied).1 _ herror⟩

end Broker

end SessionBroker
