import SessionBroker.Proofs.AnyServices
import SessionBroker.Proofs.Correspondence
import SessionBroker.Proofs.Movements
import SessionBroker.Proofs.ParentIds

/-!
# SessionBroker.Proofs.LateAnswers — late answers of a child

The requests of a service are numbered by a counter.  In the first `2 ^ 64` allocations it meets no id again, so an id
that was released is not given to another session, and an answer that names it comes too late for any.

* `IdSpace.Counted`: the cursor counts the allocations, and the ids in use were allocated.
* `Continues.counted`: an id in use that was allocated before was in use before, for the same entry.
* `Reaches.proceeds`: a service of a child is the one that was there as long as no new service is announced under its
  name.
* `childAnswer_late`: an answer to a request that was released fails, and changes nothing.
-/

namespace SessionBroker

namespace IdSpace

variable {side : Side} {α : Type} {s s' : IdSpace side α}

/-- The cursor counts the allocations, and the ids in use were allocated. -/
structure Counted (s : IdSpace side α) : Prop where
  cursor : s.cursor.num.val = s.allocs % 0x10000000000000000
  below : ∀ i v, s.find? i = some v → i.num.val < s.allocs

theorem counted_empty : (empty : IdSpace side α).Counted where
  cursor := rfl
  below _ _ h := by cases h

/-- The next id of a counted space is its cursor, which was not reached yet. -/
theorem Counted.nextFree_eq (h : s.Counted) (hfew : s.allocs < 0x10000000000000000) :
    s.nextFree = s.cursor ∧ s.nextFree.num.val = s.allocs := by
  have hcursor : s.cursor.num.val = s.allocs := by rw [h.cursor, Nat.mod_eq_of_lt hfew]
  have hfree : (!s.contains s.cursor) = true := by
    rw [Bool.not_eq_true', Bool.eq_false_iff]
    intro hused
    obtain ⟨v, hv⟩ := Table.contains_eq_true.1 hused
    have := h.below s.cursor v hv
    omega
  have hnext : s.nextFree = s.cursor := firstFree_of_free hfree _
  exact ⟨hnext, by rw [hnext, hcursor]⟩

theorem Counted.alloc (h : s.Counted) (hfew : s.allocs < 0x10000000000000000) (v : α) : (s.alloc v).2.Counted := by
  obtain ⟨-, hnum⟩ := h.nextFree_eq hfew
  refine ⟨?_, fun i w hi => ?_⟩
  · show (s.nextFree.num.val + 1) % 0x10000000000000000 = (s.allocs + 1) % 0x10000000000000000
    rw [hnum]
  · show i.num.val < s.allocs + 1
    rw [find?_alloc] at hi
    split at hi
    · rename_i heq
      rw [heq, hnum]
      exact Nat.lt_succ_self _
    · exact Nat.lt_succ_of_lt (h.below i w hi)

theorem Counted.erase (h : s.Counted) (i : Ident side) : (s.erase i).Counted := by
  refine ⟨h.cursor, fun j w hj => ?_⟩
  rw [find?_erase] at hj
  split at hj
  · cases hj
  · exact h.below j w hj

/-- A counted space stays counted, and no id below the old counter is taken again. -/
theorem Continues.counted (h : s.Continues s') (hfew : s'.allocs ≤ 0x10000000000000000) (hs : s.Counted) :
    s'.Counted ∧ ∀ i v, i.num.val < s.allocs → s'.find? i = some v → s.find? i = some v := by
  induction h with
  | refl => exact ⟨hs, fun _ _ _ hv => hv⟩
  | @alloc t v h ih =>
    have hroom : t.allocs < 0x10000000000000000 := hfew
    obtain ⟨hcounted, hold⟩ := ih (Nat.le_of_lt hroom)
    refine ⟨hcounted.alloc hroom v, fun i w hi hw => hold i w hi ?_⟩
    obtain ⟨-, hnum⟩ := hcounted.nextFree_eq hroom
    have hle := h.allocs_le
    rw [find?_alloc] at hw
    split at hw
    · rename_i heq
      rw [heq, hnum] at hi
      omega
    · exact hw
  | erase i _ ih =>
    obtain ⟨hcounted, hold⟩ := ih hfew
    refine ⟨hcounted.erase i, fun j w hj hw => hold j w hj ?_⟩
    rw [find?_erase] at hw
    split at hw
    · cases hw
    · exact hw

end IdSpace

namespace Registry

variable {r r' : Registry} {new : ChildKey → AccountId → Prop}

/-- The requests at the services of children are counted, while none of the counters wrapped. -/
def Counted (r : Registry) : Prop :=
  ∀ k v, r.children.find? k = some v → v.desk.requests.allocs ≤ 0x10000000000000000 → v.desk.requests.Counted

theorem Move.counted (h : Move new r r') (hr : r.Counted) : r'.Counted := by
  intro k v' hv' hfew
  rcases h.proceeds k with hproceeds | ⟨account, -, hnew⟩
  · obtain ⟨v, hv, -, hcontinues⟩ := hproceeds v' hv'
    have hbefore := hr k v hv (Nat.le_trans hcontinues.allocs_le hfew)
    exact (hcontinues.counted hfew hbefore).1
  · obtain rfl := Option.some.inj (hnew.symm.trans hv')
    exact IdSpace.counted_empty

end Registry

namespace Broker

variable {around : Env → Env → Prop} {allowed : Broker → Op → Prop} {b b' c : Broker} {id : ServerId} {k : ChildKey}
  {i : ClientId}

/-- No new service is announced under the name of a service. -/
def KeepsAnnouncement (k : ChildKey) (b : Broker) (op : Op) : Prop := ∀ account, ¬op.Announces b k account

/-- In every state that a history leads to, the requests at the services of children are counted. -/
theorem Leads.counted (h : Leads allowed b c) (hb : b.providers.Counted) : c.providers.Counted := by
  induction h with
  | refl => exact hb
  | op op _ _ _ ih => exact (moves_step _ op).invariant ih fun _ _ hone hr => hone.counted hr
  | around _ _ ih => exact ih

theorem counted_start (env : Env) (config : RuntimeConfig) : (start env config).providers.Counted :=
  fun _ _ h => by cases h

namespace Reaches

/-- A service of a child proceeds as long as its announcement stands. -/
theorem proceeds (h : Reaches around (KeepsAnnouncement k) b c) : b.providers.Proceeds k c.providers := by
  induction h with
  | refl => exact .refl _
  | op op _ _ hkeeps ih => exact ih.trans ((moves_step _ op).proceeds hkeeps)
  | around _ _ ih => exact ih

end Reaches

/-- What is answered to a child that names a request which is not posted. -/
def lateError (b : Broker) (k : ChildKey) (i : ClientId) : Error :=
  if b.providers.contains k.provider then .protocol (.unknownSession i.num)
  else .routing (.serviceNotPresent k.child k.service)

/-- An answer to a request that is not posted fails, and changes nothing. -/
theorem childAnswer_of_not_posted
    (h : ∀ v, b.providers.children.find? k = some v → v.desk.lookup? i = none) (r : Response) :
    b.childAnswer k i r = (.error (b.lateError k i), b) := by
  have hcontains : b.providers.contains k.provider = (b.providers.children.find? k).isSome := rfl
  unfold childAnswer lateError
  rw [hcontains]
  cases hv : b.providers.children.find? k with
  | none => rfl
  | some v => simp [h v hv]

/-- The session of a posted request that has ended no longer refers to it. -/
theorem not_refers_of_over (hb : b.Sound)
    (hover : ∀ t, b.sessions.find? id = some t → t.session.phase.isEnded = true ∨ t.session.downstream ≠ some i) :
    ¬b.Refers id k i := by
  rintro ⟨t, ht, -, hdown⟩
  rcases hover t ht with hended | hother
  · obtain ⟨-, hnone, -⟩ := (hb.slots id t ht).ended hended
    rw [hnone] at hdown
    cases hdown
  · exact hother hdown

/-- A request was posted at a service of a child for a session, and the session has ended: its create was refused, it
was closed, or it was answered after it was given up.  Whatever happens afterwards, an answer that names the request
fails, and changes nothing, as long as no new service is announced under the name and the service has handed out fewer
than `2 ^ 64` requests. -/
theorem childAnswer_late {env : Env} {config : RuntimeConfig}
    (hstart : Reaches around (fun _ _ => True) (start env config) b) (hposted : b.Refers id k i)
    (hend : Reaches around (KeepsAnnouncement k) b b')
    (hover : ∀ t, b'.sessions.find? id = some t → t.session.phase.isEnded = true ∨ t.session.downstream ≠ some i)
    (hlater : Reaches around (KeepsAnnouncement k) b' c)
    (hfew : ∀ v, c.providers.children.find? k = some v → v.desk.requests.allocs < 0x10000000000000000)
    (r : Response) : c.childAnswer k i r = (.error (c.lateError k i), c) := by
  refine childAnswer_of_not_posted (fun w hw => ?_) r
  have hb : b.Sound := hstart.sound (sound_start env config)
  have hb' : b'.Sound := hend.sound hb
  -- the service is the one at which the request was posted
  obtain ⟨v', hv', -, hsince⟩ := hlater.proceeds w hw
  obtain ⟨v, hv, -, huntil⟩ := hend.proceeds v' hv'
  have hw64 : w.desk.requests.allocs ≤ 0x10000000000000000 := Nat.le_of_lt (hfew w hw)
  have hv64' : v'.desk.requests.allocs ≤ 0x10000000000000000 := Nat.le_trans hsince.allocs_le hw64
  have hv64 : v.desk.requests.allocs ≤ 0x10000000000000000 := Nat.le_trans huntil.allocs_le hv64'
  have hcounted : v.desk.requests.Counted := hstart.leads.counted (counted_start env config) k v hv hv64
  obtain ⟨hcounted', hold⟩ := huntil.counted hv64' hcounted
  obtain ⟨-, hold'⟩ := hsince.counted hw64 hcounted'
  -- so the id of the request is below all that are handed out later
  have hlook : v.desk.lookup? i = some id := mem_posted_iff.1 ((posted_iff_refers hb hv).2 hposted)
  have hbelow : i.num.val < v.desk.requests.allocs := hcounted.below i id hlook
  have hreleased : v'.desk.lookup? i = none := by
    rw [Option.eq_none_iff_forall_ne_some]
    intro j hj
    obtain rfl : j = id := Option.some.inj ((hold i j hbelow hj).symm.trans hlook)
    exact not_refers_of_over hb' hover ((posted_iff_refers hb' hv').1 (mem_posted_iff.2 hj))
  rw [Option.eq_none_iff_forall_ne_some]
  intro j hj
  have hbefore : v'.desk.lookup? i = some j := hold' i j (Nat.lt_of_lt_of_le hbelow huntil.allocs_le) hj
  rw [hreleased] at hbefore
  cases hbefore

/-- The child has refused the create, and a second session of its service was requested. -/
def requestedElse : Broker := (requestedOnce.childAnswer ⟨"fs", "log"⟩ ⟨0⟩ .denied).2.run [.create ⟨0⟩ "log" "" {}]

/-- A child that answers a refused create once more does not reach the session that was created since. -/
theorem childAnswer_late_refused :
    requestedElse.childAnswer ⟨"fs", "log"⟩ ⟨0⟩ .denied =
        (.error (.protocol (.unknownSession 0)), requestedElse) ∧
      requestedElse.Refers ⟨0⟩ ⟨"fs", "log"⟩ ⟨1⟩ := by
  have hposted : requestedOnce.Refers ⟨1⟩ ⟨"fs", "log"⟩ ⟨0⟩ := ⟨_, rfl, by decide +kernel, by decide +kernel⟩
  have hnone : ∀ {b : Broker} {op : Op}, (∀ k account, op ≠ .announce k account) →
      KeepsAnnouncement ⟨"fs", "log"⟩ b op := fun hop account h => hop _ account h.1
  have hend : Reaches (fun _ _ => True) (KeepsAnnouncement ⟨"fs", "log"⟩) requestedOnce
      (requestedOnce.childAnswer ⟨"fs", "log"⟩ ⟨0⟩ .denied).2 :=
    .op (.childAnswer ⟨"fs", "log"⟩ ⟨0⟩ .denied) .refl trivial (hnone fun _ _ => Op.noConfusion)
  have hlater : Reaches (fun _ _ => True) (KeepsAnnouncement ⟨"fs", "log"⟩)
      (requestedOnce.childAnswer ⟨"fs", "log"⟩ ⟨0⟩ .denied).2 requestedElse :=
    .op (.create ⟨0⟩ "log" "" {}) .refl trivial (hnone fun _ _ => Op.noConfusion)
  have hover : ∀ t, (requestedOnce.childAnswer ⟨"fs", "log"⟩ ⟨0⟩ .denied).2.sessions.find? ⟨1⟩ = some t →
      t.session.phase.isEnded = true ∨ t.session.downstream ≠ some ⟨0⟩ := by
    have hended : ((requestedOnce.childAnswer ⟨"fs", "log"⟩ ⟨0⟩ .denied).2.sessions.find? ⟨1⟩).all
        (fun t => t.session.phase.isEnded) = true := by decide +kernel
    intro t ht
    rw [ht] at hended
    exact .inl hended
  have hfew : ∀ v, requestedElse.providers.children.find? ⟨"fs", "log"⟩ = some v →
      v.desk.requests.allocs < 0x10000000000000000 := by
    have hcount : (requestedElse.providers.children.find? ⟨"fs", "log"⟩).all
        (fun v => v.desk.requests.allocs < 0x10000000000000000) = true := by decide +kernel
    intro v hv
    rw [hv] at hcount
    exact of_decide_eq_true hcount
  have hthere : requestedElse.lateError ⟨"fs", "log"⟩ ⟨0⟩ = .protocol (.unknownSession 0) := by decide +kernel
  have hlate := childAnswer_late reaches_requestedOnce hposted hend hover hlater hfew .denied
  rw [hthere] at hlate
  exact ⟨hlate, _, rfl, by decide +kernel, by decide +kernel⟩

end Broker

end SessionBroker
