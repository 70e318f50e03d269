import SessionBroker.Proofs.Thinning

/-!
# SessionBroker.Proofs.Reaping — nobody notices when closed sessions are reaped

* `Broker.Twins b c d`: `c` and `d` come from `b` by the same history, but closed sessions were reaped at some more
  points on the way to `d`.
* `Broker.Unnoticed c d`: the two brokers are alike but for closed sessions that `d` has forgotten, and any operation
  has the same result on both, unless it is about one of these sessions.
* `Twins.thin`: the second twin is the first one without some of its closed sessions.
* `reaping_unnoticed`: twins are alike, so they stay alike.
-/

namespace SessionBroker.Broker

/-- Whether the operation asks for an upgrade or the close of the session of an id. -/
def Op.AsksAbout : Op → ServerId → Prop
  | .upgrade i _, id | .close i, id => i = id
  | _, _ => False

variable {b c d : Broker} {keep : ServerId → Bool} {id : ServerId}

/-- Session `id` is closed, and `d` has forgotten it. -/
def Forgotten (c d : Broker) (id : ServerId) : Prop :=
  (∃ t, c.sessions.find? id = some t ∧ t.session.phase = .closed) ∧ d.sessions.find? id = none

/-- The brokers are alike but for closed sessions that `d` has forgotten. -/
structure Unnoticed (c d : Broker) : Prop where
  /-- What was done, and how much everybody has. -/
  env : d.env = c.env
  config : d.config = c.config
  rules : d.rules = c.rules
  providers : d.providers = c.providers
  sessions : ∀ id, d.sessions.find? id = c.sessions.find? id ∨ Forgotten c d id
  listed : d.sessions.entries = c.sessions.entries.filter fun e => d.sessions.contains e.1
  childRequests : ∀ child, d.childRequests child = c.childRequests child
  localRequests : ∀ service, d.localRequests service = c.localRequests service
  results : ∀ op, (∀ id, Forgotten c d id → ¬op.AsksAbout id) → (d.step op).1 = (c.step op).1
  upgrade : ∀ id q, Forgotten c d id → c.upgrade id q = (.error (.protocol (.sessionClosed id.num)), c) ∧
    d.upgrade id q = (.error (.protocol (.unknownSession id.num)), d)
  close : ∀ id, Forgotten c d id → c.close id = (.ok (), c) ∧
    d.close id = (.error (.protocol (.unknownSession id.num)), d)
  /-- Reaping forgets every session that is closed. -/
  reaped : ∀ id t, c.sessions.find? id = some t → t.session.phase = .closed → Forgotten c (d.step .reap).2 id
  /-- Sessions are reaped once. -/
  reap : c.reap.1 = d.reap.1 + (c.sessions.keys.filter fun id => !d.sessions.contains id).length
  /-- An id may be used again, whether or not its closed session was forgotten. -/
  create : ∀ id service args affinity, ∃ c' d',
    (c.create id service args affinity).2 = c' ∧ (d.create id service args affinity).2 = d' ∧
      (d.create id service args affinity).1 = (c.create id service args affinity).1 ∧ d'.env = c'.env ∧
      d'.providers = c'.providers ∧ d'.sessions.find? id = c'.sessions.find? id

/-- The same history leads from `b` to both brokers, but closed sessions are reaped at some more points on the way to
the second one.  Between two operations the surroundings may change, in the same way for both. -/
inductive Twins (b : Broker) : Broker → Broker → Prop
  | refl : Twins b b b
  | op {c d : Broker} (op : Op) : Twins b c d → op.IsBuiltIn → Twins b (c.step op).2 (d.step op).2
  | reaped {c d : Broker} : Twins b c d → Twins b c (d.step .reap).2
  | around {c d : Broker} (env : Env) : Twins b c d → Twins b { c with env := env } { d with env := env }

/-! ### Without closed sessions -/

theorem forgotten_thin_iff (h : b.KeepsLive keep) :
    Forgotten b (b.thin keep) id ↔ keep id = false ∧ b.sessions.contains id = true := by
  constructor
  · rintro ⟨⟨t, ht, -⟩, hnone⟩
    refine ⟨?_, Table.contains_eq_true.2 ⟨t, ht⟩⟩
    cases hid : keep id with
    | false => rfl
    | true =>
      rw [find?_thin_of hid, ht] at hnone
      cases hnone
  · rintro ⟨hid, hthere⟩
    obtain ⟨t, ht⟩ := Table.contains_eq_true.1 hthere
    exact ⟨⟨t, ht, h.phase_eq hid ht⟩, find?_thin_of_not hid⟩

theorem find?_thin_or (h : b.KeepsLive keep) (id : ServerId) :
    (b.thin keep).sessions.find? id = b.sessions.find? id ∨ Forgotten b (b.thin keep) id := by
  cases hid : keep id with
  | true => exact .inl (find?_thin_of hid)
  | false =>
    cases ht : b.sessions.find? id with
    | none => exact .inl (find?_thin_of_not hid)
    | some t => exact .inr ((forgotten_thin_iff h).2 ⟨hid, Table.contains_eq_true.2 ⟨t, ht⟩⟩)

/-- Results are the same, unless they are about a session that was forgotten. -/
theorem fst_step_thin (hb : b.Sound) (h : b.KeepsLive keep) {op : Op}
    (hop : ∀ id, Forgotten b (b.thin keep) id → ¬op.AsksAbout id) : ((b.thin keep).step op).1 = (b.step op).1 := by
  have hmissing : ∀ id, op.AsksAbout id → keep id = false → b.sessions.find? id = none := by
    intro id hid hkeep
    cases ht : b.sessions.find? id with
    | none => rfl
    | some t => exact absurd hid (hop id ((forgotten_thin_iff h).2 ⟨hkeep, Table.contains_eq_true.2 ⟨t, ht⟩⟩))
  cases op with
  | create id service args affinity =>
    show ((b.thin keep).create id service args affinity).1 = _
    rw [create_thin h]
    rfl
  | upgrade id q =>
    show ((b.thin keep).upgrade id q).1 = (b.upgrade id q).1
    cases hid : keep id with
    | true =>
      rw [upgrade_thin h hid]
      rfl
    | false => rw [upgrade_missing (find?_thin_of_not hid), upgrade_missing (hmissing id rfl hid)]
  | close id =>
    show ((b.thin keep).close id).1 = (b.close id).1
    cases hid : keep id with
    | true =>
      rw [close_thin h hid]
      rfl
    | false => rw [close_missing (find?_thin_of_not hid), close_missing (hmissing id rfl hid)]
  | childAnswer k request r =>
    show ((b.thin keep).childAnswer k request r).1 = _
    rw [childAnswer_thin hb h]
    rfl
  | announce | withdraw | removeChild | applyRouting | registerLocal | registerDesk | answerRequested | answerUpgraded
  | answerClosing | reap => rfl

/-- The closed sessions that are not kept are not reaped again. -/
theorem fst_reap_thin (h : b.KeepsLive keep) :
    b.reap.1 = (b.thin keep).reap.1 +
      (b.sessions.keys.filter fun id => !(b.thin keep).sessions.contains id).length := by
  have hcount : b.reap.1 = (b.thin keep).reap.1 + (b.sessions.keys.filter fun id => !keep id).length :=
    Table.length_filter_values fun id t ht hid => by simp [h.not_alive hid ht]
  have hkeys : b.sessions.keys.filter (fun id => !(b.thin keep).sessions.contains id) =
      b.sessions.keys.filter fun id => !keep id :=
    List.filter_congr fun id hid => congrArg (! ·) (Table.contains_filter_keys hid keep)
  rw [hkeys]
  exact hcount

theorem unnoticed_thin (hb : b.Sound) (h : b.KeepsLive keep) : Unnoticed b (b.thin keep) where
  env := rfl
  config := rfl
  rules := rfl
  providers := rfl
  sessions := find?_thin_or h
  listed := by
    refine List.filter_congr fun e he => ?_
    exact (Table.contains_filter_keys (List.mem_map.2 ⟨e, he, rfl⟩) keep).symm
  childRequests := childRequests_thin h
  localRequests := localRequests_thin h
  results _ hop := fst_step_thin hb h hop
  upgrade id q hforgotten := by
    obtain ⟨⟨t, ht, hclosed⟩, hnone⟩ := hforgotten
    exact ⟨upgrade_closed ht hclosed q, upgrade_missing hnone q⟩
  close id hforgotten := by
    obtain ⟨⟨t, ht, hclosed⟩, hnone⟩ := hforgotten
    exact ⟨close_closed ht hclosed, close_missing hnone⟩
  reaped id t ht hclosed := by
    refine ⟨⟨t, ht, hclosed⟩, ?_⟩
    show (b.thin keep).reap.2.sessions.find? id = none
    rw [reap_thin h]
    exact find?_thin_of_not (not_isLive_of_closed ht hclosed)
  reap := fst_reap_thin h
  create id service args affinity := by
    refine ⟨_, _, rfl, rfl, ?_⟩
    rw [create_thin h]
    exact ⟨rfl, rfl, rfl, find?_thin_of (keepAlso_self keep id)⟩

namespace Twins

/-- The second twin is the first one without some of its closed sessions. -/
theorem thin (h : Twins b c d) (hb : b.Sound) : c.Sound ∧ ∃ keep, c.KeepsLive keep ∧ d = c.thin keep := by
  induction h with
  | refl => exact ⟨hb, fun _ => true, fun _ hid => (by cases hid), (thin_all b).symm⟩
  | op op _ hop ih =>
    obtain ⟨hc, keep, hkeeps, rfl⟩ := ih
    exact ⟨(changes_step hc hop).sound hc, step_thin hc hkeeps hop⟩
  | @reaped c _ _ ih =>
    obtain ⟨hc, keep, hkeeps, rfl⟩ := ih
    exact ⟨hc, c.isLive, fun _ hid => hid, reap_thin hkeeps⟩
  | around env _ ih =>
    obtain ⟨hc, keep, hkeeps, rfl⟩ := ih
    exact ⟨hc.with_env env, keep, hkeeps, rfl⟩

end Twins

/-- Reaping is noticed by nobody: at every point of a history the brokers with and without the sessions that were
reaped so far are alike. -/
theorem reaping_unnoticed {env : Env} {config : RuntimeConfig} (h : Twins (start env config) c d) : Unnoticed c d := by
  obtain ⟨hc, keep, hkeeps, rfl⟩ := h.thin (sound_start env config)
  exact unnoticed_thin hc hkeeps

/-! ### A session that was refused and closed -/

/-- No rule routes the session that the parent has requested, so it is refused, and the parent closes it. -/
def closedOnce : Broker :=
  (start sampleEnv {}).run [.create ⟨1⟩ "Rom" "ram_quota=4K, cap_quota=1" {}, .close ⟨1⟩]

theorem twins_closedOnce : Twins (start sampleEnv {}) closedOnce (closedOnce.step .reap).2 :=
  .reaped (.op (.close ⟨1⟩) (.op (.create ⟨1⟩ "Rom" "ram_quota=4K, cap_quota=1" {}) .refl trivial) trivial)

theorem forgotten_closedOnce : Forgotten closedOnce (closedOnce.step .reap).2 ⟨1⟩ := by
  have hfound : (closedOnce.sessions.find? ⟨1⟩).map (·.session.phase) = some .closed := by decide +kernel
  have hgone : (closedOnce.step .reap).2.sessions.find? ⟨1⟩ = none := by decide +kernel
  obtain ⟨t, ht, hclosed⟩ := Option.map_eq_some_iff.1 hfound
  exact ⟨⟨t, ht, hclosed⟩, hgone⟩

theorem unnoticed_closedOnce : Twins (start sampleEnv {}) closedOnce (closedOnce.step .reap).2 ∧
    Forgotten closedOnce (closedOnce.step .reap).2 ⟨1⟩ ∧ Unnoticed closedOnce (closedOnce.step .reap).2 :=
  ⟨twins_closedOnce, forgotten_closedOnce, reaping_unnoticed twins_closedOnce⟩

/-- The number of sessions that are reaped is noticed: those that were reaped before are not counted again. -/
theorem reaped_closedOnce : Twins (start sampleEnv {}) closedOnce (closedOnce.step .reap).2 ∧
    closedOnce.reap.1 = 1 ∧ (closedOnce.step .reap).2.reap.1 = 0 :=
  ⟨twins_closedOnce, by decide +kernel, by decide +kernel⟩

end SessionBroker.Broker
