import SessionBroker.Proofs.Histories

/-!
# SessionBroker.Proofs.Answers — what the parent is told about a session from its create on

* `Tells b c id`: what the parent is told about session `id` from `b` to `c` fits the stages of the session.
* `Change.tells`, `Reaches.tells`: one change, and then a whole history, says only what fits.
* `answers_of_create`: the answers to an accepted create, until the next create that takes the id.
-/

namespace SessionBroker

/-- The surroundings tell the parent nothing about a session. -/
def Env.SilentOn (id : ServerId) (env env' : Env) : Prop := env'.told id = env.told id

namespace Broker

variable {around : Env → Env → Prop} {allowed : Broker → Op → Prop} {new : ServerId → Prop} {b b' c d : Broker}
  {id : ServerId}

/-- Whether an operation belongs to the turn of a session: it is no create that takes the id. -/
def InTurn (id : ServerId) (b : Broker) (op : Op) : Prop := ¬op.Opens b id

theorem stage_of_find? {t : Slot} (h : b.sessions.find? id = some t) : b.stage id = t.session.stage := by
  simp [stage, session?, h]

theorem stage_of_absent (h : b.sessions.find? id = none) : b.stage id = .over := by
  simp [stage, session?, h]

theorem stage_congr (h : b'.sessions.find? id = b.sessions.find? id) : b'.stage id = b.stage id := by
  unfold stage session?
  rw [h]

/-- What the parent is told about a session from one state to the other fits the stages of the session. -/
def Tells (b c : Broker) (id : ServerId) : Prop :=
  ∃ ns, c.env.told id = b.env.told id ++ ns ∧ Talk (b.stage id) ns (c.stage id)

namespace Tells

theorem of_same (htold : c.env.told id = b.env.told id) (hstage : c.stage id = b.stage id) : Tells b c id := by
  refine ⟨[], ?_, ?_⟩
  · rw [htold, List.append_nil]
  · rw [hstage]
    exact .silence _

theorem trans (h : Tells b c id) (h' : Tells c d id) : Tells b d id := by
  obtain ⟨ns, htold, htalk⟩ := h
  obtain ⟨ns', htold', htalk'⟩ := h'
  refine ⟨ns ++ ns', ?_, htalk.trans htalk'⟩
  rw [htold', htold, List.append_assoc]

end Tells

theorem Effect.tells {j : ServerId} {t t' : Slot} {m : Payment} {ns : List Notice} (h : Effect b b' j t t' m ns)
    (hb : b.Sound) : Tells b b' id := by
  by_cases hj : id = j
  · subst hj
    refine ⟨ns, ?_, ?_⟩
    · rw [h.told, if_pos rfl]
    · rw [stage_of_find? h.found, stage_of_find? h.find?_self]
      exact h.transition.talk (hb.slots id t h.found)
  · refine .of_same ?_ (stage_congr (h.find?_of_ne hj))
    rw [h.told, if_neg hj, List.append_nil]

/-- One change says only what fits, unless it starts the session. -/
theorem Change.tells (h : Change new b b') (hb : b.Sound) (hid : ¬new id) : Tells b b' id := by
  cases h with
  | session h => exact h.tells hb
  | providers h =>
    refine .of_same ?_ (stage_congr ?_)
    · rw [h.env]
    · rw [h.sessions]
  | forgotten keep hkeep =>
    refine .of_same rfl ?_
    cases hfound : b.sessions.find? id with
    | none =>
      rw [stage_of_absent hfound]
      exact stage_of_absent (by rw [Table.find?_filter, hfound]; rfl)
    | some t =>
      rw [stage_of_find? hfound]
      cases hk : keep id t with
      | true => exact stage_of_find? (Table.find?_filter_of hfound hk)
      | false =>
        -- only what is over is forgotten
        have hclosed := Session.phase_of_not_alive (hkeep id t hfound hk)
        rw [stage_of_absent (by rw [Table.find?_filter, hfound, Option.filter_some, hk]; rfl)]
        simp [Session.stage, hclosed]
  | @malformed j hj _ =>
    have hne : id ≠ j := fun he => hid (he ▸ hj)
    refine .of_same ?_ rfl
    show (b.env.answer j .serviceDenied).told id = _
    rw [Env.told_answer, if_neg hne, List.append_nil]
  | @admitted j s hj _ _ =>
    have hne : id ≠ j := fun he => hid (he ▸ hj)
    exact .of_same rfl (stage_congr (Table.find?_insert_of_ne _ _ hne))

theorem Changes.tells (h : Changes new b c) (hb : b.Sound) (hid : ¬new id) : Tells b c id :=
  h.invariant (I := fun c => Tells b c id) (fun _ _ hc ih hchange => ih.trans (hchange.tells hc hid)) hb
    (.of_same rfl rfl)

/-- A history says only what fits, as long as no create takes the id. -/
theorem Reaches.tells (h : Reaches (Env.SilentOn id) (InTurn id) b c) (hb : b.Sound) : c.Sound ∧ Tells b c id :=
  h.invariant (· ≠ id) (I := fun c => Tells b c id) hb (.of_same rfl rfl)
    (fun _ _ _ hturn hopens he => hturn (he ▸ hopens))
    (fun _ _ hc ih hchange => ih.trans (hchange.tells hc (by simp)))
    fun _ _ ih hsilent => ih.trans (.of_same hsilent rfl)

/-- An accepted create starts a session that waits, about which nothing was said yet, and routes it. -/
theorem exists_admitted (hb : b.Sound) {service args : String} {affinity : Affinity}
    (hok : (b.create id service args affinity).1 = .ok ()) :
    ∃ c, c.Sound ∧ c.env.told id = b.env.told id ∧ c.stage id = .waiting ∧
      ∀ new, Changes new c (b.create id service args affinity).2 := by
  unfold create at hok ⊢
  split at hok
  · cases hok
  · rename_i hlive
    rw [if_neg hlive]
    simp only at hok ⊢
    have hforget : Change (· = id) b { b with sessions := b.sessions.erase id } :=
      change_forget (by simpa using hlive)
    split at hok
    · cases hok
    · rename_i s hs
      have hfresh := RuntimeConfig.isFresh_newSession hs
      have htaken : Change (· = id) { b with sessions := b.sessions.erase id }
          { b with sessions := (b.sessions.erase id).insert id { session := s.perform (.setServerId id) } } :=
        .admitted rfl (Table.find?_erase_self _ _) hfresh
      have hsound := htaken.sound (hforget.sound hb)
      refine ⟨_, hsound, rfl, ?_, fun new => changes_route hsound id⟩
      rw [stage_of_find? (Table.find?_insert_self _ _ _)]
      exact Session.stage_of_waiting hfresh.phase

/-- The answers about session `id` since `b`, in the state `c` that the turn of the session has come to. -/
structure Answered (b c : Broker) (id : ServerId) (ns : List Notice) : Prop where
  told : c.env.told id = b.env.told id ++ ns
  /-- They are the beginning of a whole conversation. -/
  conversation : ∃ whole, IsConversation whole ∧ ns <+: whole
  /-- The parent was told that the session is closed exactly if it is closed. -/
  closed : ∀ s, c.session? id = some s → (.answered .sessionClosed ∈ ns ↔ s.phase = .closed)
  /-- A session is forgotten only after the parent was told that it is closed. -/
  forgotten : c.session? id = none → .answered .sessionClosed ∈ ns
  once : ns.countP Notice.isDelivery ≤ 1
  last : ∀ pre post, ns = pre ++ .answered .sessionClosed :: post → post = []
  /-- Whatever comes next, it delivers a capability only for a session whose create is pending. -/
  pending : ∀ op, op.IsBuiltIn → InTurn id c op → ∀ ns' cap, (c.step op).2.env.told id = c.env.told id ++ ns' →
    .delivered cap ∈ ns' → ∃ s, c.session? id = some s ∧ s.phase = .createRequested

theorem phase_of_stage_over {s : Session} (hs : c.session? id = some s) :
    c.stage id = .over ↔ s.phase = .closed := by
  have hstage : c.stage id = s.stage := by simp [stage, hs]
  rw [hstage]
  refine ⟨Session.phase_of_over, fun h => ?_⟩
  simp [Session.stage, h]

theorem exists_waiting (h : c.stage id = .waiting) : ∃ s, c.session? id = some s ∧ s.phase = .createRequested := by
  cases hs : c.session? id with
  | none => simp [stage, hs] at h
  | some s =>
    have hstage : s.stage = .waiting := by simpa [stage, hs] using h
    exact ⟨s, rfl, Session.phase_of_waiting hstage⟩

/-- What is said from the stage of a create that waits on are the answers to it. -/
theorem Tells.answered (hc : c.Sound) (hstage : b.stage id = .waiting) (h : Tells b c id) :
    ∃ ns, Answered b c id ns := by
  obtain ⟨ns, htold, htalk⟩ := h
  rw [hstage] at htalk
  obtain ⟨whole, hwhole, hprefix⟩ := htalk.exists_whole
  have hclosed := htalk.mem_closed_iff (by decide)
  refine ⟨ns, htold, ⟨whole, hwhole, hprefix⟩, fun s hs => hclosed.trans (phase_of_stage_over hs), fun hnone => ?_,
    Nat.le_trans hprefix.sublist.countP_le hwhole.countP_delivery_le, fun pre post hsplit => ?_,
    fun op hop hturn ns' cap htold' hcap => ?_⟩
  · refine hclosed.2 ?_
    simp [stage, hnone]
  · obtain ⟨rest, rfl⟩ := hprefix
    have hwhole' : ns ++ rest = pre ++ .answered .sessionClosed :: (post ++ rest) := by simp [hsplit]
    exact (List.append_eq_nil_iff.1 (hwhole.eq_nil_of_closed hwhole')).1
  · obtain ⟨ns₁, htold₁, htalk₁⟩ := (changes_step hc hop).tells hc hturn
    obtain rfl := List.append_cancel_left (htold₁.symm.trans htold')
    exact exists_waiting (htalk₁.eq_waiting_of_delivered hcap)

/-- The answers to an accepted create, in every state that is reached until a create takes the id again. -/
theorem answers_of_create {env : Env} {config : RuntimeConfig} {service args : String} {affinity : Affinity}
    (hb : Reaches (fun _ _ => True) (fun _ _ => True) (start env config) b)
    (hok : (b.create id service args affinity).1 = .ok ())
    (h : Reaches (Env.SilentOn id) (InTurn id) (b.create id service args affinity).2 c) :
    ∃ ns, Answered b c id ns := by
  have hsound := hb.sound (sound_start env config)
  obtain ⟨b₁, hb₁, htold, hstage, hroute⟩ := exists_admitted hsound hok
  obtain ⟨hc, htells⟩ := h.tells ((hroute fun _ => False).sound hb₁)
  obtain ⟨ns, hanswered⟩ := (((hroute fun _ => False).tells hb₁ (by simp)).trans htells).answered hc hstage
  exact ⟨ns, { hanswered with told := by rw [hanswered.told, htold] }⟩

/-- The child delivers a capability, the parent closes the session, and the child lets go of it. -/
theorem answers_of_delivered : ∃ c ns, Answered provided c ⟨1⟩ ns ∧
    c.env.told ⟨1⟩ = [.delivered (.mint "log" 0), .answered .sessionClosed] := by
  have hok : (provided.create ⟨1⟩ "log" "ram_quota=5" {}).1 = .ok () := rfl
  obtain ⟨ns, h⟩ := answers_of_create reaches_provided hok
    (reaches_run [.childAnswer ⟨"fs", "log"⟩ ⟨0⟩ (.deliver (.mint "log" 0)), .close ⟨1⟩,
      .childAnswer ⟨"fs", "log"⟩ ⟨0⟩ .closed] .refl (by simp [Op.IsBuiltIn, InTurn, Op.Opens]))
  exact ⟨_, ns, h, by decide +kernel⟩

end Broker

end SessionBroker
