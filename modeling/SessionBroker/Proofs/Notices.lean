import SessionBroker.Broker.Basic

/-!
# SessionBroker.Proofs.Notices — what the parent is told about a session

* `Env.told id`: everything the parent has been told about session `id`, in order.
* `Stage`: how far the conversation about a session has come, read off the session.
* `Talk g ns g'`: the conversations that lead from one stage to another.
* `IsConversation`: the whole conversations about a session; `Talk.exists_whole`: what is said about a session from its
  start on is the beginning of one.
-/

namespace SessionBroker

/-- What the parent is told about a session that it requested. -/
inductive Notice where
  /-- It is given the capability of the session. -/
  | delivered (cap : Capability)
  | answered (a : Answer)
  deriving DecidableEq

/-- The notice about session `id` that an event is, if it is one. -/
def Event.notice? (id : ServerId) : Event → Option Notice
  | .delivered i cap => if i = id then some (.delivered cap) else none
  | .answered i a => if i = id then some (.answered a) else none
  | _ => none

/-- Everything the parent has been told about session `id`. -/
def Env.told (env : Env) (id : ServerId) : List Notice := env.trace.filterMap (Event.notice? id)

theorem Env.told_record (env : Env) (e : Event) (id : ServerId) :
    (env.record e).told id = env.told id ++ (e.notice? id).toList := by
  simp only [Env.told, Env.record, List.filterMap_append, List.filterMap_cons, List.filterMap_nil]
  cases e.notice? id <;> rfl

theorem Env.told_answer (env : Env) (i id : ServerId) (a : Answer) :
    (env.answer i a).told id = env.told id ++ if id = i then [.answered a] else [] := by
  rw [Env.answer, Env.told_record]
  by_cases h : id = i
  · simp [Event.notice?, h]
  · simp [Event.notice?, h, Ne.symm h]

theorem Env.told_deliver (env : Env) (i id : ServerId) (cap : Capability) :
    (env.deliver i cap).told id = env.told id ++ if id = i then [.delivered cap] else [] := by
  rw [Env.deliver, Env.told_record]
  by_cases h : id = i
  · simp [Event.notice?, h]
  · simp [Event.notice?, h, Ne.symm h]

/-! ### Stages of a conversation -/

/-- How far the conversation about a session has come. -/
inductive Stage where
  /-- The create is not answered. -/
  | waiting
  /-- The parent closed the session before its create was answered. -/
  | givenUp
  /-- The parent holds the capability. -/
  | handedOut
  /-- The create was refused. -/
  | refused
  /-- The parent was told that the session is closed. -/
  | over
  deriving DecidableEq

/-- The stage at which a session is. -/
def Session.stage (s : Session) : Stage :=
  match s.phase with
  | .createRequested => .waiting
  | .serviceDenied | .insufficientRam | .insufficientCaps => .refused
  | .available | .capHandedOut | .upgradeRequested => .handedOut
  | .closeRequested => if s.abandoned then .givenUp else if s.handle.isSome then .handedOut else .refused
  | .closed => .over

/-- The stage of the session of an id.  A session is forgotten only after it was closed. -/
def Broker.stage (b : Broker) (id : ServerId) : Stage := ((b.session? id).map Session.stage).getD .over

/-- The conversations that lead from one stage to another. -/
inductive Talk : Stage → List Notice → Stage → Prop
  | silence (g : Stage) : Talk g [] g
  | giveUp {ns : List Notice} {g : Stage} : Talk .givenUp ns g → Talk .waiting ns g
  | deliver (cap : Capability) {ns : List Notice} {g : Stage} :
      Talk .handedOut ns g → Talk .waiting (.delivered cap :: ns) g
  | refuse (p : Phase) {a : Answer} {ns : List Notice} {g : Stage} :
      Answer.ofCreateFailure? p = some a → Talk .refused ns g → Talk .waiting (.answered a :: ns) g
  | upgrade {ns : List Notice} {g : Stage} :
      Talk .handedOut ns g → Talk .handedOut (.answered .sessionOk :: ns) g
  | close {g g' : Stage} {ns : List Notice} :
      g ≠ .over → Talk .over ns g' → Talk g (.answered .sessionClosed :: ns) g'

namespace Talk

variable {g g' g'' : Stage} {ns ns' : List Notice}

theorem trans (h : Talk g ns g') (h' : Talk g' ns' g'') : Talk g (ns ++ ns') g'' := by
  induction h with
  | silence => exact h'
  | giveUp _ ih => exact .giveUp (ih h')
  | deliver cap _ ih => exact .deliver cap (ih h')
  | refuse p hp _ ih => exact .refuse p hp (ih h')
  | upgrade _ ih => exact .upgrade (ih h')
  | close hg _ ih => exact .close hg (ih h')

theorem between {s s' : Session} (h : Talk g ns g') (hs : s.stage = g) (hs' : s'.stage = g') :
    Talk s.stage ns s'.stage := by
  rw [hs, hs']
  exact h

/-- Nothing is said about a session that is over. -/
theorem of_over (h : Talk .over ns g) : ns = [] ∧ g = .over := by
  cases h with
  | silence => exact ⟨rfl, rfl⟩
  | close hg _ => exact absurd rfl hg

/-- A session that was given up is only said to be closed. -/
theorem of_givenUp (h : Talk .givenUp ns g) :
    ns = [] ∧ g = .givenUp ∨ ns = [.answered .sessionClosed] ∧ g = .over := by
  cases h with
  | silence => exact .inl ⟨rfl, rfl⟩
  | close _ h =>
    obtain ⟨rfl, rfl⟩ := of_over h
    exact .inr ⟨rfl, rfl⟩

theorem of_refused (h : Talk .refused ns g) :
    ns = [] ∧ g = .refused ∨ ns = [.answered .sessionClosed] ∧ g = .over := by
  cases h with
  | silence => exact .inl ⟨rfl, rfl⟩
  | close _ h =>
    obtain ⟨rfl, rfl⟩ := of_over h
    exact .inr ⟨rfl, rfl⟩

/-- A capability is delivered only while the create is not answered. -/
theorem eq_waiting_of_delivered {cap : Capability} (h : Talk g ns g') (hcap : .delivered cap ∈ ns) : g = .waiting := by
  induction h with
  | silence => simp at hcap
  | giveUp _ ih => rfl
  | deliver cap' _ ih => rfl
  | refuse p hp _ ih => rfl
  | upgrade _ ih => exact absurd (ih (by simpa using hcap)) (by decide)
  | close hg _ ih => exact absurd (ih (by simpa using hcap)) (by decide)

/-- A session that is handed out is upgraded any number of times, and then it is closed. -/
theorem of_handedOut (h : Talk .handedOut ns g) :
    ∃ n, ns = List.replicate n (.answered .sessionOk) ∧ g = .handedOut ∨
      ns = List.replicate n (.answered .sessionOk) ++ [.answered .sessionClosed] ∧ g = .over := by
  generalize hg : Stage.handedOut = g₀ at h
  induction h with
  | silence => exact ⟨0, .inl ⟨rfl, rfl⟩⟩
  | giveUp | deliver | refuse => cases hg
  | upgrade _ ih =>
    obtain ⟨n, ⟨rfl, hend⟩ | ⟨rfl, hend⟩⟩ := ih rfl
    · exact ⟨n + 1, .inl ⟨rfl, hend⟩⟩
    · exact ⟨n + 1, .inr ⟨rfl, hend⟩⟩
  | close _ h _ =>
    obtain ⟨rfl, hend⟩ := of_over h
    exact ⟨0, .inr ⟨rfl, hend⟩⟩

/-- That a session is closed is said when it is over, and not before. -/
theorem mem_closed_iff (h : Talk g ns g') (hg : g ≠ .over) : .answered .sessionClosed ∈ ns ↔ g' = .over := by
  induction h with
  | silence g => simp [hg]
  | giveUp _ ih | deliver _ _ ih | upgrade _ ih => simpa using ih (by decide)
  | @refuse p a _ _ hp _ ih =>
    have hne : Answer.sessionClosed ≠ a := by
      rintro rfl
      cases p <;> cases hp
    simpa [hne] using ih (by decide)
  | close _ h _ =>
    obtain ⟨rfl, rfl⟩ := of_over h
    simp

end Talk

/-! ### Whole conversations -/

/-- The whole conversations about a session: it is delivered, upgraded any number of times and closed; or it is
refused and closed; or it is just closed. -/
inductive IsConversation : List Notice → Prop
  | delivered (cap : Capability) (n : Nat) :
      IsConversation (.delivered cap :: List.replicate n (.answered .sessionOk) ++ [.answered .sessionClosed])
  | refused {a : Answer} :
      a ∈ [Answer.serviceDenied, .insufficientRam, .insufficientCaps] →
      IsConversation [.answered a, .answered .sessionClosed]
  | closed : IsConversation [.answered .sessionClosed]

/-- Whether the capability of a session is delivered. -/
def Notice.isDelivery : Notice → Bool
  | .delivered _ => true
  | .answered _ => false

namespace IsConversation

variable {whole : List Notice}

theorem countP_delivery_le (h : IsConversation whole) : whole.countP Notice.isDelivery ≤ 1 := by
  cases h with
  | delivered cap n =>
    rw [List.cons_append, List.countP_cons, List.countP_append, List.countP_replicate]
    simp [Notice.isDelivery]
  | refused | closed => simp [Notice.isDelivery]

/-- A conversation ends when the parent is told that the session is closed. -/
theorem eq_nil_of_closed (h : IsConversation whole) {pre post : List Notice}
    (hsplit : whole = pre ++ .answered .sessionClosed :: post) : post = [] := by
  -- the last notice is the only one of its kind
  have hunique : ∀ {l : List Notice}, .answered .sessionClosed ∉ l →
      l ++ [.answered .sessionClosed] = pre ++ .answered .sessionClosed :: post → post = [] := by
    intro l hl heq
    rcases List.append_eq_append_iff.1 heq with ⟨mid, rfl, hmid⟩ | ⟨mid, rfl, hmid⟩
    · cases mid with
      | nil => exact (List.cons.inj hmid).2.symm
      | cons x mid => simp at hmid
    · cases mid with
      | nil => exact (List.cons.inj hmid).2
      | cons x mid =>
        obtain ⟨rfl, -⟩ := List.cons.inj hmid
        exact absurd (by simp) hl
  cases h with
  | delivered cap n =>
    refine hunique (l := .delivered cap :: List.replicate n (.answered .sessionOk)) ?_ hsplit
    simp [List.mem_replicate]
  | @refused a ha =>
    refine hunique (l := [.answered a]) ?_ hsplit
    simp only [List.mem_singleton, Notice.answered.injEq]
    rintro rfl
    simp at ha
  | closed => exact hunique (l := []) (by simp) hsplit

end IsConversation

/-- What is said about a session from its start on is the beginning of a whole conversation. -/
theorem Talk.exists_whole {ns : List Notice} {g : Stage} (h : Talk .waiting ns g) :
    ∃ whole, IsConversation whole ∧ ns <+: whole := by
  cases h with
  | silence => exact ⟨_, .closed, List.nil_prefix⟩
  | giveUp h =>
    obtain ⟨rfl, -⟩ | ⟨rfl, -⟩ := of_givenUp h
    · exact ⟨_, .closed, List.nil_prefix⟩
    · exact ⟨_, .closed, List.prefix_rfl⟩
  | deliver cap h =>
    obtain ⟨n, ⟨rfl, -⟩ | ⟨rfl, -⟩⟩ := of_handedOut h
    · exact ⟨_, .delivered cap n, List.prefix_append _ _⟩
    · exact ⟨_, .delivered cap n, List.prefix_rfl⟩
  | @refuse p a ns _ hp h =>
    have ha : a ∈ [Answer.serviceDenied, .insufficientRam, .insufficientCaps] := by
      cases p <;> cases hp <;> simp
    obtain ⟨rfl, -⟩ | ⟨rfl, -⟩ := of_refused h
    · exact ⟨_, .refused ha, by simp [List.prefix_cons_iff]⟩
    · exact ⟨_, .refused ha, List.prefix_rfl⟩
  | close _ h =>
    obtain ⟨rfl, -⟩ := of_over h
    exact ⟨_, .closed, List.prefix_rfl⟩

end SessionBroker
