import SessionBroker.Proofs.DeskSessions

/-!
# SessionBroker.Proofs.AnyServices — histories in which any services are registered

A service of this component may have a behaviour of its own, as it is given no session but its own.

* `Broker.Applied b b' id`: one of the functions that work on a single session is applied to session `id`.
* `Broker.Shift new op`: the changes that operation `op` is made of, whatever the services are; a session can start
  under the ids in `new` only.
* `shifts_step`: every operation is made of such changes.
* `Broker.Leads allowed b c`: a history with any services.  In every state that it leads to, requests are in order
  (`Leads.orderly`).
* `waits_step`: only a create makes a session wait for a provider.
-/

namespace SessionBroker.Broker

variable {new : ServerId → Prop} {op : Op} {b b' b'' : Broker} {id : ServerId} {s : Session} {p : Provider}
  {k : ChildKey}

/-- One of the functions that work on a single session is applied to session `id`. -/
inductive Applied (b : Broker) : Broker → ServerId → Prop
  | routed (id : ServerId) : Applied b (b.route id) id
  | upgraded (id : ServerId) (q : Quota) : Applied b (b.upgrade id q).2 id
  | closed (id : ServerId) : Applied b (b.close id).2 id
  | answered {p : Provider} {id : ServerId} (r : Response) :
      b.Owns p id → (∀ n, p = .later n → b.Backed id) → Applied b (b.applyResponse p id r).2 id
  | dismissed (k : ChildKey) (id : ServerId) : Applied b (b.dismiss k id) id

theorem Applied.handles (h : Applied b b' id) (hb : b.Orderly) : Handles b b' id := by
  cases h with
  | routed => exact handles_route hb id
  | upgraded _ q => exact handles_upgrade hb id q
  | closed => exact handles_close hb id
  | answered r hown => exact handles_applyResponse hb hown r
  | dismissed k => exact handles_dismiss hb k id

theorem Applied.tending (h : Applied b b' id) (hb : b.Orderly) : Tending b b' id := by
  cases h with
  | routed => exact tending_route hb id
  | upgraded _ q => exact tending_upgrade b id q
  | closed => exact tending_close b id
  | answered r hown hbacked => exact tending_applyResponse hown hbacked r
  | dismissed k => exact tending_dismiss b k id

/-- One change of a broker, as part of operation `op`.  A session can start under the ids in `new` only. -/
inductive Shift (new : ServerId → Prop) (op : Op) : Broker → Broker → Prop
  /-- Something is done to one session. -/
  | session {b b' : Broker} {id : ServerId} : b.Orderly → Applied b b' id → Shift new op b b'
  /-- Providers come and go, without new requests.  Services of this component that answer later stay. -/
  | providers {b b' : Broker} : b'.sessions = b.sessions →
      (∀ p i id, b'.providers.request? p i = some id → b.providers.request? p i = some id) →
      b'.providers.desks = b.providers.desks → Shift new op b b'
  /-- A service of this component that answers later is registered. -/
  | opened {b : Broker} (d : Desk) : op = .registerDesk d → d.isIdle = true →
      Shift new op b { b with providers.desks := b.providers.desks.insert d.name d }
  /-- Closed sessions are forgotten. -/
  | forgotten {b : Broker} (keep : ServerId → Slot → Bool) :
      (∀ id t, b.sessions.find? id = some t → keep id t = false → t.session.isAlive = false) →
      Shift new op b { b with sessions := b.sessions.filter keep }
  /-- A request is taken. -/
  | admitted {b : Broker} {id : ServerId} {s : Session} :
      new id → b.sessions.find? id = none → s.IsFresh →
      Shift new op b { b with sessions := b.sessions.insert id { session := s.perform (.setServerId id) } }

/-- Changes one after the other. -/
def Shifts (new : ServerId → Prop) (op : Op) : Broker → Broker → Prop := Relation.ReflTransGen (Shift new op)

theorem Handles.orderly (h : Handles b b' id) (hb : b.Orderly) : b'.Orderly where
  posted p i j hi := by
    by_cases hj : j = id
    · subst hj
      exact h.posted p i hi
    · rw [h.others j hj]
      exact hb.posted p i j (h.requests p i j hj hi)
  waiting j s hw := by
    by_cases hj : j = id
    · subst hj
      exact hb.waiting j s (h.waits s hw)
    · exact hb.waiting j s ⟨(h.others j hj).symm.trans hw.found, hw.phase⟩

/-- Providers change, and no request appears. -/
theorem Orderly.of_providers (hb : b.Orderly) (hsessions : b'.sessions = b.sessions)
    (hrequests : ∀ p i id, b'.providers.request? p i = some id → b.providers.request? p i = some id) : b'.Orderly where
  posted p i j hi := by
    rw [hsessions]
    exact hb.posted p i j (hrequests p i j hi)
  waiting j s hw := by
    refine hb.waiting j s ⟨?_, hw.phase⟩
    rw [← hsessions]
    exact hw.found

/-- A change keeps requests in order. -/
theorem Shift.orderly (h : Shift new op b b') (hb : b.Orderly) : b'.Orderly := by
  cases h with
  | session _ h => exact (h.handles hb).orderly hb
  | providers hsessions hrequests => exact hb.of_providers hsessions hrequests
  | opened d _ hidle => exact hb.of_providers rfl fun _ _ _ => request?_of_registerDesk hidle
  | forgotten keep hkeep =>
    refine ⟨fun p i j hi => ?_, fun j s hw => hb.waiting j s ⟨Table.find?_of_filter hw.found, hw.phase⟩⟩
    obtain ⟨s, hs, hdown, halive⟩ := hb.posted p i j hi
    refine ⟨s, Table.find?_filter_of hs ?_, hdown, halive⟩
    cases hk : keep j ⟨s, some p⟩ with
    | true => rfl
    | false => exact absurd (hkeep j _ hs hk) (by rw [halive]; exact Bool.noConfusion)
  | @admitted id s _ habsent hs =>
    refine ⟨fun p i j hi => ?_, fun j u hw => ?_⟩
    · obtain ⟨u, hu, hrest⟩ := hb.posted p i j hi
      have hj : j ≠ id := by
        rintro rfl
        cases habsent.symm.trans hu
      exact ⟨u, (Table.find?_insert_of_ne _ _ hj).trans hu, hrest⟩
    · by_cases hj : j = id
      · subst hj
        have hself := hw.found
        rw [Table.find?_insert_self] at hself
        obtain ⟨rfl, -⟩ := Slot.mk.inj (Option.some.inj hself)
        exact ⟨rfl, hs.downstream, hs.abandoned⟩
      · exact hb.waiting j u ⟨(Table.find?_insert_of_ne _ _ hj).symm.trans hw.found, hw.phase⟩

/-- A session that waits has waited, unless it was taken just now. -/
theorem Shift.waits (h : Shift new op b b') (hid : ¬new id) (hw : b'.Waits id s) : b.Waits id s := by
  cases h with
  | @session _ j hb h =>
    by_cases hj : id = j
    · subst hj
      exact (h.handles hb).waits s hw
    · exact ⟨((h.handles hb).others id hj).symm.trans hw.found, hw.phase⟩
  | providers hsessions =>
    refine ⟨?_, hw.phase⟩
    rw [← hsessions]
    exact hw.found
  | opened => exact ⟨hw.found, hw.phase⟩
  | forgotten keep => exact ⟨Table.find?_of_filter hw.found, hw.phase⟩
  | @admitted j r hnew _ _ =>
    have hj : id ≠ j := by
      rintro rfl
      exact hid hnew
    exact ⟨(Table.find?_insert_of_ne _ _ hj).symm.trans hw.found, hw.phase⟩

namespace Shifts

theorem refl (b : Broker) : Shifts new op b b := Relation.ReflTransGen.refl

theorem single (h : Shift new op b b') : Shifts new op b b' := Relation.ReflTransGen.single h

theorem trans (h : Shifts new op b b') (h' : Shifts new op b' b'') : Shifts new op b b'' :=
  Relation.ReflTransGen.trans h h'

theorem orderly (h : Shifts new op b b') (hb : b.Orderly) : b'.Orderly := by
  induction h with
  | refl => exact hb
  | tail _ hshift ih => exact hshift.orderly ih

theorem waits (h : Shifts new op b b') (hid : ¬new id) (hw : b'.Waits id s) : b.Waits id s := by
  induction h with
  | refl => exact hw
  | tail _ hshift ih => exact ih (hshift.waits hid hw)

/-- Steps one after the other, each of which is made of changes. -/
theorem foldl {α : Type} {f : Broker → α → Broker} (h : ∀ b x, b.Orderly → Shifts new op b (f b x)) :
    ∀ (l : List α) (b : Broker), b.Orderly → Shifts new op b (l.foldl f b)
  | [], b, _ => refl b
  | x :: l, b, hb => (h b x hb).trans (foldl h l (f b x) ((h b x hb).orderly hb))

end Shifts

/-! ### The operations -/

theorem shifts_route (hb : b.Orderly) (id : ServerId) : Shifts new op b (b.route id) :=
  .single (.session hb (.routed id))

theorem shifts_retryWaiting (hb : b.Orderly) : Shifts new op b b.retryWaiting :=
  .foldl (fun _ id hb => shifts_route hb id) _ b hb

/-- Providers come, and the sessions that wait are routed again. -/
theorem shifts_provided (hb : b.Orderly) (h : Shift new op b b') : Shifts new op b b'.retryWaiting :=
  (Shifts.single h).trans (shifts_retryWaiting (h.orderly hb))

theorem shift_sweep (b : Broker) : Shift new op b b.sweep := .providers rfl (fun _ _ _ => request?_of_sweep) rfl

theorem shift_announced (b : Broker) (k : ChildKey) (account : AccountId) :
    Shift new op b { b with
      providers.children := b.providers.children.insert k (.announced k.child k.service account) } := by
  refine .providers rfl (fun _ _ _ =>
    request?_of_children (fun k' hk' => Table.find?_insert_of_ne _ _ hk') fun v hv => ?_) rfl
  rw [Table.find?_insert_self] at hv
  obtain rfl := Option.some.inj hv
  rfl

theorem shift_withdrawn (b : Broker) (k : ChildKey) :
    Shift new op b { b with
      providers.children := b.providers.children.modify k fun c => { c with abandoned := true } } := by
  refine .providers rfl (fun p i id hi => ?_) rfl
  unfold Registry.request? at hi ⊢
  rwa [desk?_withdrawn] at hi

theorem shift_forgotten (b : Broker) (k : ChildKey) :
    Shift new op b { b with providers.children := b.providers.children.erase k } := by
  refine .providers rfl (fun _ _ _ =>
    request?_of_children (fun k' hk' => Table.find?_erase_of_ne _ hk') fun v hv => ?_) rfl
  rw [Table.find?_erase_self] at hv
  cases hv

theorem shift_rerouted (b : Broker) (rules : List Rule) (keep : String → Bool) :
    Shift new op b { b with rules, providers := b.providers.abandonParents keep }.sweep := by
  refine .providers rfl (fun p i id hi => ?_) rfl
  have hi := request?_of_sweep hi
  cases p <;> exact hi

theorem shift_registerLocal (b : Broker) (service : Service) :
    Shift new op b { b with providers.locals := b.providers.locals.insert service.name service } :=
  .providers rfl (fun p i id hi => by cases p <;> exact hi) rfl

theorem shifts_removeService (hb : b.Orderly) (k : ChildKey) : Shifts new op b (b.removeService k) := by
  have hdismiss : Shifts new op b (b.sessions.keys.foldl (dismiss k) b) :=
    .foldl (fun _ id hb => .single (.session hb (.dismissed k id))) _ b hb
  exact hdismiss.trans (.single (shift_forgotten _ k))

/-- A session to which a request belongs that is posted at a provider. -/
theorem Orderly.owns (hb : b.Orderly) {i : ClientId} (hi : b.providers.request? p i = some id) : b.Owns p id := by
  obtain ⟨s, hs, -⟩ := hb.posted p i id hi
  exact ⟨s, hs⟩

/-- A session for which a request is posted has no other one. -/
theorem Orderly.backed (hb : b.Orderly) {i : ClientId} (hi : b.providers.request? p i = some id) : b.Backed id := by
  intro s n hfound k hk
  obtain ⟨rfl, hdown, -⟩ := hb.request?_eq hfound hi
  obtain rfl := Option.some.inj (hdown.symm.trans hk)
  exact hi

theorem Handles.owns {j : ServerId} (h : Handles b b' j) (hown : b.Owns p id) : b'.Owns p id := by
  by_cases hj : id = j
  · subst hj
    exact h.routed p hown
  · obtain ⟨s, hs⟩ := hown
    exact ⟨s, (h.others id hj).trans hs⟩

/-- What each answer of local code keeps, answers to sessions of its service keep. -/
theorem answers_induction {P : Broker → Broker → Prop} {service : String} (hrefl : ∀ b, P b b)
    (htrans : ∀ b c d, P b c → P c d → P b d)
    (hone : ∀ b id r, b.Orderly → b.Owns (.later service) id → b.Backed id →
      P b (b.applyResponse (.later service) id r).2) :
    ∀ (answers : List (ServerId × Response)) (b : Broker), b.Orderly →
      (∀ e ∈ answers, b.Owns (.later service) e.1 ∧ b.Backed e.1) → P b (b.applyLocal service answers)
  | [], b, _, _ => hrefl b
  | e :: answers, b, hb, hown => by
    obtain ⟨hone', hbacked⟩ := hown e List.mem_cons_self
    have hhandles := handles_applyResponse hb hone' e.2
    have htending := tending_applyResponse hone' (fun _ _ => hbacked) e.2
    refine htrans b _ _ (hone b e.1 e.2 hb hone' hbacked) ?_
    refine answers_induction hrefl htrans hone answers _ (hhandles.orderly hb) fun e' he' => ?_
    obtain ⟨hown', hbacked'⟩ := hown e' (List.mem_cons_of_mem _ he')
    exact ⟨hhandles.owns hown', htending.backed hhandles hbacked'⟩

/-- Local code answers sessions of its service, whose requests are posted there. -/
theorem owns_of_mem_collect (hb : b.Orderly) {service : String} {callback : Nat → Request → Option Response}
    {requests : List (ServerId × Request)} (hshown : ∀ e ∈ requests, e ∈ b.localRequests service)
    {e : ServerId × Response} (he : e ∈ collect callback requests) :
    b.Owns (.later service) e.1 ∧ b.Backed e.1 := by
  obtain ⟨r, -, hr, -⟩ := mem_collect he
  have hi := request?_of_mem_localRequests (hshown _ hr)
  exact ⟨hb.owns hi, hb.backed hi⟩

theorem shifts_answers (hb : b.Orderly) (service : String) {callback : Nat → Request → Option Response}
    {requests : List (ServerId × Request)} (hshown : ∀ e ∈ requests, e ∈ b.localRequests service) :
    Shifts new op b (b.applyLocal service (collect callback requests)) :=
  answers_induction .refl (fun _ _ _ => .trans)
    (fun _ _ r hb hown hbacked => .single (.session hb (.answered r hown fun _ _ => hbacked))) _ b hb
    fun _ he => owns_of_mem_collect hb hshown he

theorem shifts_childAnswer (hb : b.Orderly) (k : ChildKey) (request : ClientId) (r : Response) :
    Shifts new op b (b.childAnswer k request r).2 := by
  rcases childAnswer_taken b k request r with ⟨e, heq⟩ | ⟨id, hid, heq⟩
  · rw [heq]
    exact .refl b
  · have happly : Shifts new op b (b.applyResponse k.provider id r).2 :=
      .single (.session hb (.answered r (hb.owns hid) fun _ h => by cases h))
    rw [heq]
    exact happly.trans (.single (shift_sweep _))

theorem shift_erase (hlive : b.isLive id = false) : Shift new op b { b with sessions := b.sessions.erase id } := by
  refine .forgotten _ fun j t ht hj => ?_
  obtain rfl : id = j := by simpa using hj
  exact not_alive_of_isLive hlive ht

theorem shifts_create (hb : b.Orderly) (id : ServerId) (service args : String) (affinity : Affinity) :
    Shifts ((Op.create id service args affinity).Opens b) op b (b.create id service args affinity).2 := by
  rcases create_taken b id service args affinity with ⟨-, hsame⟩ | ⟨hlive, taken, htaken, ⟨e, -, heq⟩ | ⟨r, hr, heq⟩⟩
  · rw [hsame]
    exact .refl b
  · rw [heq]
    have herase : Shift ((Op.create id service args affinity).Opens b) op b taken := by
      rw [htaken]
      exact shift_erase hlive
    exact (Shifts.single herase).trans (.single (.providers rfl (fun _ _ _ h => h) rfl))
  · rw [heq]
    have herase : Shift ((Op.create id service args affinity).Opens b) op b taken := by
      rw [htaken]
      exact shift_erase hlive
    have habsent : taken.sessions.find? id = none := by
      rw [htaken]
      exact Table.find?_erase_self _ _
    have hadmitted : Shift ((Op.create id service args affinity).Opens b) op taken _ :=
      .admitted ⟨rfl, hlive⟩ habsent (RuntimeConfig.isFresh_newSession hr)
    have htwo := (Shifts.single herase).trans (.single hadmitted)
    exact htwo.trans (shifts_route (htwo.orderly hb) id)

/-- The operations on a broker, whatever the services are.  One that answers later starts without requests. -/
def Op.StartsEmpty : Op → Prop
  | .registerDesk d => d.isIdle = true
  | _ => True

/-- Every operation is made of changes, and only the session that it opens starts. -/
theorem shifts_step (hb : b.Orderly) {op : Op} (hop : op.StartsEmpty) : Shifts (op.Opens b) op b (b.step op).2 := by
  cases op with
  | create id service args affinity => exact shifts_create hb id service args affinity
  | upgrade id q => exact .single (.session hb (.upgraded id q))
  | close id => exact .single (.session hb (.closed id))
  | childAnswer k request r => exact shifts_childAnswer hb k request r
  | announce k account =>
    show Shifts _ _ b (b.announce k account)
    unfold announce
    split
    · exact .refl b
    · exact shifts_provided hb (shift_announced b k account)
  | withdraw k => exact (Shifts.single (shift_withdrawn b k)).trans (.single (shift_sweep _))
  | removeChild child => exact .foldl (fun _ k hb => shifts_removeService hb k) _ b hb
  | applyRouting rules => exact shifts_provided hb (shift_rerouted b rules _)
  | registerLocal service => exact shifts_provided hb (shift_registerLocal b service)
  | registerDesk d => exact shifts_provided hb (.opened d rfl hop)
  | answerRequested service callback => exact shifts_answers hb service fun e he => (List.mem_filter.1 he).1
  | answerUpgraded service applied => exact shifts_answers hb service fun e he => (List.mem_filter.1 he).1
  | answerClosing service closed => exact shifts_answers hb service fun e he => (List.mem_filter.1 he).1
  | reap => exact .single (.forgotten (fun _ t => t.session.isAlive) fun _ _ _ h => h)

/-- An operation that does not open the id makes no session of it wait. -/
theorem waits_step (hb : b.Orderly) {op : Op} (hop : op.StartsEmpty) (hid : ¬op.Opens b id)
    (hw : (b.step op).2.Waits id s) : b.Waits id s := (shifts_step hb hop).waits hid hw

/-! ### Histories -/

/-- The brokers that a history leads to, whatever services are registered.  The operations of the history are `allowed`,
and between two of them the surroundings may change in any way. -/
inductive Leads (allowed : Broker → Op → Prop) (b : Broker) : Broker → Prop
  | refl : Leads allowed b b
  | op {c : Broker} (op : Op) : Leads allowed b c → op.StartsEmpty → allowed c op → Leads allowed b (c.step op).2
  | around {c : Broker} (env : Env) : Leads allowed b c → Leads allowed b { c with env := env }

variable {allowed : Broker → Op → Prop}

theorem leads_run : ∀ (ops : List Op) {c : Broker}, Leads allowed b c →
    (∀ op ∈ ops, op.StartsEmpty ∧ ∀ c, allowed c op) → Leads allowed b (c.run ops)
  | [], _, h, _ => h
  | op :: ops, c, h, hops => by
    obtain ⟨hop, hallowed⟩ := hops op List.mem_cons_self
    exact leads_run ops (.op op h hop (hallowed c)) fun op' h' => hops op' (List.mem_cons_of_mem _ h')

/-- The operations that register built-in services only are among them. -/
theorem Op.IsBuiltIn.startsEmpty {op : Op} (h : op.IsBuiltIn) : op.StartsEmpty := by
  cases op with
  | registerDesk d => exact h
  | create | upgrade | close | childAnswer | announce | withdraw | removeChild | applyRouting | registerLocal
  | answerRequested | answerUpgraded | answerClosing | reap => exact trivial

/-- What is reached with built-in services is reached with any services. -/
theorem Reaches.leads {around : Env → Env → Prop} (h : Reaches around allowed b b') : Leads allowed b b' := by
  induction h with
  | refl => exact .refl
  | op op _ hop hallowed ih => exact .op op ih hop.startsEmpty hallowed
  | around _ _ ih => exact .around _ ih

theorem orderly_start (env : Env) (config : RuntimeConfig) : (start env config).Orderly where
  posted p _ _ h := by cases p <;> cases h
  waiting _ _ h := by cases h.found

/-- In every state that a history leads to, requests are in order. -/
theorem Leads.orderly (h : Leads allowed b b') (hb : b.Orderly) : b'.Orderly := by
  induction h with
  | refl => exact hb
  | op op _ hop _ ih => exact (shifts_step ih hop).orderly ih
  | around env _ ih => exact ⟨ih.posted, fun id s hw => ih.waiting id s ⟨hw.found, hw.phase⟩⟩

end SessionBroker.Broker
