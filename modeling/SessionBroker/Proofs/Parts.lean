import SessionBroker.Proofs.Operations

/-!
# SessionBroker.Proofs.Parts — the parts that operations are made of

* `Broker.Part new op`: one part of operation `op`: a session is routed, upgraded, closed, answered or dismissed,
  providers come and go, closed sessions are forgotten, or a request is taken.
* `Broker.Parts new op`: parts one after the other.
* `parts_step`: an operation is made of parts, and only the session that it opens starts.
* `changes_step`: so it is made of changes.
-/

namespace SessionBroker.Broker

variable {new : ServerId → Prop} {op : Op} {b b' b'' : Broker} {k : ChildKey}

/-- One part of an operation.  A session can start under the ids in `new` only. -/
inductive Part (new : ServerId → Prop) (op : Op) : Broker → Broker → Prop
  | routed {b : Broker} (id : ServerId) : Part new op b (b.route id)
  | upgraded {b : Broker} (id : ServerId) (q : Quota) : op = .upgrade id q → Part new op b (b.upgrade id q).2
  | closed {b : Broker} (id : ServerId) : op = .close id → Part new op b (b.close id).2
  /-- A provider that answers later answers one of its sessions. -/
  | answered {b : Broker} (p : Provider) (id : ServerId) (r : Response) :
      p.isAsync = true → b.Serves p id → Part new op b (b.applyResponse p id r).2
  | dismissed {b : Broker} (k : ChildKey) (id : ServerId) : Part new op b (b.dismiss k id)
  /-- Services of children and of the parent come and go.  A service of the parent that is in use stays. -/
  | provided {b b' : Broker} :
      Rearranged b b' → b'.providers.locals = b.providers.locals → b'.providers.desks = b.providers.desks →
      (∀ n, b.providers.parents.contains n = true → b.inUse (.parent n) = true →
        b'.providers.parents.contains n = true) → Part new op b b'
  | registered {b : Broker} (l : LocalService) :
      op = .registerLocal (.made l) →
      Part new op b { b with providers.locals := b.providers.locals.insert l.name (.made l) }
  | opened {b : Broker} (d : Desk) :
      op = .registerDesk d → d.isIdle = true →
      Part new op b { b with providers.desks := b.providers.desks.insert d.name d }
  | forgotten {b : Broker} (keep : ServerId → Slot → Bool) :
      (∀ id t, b.sessions.find? id = some t → keep id t = false → t.session.isAlive = false) →
      Part new op b { b with sessions := b.sessions.filter keep }
  | malformed {b : Broker} (id : ServerId) :
      new id → b.sessions.find? id = none → Part new op b (b.answer id .serviceDenied)
  | admitted {b : Broker} (id : ServerId) (s : Session) :
      new id → b.sessions.find? id = none → s.IsFresh →
      Part new op b { b with sessions := b.sessions.insert id { session := s.perform (.setServerId id) } }

/-- Parts one after the other. -/
def Parts (new : ServerId → Prop) (op : Op) : Broker → Broker → Prop := Relation.ReflTransGen (Part new op)

/-- A part is a change, or it changes nothing. -/
theorem Part.changes (h : Part new op b b') (hb : b.Sound) : Changes new b b' := by
  cases h with
  | routed id => exact changes_route hb id
  | upgraded id q => exact .of_affects (upgrade_cases hb id q)
  | closed id => exact .of_affects (close_cases hb id)
  | answered p id r hp hserves => exact .of_affects (applyResponse_cases hb hserves r)
  | dismissed k id => exact (endings_dismiss hb k id).changes
  | provided h => exact .single (.providers h)
  | registered l => exact .single (.providers (.of_alike rfl rfl rfl (.insert_local hb.builtIn l.name l)))
  | opened d _ hidle => exact .single (.providers (rearranged_registerDesk hb hidle))
  | forgotten keep hkeep => exact .single (.forgotten keep hkeep)
  | malformed id hnew habsent => exact .single (.malformed hnew habsent)
  | admitted id s hnew habsent hs => exact .single (.admitted hnew habsent hs)

theorem Part.sound (h : Part new op b b') (hb : b.Sound) : b'.Sound := (h.changes hb).sound hb

namespace Parts

theorem refl (b : Broker) : Parts new op b b := Relation.ReflTransGen.refl

theorem single (h : Part new op b b') : Parts new op b b' := Relation.ReflTransGen.single h

theorem trans (h : Parts new op b b') (h' : Parts new op b' b'') : Parts new op b b'' :=
  Relation.ReflTransGen.trans h h'

/-- What every part keeps of a sound broker, parts one after the other keep. -/
theorem induction {R : Broker → Broker → Prop} (h : Parts new op b b') (hb : b.Sound) (hrefl : ∀ c, R c c)
    (htrans : ∀ c d e, R c d → R d e → R c e) (hpart : ∀ c d, c.Sound → Part new op c d → R c d) :
    b'.Sound ∧ R b b' := by
  induction h with
  | refl => exact ⟨hb, hrefl b⟩
  | @tail c d _ hone ih =>
    obtain ⟨hc, hR⟩ := ih
    exact ⟨hone.sound hc, htrans b c d hR (hpart c d hc hone)⟩

theorem changes (h : Parts new op b b') (hb : b.Sound) : Changes new b b' :=
  (h.induction hb Changes.refl (fun _ _ _ => Changes.trans) fun _ _ hc hone => hone.changes hc).2

theorem sound (h : Parts new op b b') (hb : b.Sound) : b'.Sound := (h.changes hb).sound hb

/-- Steps one after the other, each of which is made of parts. -/
theorem foldl {α : Type} {f : Broker → α → Broker} (h : ∀ b x, b.Sound → Parts new op b (f b x)) (l : List α)
    (hb : b.Sound) : Parts new op b (l.foldl f b) := by
  induction l generalizing b with
  | nil => exact refl b
  | cons x l ih =>
    have hone := h b x hb
    exact hone.trans (ih (hone.sound hb))

end Parts

/-! ### The operations -/

theorem parts_retryWaiting (hb : b.Sound) : Parts new op b b.retryWaiting :=
  .foldl (fun _ id _ => .single (.routed id)) _ hb

/-- Providers come, and then the sessions that wait are routed again. -/
theorem parts_provided (hb : b.Sound) (h : Part new op b b') : Parts new op b b'.retryWaiting :=
  (Parts.single h).trans (parts_retryWaiting (h.sound hb))

theorem part_sweep (hb : b.Sound) : Part new op b b.sweep := by
  refine .provided (rearranged_sweep hb) rfl rfl fun n hn huse => ?_
  rcases Table.contains_filter (p := fun n (v : ParentService) => !v.abandoned || b.inUse (.parent n)) hn with h | h
  · exact h
  · obtain ⟨v, -, hgone⟩ := h
    simp [huse] at hgone

theorem part_abandonParents (hb : b.Sound) (rules : List Rule) (keep : String → Bool) :
    Part new op b { b with rules, providers := b.providers.abandonParents keep } := by
  refine .provided (rearranged_abandonParents hb rules keep) rfl rfl fun n hn _ => ?_
  show (b.providers.parents.map _).contains n = true
  rw [Table.contains, Table.find?_map, Option.isSome_map]
  exact hn

theorem parts_create (b : Broker) (id : ServerId) (service args : String) (affinity : Affinity) :
    Parts ((Op.create id service args affinity).Opens b) op b (b.create id service args affinity).2 := by
  rcases create_taken b id service args affinity with ⟨-, hsame⟩ | ⟨hlive, taken, htaken, hrest⟩
  · rw [hsame]
    exact .refl b
  · have herase : Part ((Op.create id service args affinity).Opens b) op b taken := by
      rw [htaken]
      refine .forgotten _ fun j t ht hj => ?_
      obtain rfl : id = j := by simpa using hj
      exact not_alive_of_isLive hlive ht
    have habsent : taken.sessions.find? id = none := by
      rw [htaken]
      exact Table.find?_erase_self _ _
    rcases hrest with ⟨e, -, heq⟩ | ⟨r, hr, heq⟩
    · rw [heq]
      exact (Parts.single herase).trans (.single (.malformed id ⟨rfl, hlive⟩ habsent))
    · rw [heq]
      have hadmitted : Part ((Op.create id service args affinity).Opens b) op taken _ :=
        .admitted id r ⟨rfl, hlive⟩ habsent (RuntimeConfig.isFresh_newSession hr)
      exact ((Parts.single herase).trans (.single hadmitted)).trans (.single (.routed id))

theorem parts_childAnswer (hb : b.Sound) (k : ChildKey) (request : ClientId) (r : Response) :
    Parts new op b (b.childAnswer k request r).2 := by
  rcases childAnswer_taken b k request r with ⟨e, heq⟩ | ⟨id, hid, heq⟩
  · rw [heq]
    exact .refl b
  · have happly : Part new op b (b.applyResponse k.provider id r).2 :=
      .answered k.provider id r rfl (serves_of_request? hb hid)
    rw [heq]
    exact (Parts.single happly).trans (.single (part_sweep (happly.sound hb)))

/-- All sessions of a service are dismissed before it is forgotten. -/
theorem parts_removeService (hb : b.Sound) (k : ChildKey) : Parts new op b (b.removeService k) := by
  have hdismiss : Parts new op b (b.sessions.keys.foldl (dismiss k) b) :=
    .foldl (fun _ id _ => .single (.dismissed k id)) _ hb
  refine hdismiss.trans (.single (.provided ?_ rfl rfl fun _ hn _ => hn))
  exact rearranged_erase (hdismiss.sound hb) (lost_dismissAll hb k)

/-- The answers of local code to some of the requests that it is shown. -/
theorem parts_answers (hb : b.Sound) (service : String) {callback : Nat → Request → Option Response}
    {requests : List (ServerId × Request)} (hshown : ∀ e ∈ requests, e ∈ b.localRequests service) :
    Parts new op b (b.applyLocal service (collect callback requests)) :=
  applyLocal_induction .refl (fun _ _ _ => .trans)
    (fun _ id r _ hserves => .single (.answered (.later service) id r rfl hserves)) _ b hb
    fun _ he => serves_of_mem_collect hb hshown he

/-- Every operation is made of parts, and only the session that it opens starts. -/
theorem parts_step (hb : b.Sound) (hop : op.IsBuiltIn) : Parts (op.Opens b) op b (b.step op).2 := by
  cases op with
  | create id service args affinity => exact parts_create b id service args affinity
  | upgrade id q => exact .single (.upgraded id q rfl)
  | close id => exact .single (.closed id rfl)
  | childAnswer k request r => exact parts_childAnswer hb k request r
  | announce k account =>
    show Parts _ _ b (b.announce k account)
    unfold announce
    split
    · exact .refl b
    · rename_i hfree
      exact parts_provided hb
        (.provided (rearranged_announce hb (by simpa using hfree) account) rfl rfl fun _ hn _ => hn)
  | withdraw k =>
    have hone : Part ((Op.withdraw k).Opens b) (.withdraw k) b { b with
        providers.children := b.providers.children.modify k fun c => { c with abandoned := true } } :=
      .provided (rearranged_withdraw hb k) rfl rfl fun _ hn _ => hn
    exact (Parts.single hone).trans (.single (part_sweep (hone.sound hb)))
  | removeChild child => exact .foldl (fun _ k hb => parts_removeService hb k) _ hb
  | applyRouting rules =>
    have hone : Part ((Op.applyRouting rules).Opens b) (.applyRouting rules) b _ :=
      part_abandonParents hb rules fun n => rules.any fun r => r.names n
    exact (Parts.single hone).trans (parts_provided (hone.sound hb) (part_sweep (hone.sound hb)))
  | registerLocal service =>
    obtain ⟨l, rfl⟩ := hop
    exact parts_provided hb (.registered l rfl)
  | registerDesk d => exact parts_provided hb (.opened d rfl hop)
  | answerRequested service callback => exact parts_answers hb service fun e he => (List.mem_filter.1 he).1
  | answerUpgraded service applied => exact parts_answers hb service fun e he => (List.mem_filter.1 he).1
  | answerClosing service closed => exact parts_answers hb service fun e he => (List.mem_filter.1 he).1
  | reap => exact .single (.forgotten (fun _ t => t.session.isAlive) fun _ _ _ h => h)

/-- Every operation is made of changes, and only the session that it opens starts. -/
theorem changes_step (hb : b.Sound) (hop : op.IsBuiltIn) : Changes (op.Opens b) b (b.step op).2 :=
  (parts_step hb hop).changes hb

end SessionBroker.Broker
