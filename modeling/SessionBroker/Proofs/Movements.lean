import SessionBroker.Proofs.Announcing
import SessionBroker.Proofs.Standing

/-!
# SessionBroker.Proofs.Movements — what an operation does to the providers

Everything that an operation does to the providers of a broker is one of few moves.  What each move preserves, every
operation preserves, whatever it does to the sessions.

* `Registry.Move new r r'`: one move: a provider works on a session, is looked up, forgets a request or is withdrawn, or
  providers come and go.  A child announces services as `new` says only.
* `Registry.Moves new`: moves one after the other.
* `moves_step`: an operation takes the providers through such moves.
* `IdSpace.Continues s s'`: allocations and releases lead from `s` to `s'`.
* `Registry.Proceeds k r r'`: the service of a child is the one that was there, and requests were only posted and
  released at it.
* `Move.proceeds`, `Moves.proceeds`: a service proceeds until one is announced under its name.
-/

namespace SessionBroker

namespace IdSpace

variable {side : Side} {α : Type} {s s' s'' : IdSpace side α}

/-- Allocations and releases lead from one space to the other. -/
inductive Continues (s : IdSpace side α) : IdSpace side α → Prop
  | refl : Continues s s
  | alloc {s' : IdSpace side α} (v : α) : Continues s s' → Continues s (s'.alloc v).2
  | erase {s' : IdSpace side α} (i : Ident side) : Continues s s' → Continues s (s'.erase i)

namespace Continues

theorem trans (h : s.Continues s') (h' : s'.Continues s'') : s.Continues s'' := by
  induction h' with
  | refl => exact h
  | alloc v _ ih => exact .alloc v ih
  | erase i _ ih => exact .erase i ih

theorem allocs_le (h : s.Continues s') : s.allocs ≤ s'.allocs := by
  induction h with
  | refl => exact Nat.le_refl _
  | alloc v _ ih => exact Nat.le_succ_of_le ih
  | erase i _ ih => exact ih

end Continues

end IdSpace

/-- A desk that works on a session posts a request, or it posts none. -/
theorem Desk.continues_initiate (d : Desk) (s : Session) (env : Env) :
    d.requests.Continues (d.initiate s env).service.requests := by
  unfold initiate
  split
  · dsimp only
    unfold post
    split
    · exact .refl
    · exact .refl
    · exact .alloc _ .refl
  · split <;> exact .refl
  · exact .refl

namespace Registry

/-- One move of the providers.  A service of a child can be announced as `new` says only. -/
inductive Move (new : ChildKey → AccountId → Prop) (r : Registry) : Registry → Prop
  /-- A provider works on a session. -/
  | worked {s : Session} {env : Env} {p : Provider} {o : Outcome Registry} :
      r.initiate? s env p = some o → Move new r o.service
  /-- The provider of a new session is looked up. -/
  | looked (limit : Word) (service : String) (target : Target) : Move new r (r.find limit service target).2
  /-- A posted request is forgotten. -/
  | released (i : ClientId) (p : Provider) : Move new r (r.release i p)
  | swept (inUse : Provider → Bool) : Move new r (r.sweep inUse)
  /-- New rules do not name services of the parent. -/
  | unnamed (keep : String → Bool) : Move new r (r.abandonParents keep)
  | withdrawn (k : ChildKey) :
      Move new r { r with children := r.children.modify k fun c => { c with abandoned := true } }
  | forgotten (k : ChildKey) : Move new r { r with children := r.children.erase k }
  | announced {k : ChildKey} {account : AccountId} :
      new k account → Move new r { r with children := r.children.insert k (.announced k.child k.service account) }
  /-- The services of this component that answer at once change. -/
  | locals (services : Table String Service) : Move new r { r with locals := services }
  /-- The services of this component that answer later change. -/
  | desks (services : Table String Desk) : Move new r { r with desks := services }

theorem Chore.move {limit : Word} {new : ChildKey → AccountId → Prop} {r r' : Registry} (h : Chore limit r r') :
    Move new r r' := by
  cases h with
  | worked ho => exact .worked ho
  | looked service target => exact .looked limit service target
  | released i p => exact .released i p

/-- Moves one after the other. -/
def Moves (new : ChildKey → AccountId → Prop) : Registry → Registry → Prop := Relation.ReflTransGen (Move new)

variable {new : ChildKey → AccountId → Prop} {r r' r'' : Registry}

namespace Moves

theorem refl (r : Registry) : Moves new r r := Relation.ReflTransGen.refl

theorem single (h : Move new r r') : Moves new r r' := Relation.ReflTransGen.single h

theorem trans (h : Moves new r r') (h' : Moves new r' r'') : Moves new r r'' := Relation.ReflTransGen.trans h h'

theorem of_eq (h : r' = r) : Moves new r r' := by
  rw [h]
  exact refl r

/-- What every move preserves, moves one after the other preserve. -/
theorem invariant {I : Registry → Prop} (h : Moves new r r') (hI : I r) (move : ∀ r r', Move new r r' → I r → I r') :
    I r' := by
  induction h with
  | refl => exact hI
  | tail _ hone ih => exact move _ _ hone ih

end Moves

/-! ### Services that proceed -/

variable {k : ChildKey}

/-- A service of a child that is there was there before, with the same account, and since then requests were only posted
and released at it. -/
def Proceeds (k : ChildKey) (r r' : Registry) : Prop :=
  ∀ v', r'.children.find? k = some v' →
    ∃ v, r.children.find? k = some v ∧ v.account = v'.account ∧ v.desk.requests.Continues v'.desk.requests

namespace Proceeds

theorem of_find? (h : ∀ v, r'.children.find? k = some v → r.children.find? k = some v) : Proceeds k r r' :=
  fun v hv => ⟨v, h v hv, rfl, .refl⟩

theorem of_eq (h : r'.children.find? k = r.children.find? k) : Proceeds k r r' := of_find? fun _ hv => h.symm.trans hv

theorem refl (r : Registry) : Proceeds k r r := of_eq rfl

theorem trans (h : Proceeds k r r') (h' : Proceeds k r' r'') : Proceeds k r r'' := by
  intro w hw
  obtain ⟨v, hv, haccount', hcontinues'⟩ := h' w hw
  obtain ⟨u, hu, haccount, hcontinues⟩ := h v hv
  exact ⟨u, hu, haccount.trans haccount', hcontinues.trans hcontinues'⟩

/-- A service that is changed in place keeps its account and continues its requests. -/
theorem of_modify {f : ChildService → ChildService} (k' : ChildKey) (haccount : ∀ v, (f v).account = v.account)
    (hcontinues : ∀ v : ChildService, v.desk.requests.Continues (f v).desk.requests) :
    Proceeds k r { r with children := r.children.modify k' f } := by
  intro w hw
  have hw : (r.children.modify k' f).find? k = some w := hw
  rw [Table.find?_modify] at hw
  split at hw
  · obtain ⟨v, hv, rfl⟩ := Option.map_eq_some_iff.1 hw
    exact ⟨v, hv, (haccount v).symm, hcontinues v⟩
  · exact ⟨w, hw, rfl, .refl⟩

end Proceeds

/-- A provider that works on a session proceeds with its requests. -/
theorem proceeds_initiate? {s : Session} {env : Env} {p : Provider} {o : Outcome Registry}
    (h : r.initiate? s env p = some o) : Proceeds k r o.service := by
  by_cases hp : p = k.provider
  · subst hp
    obtain ⟨v, hv, rfl⟩ := Option.map_eq_some_iff.1 h
    intro w hw
    have hw : (r.children.insert k (v.initiate s env).service).find? k = some w := hw
    rw [Table.find?_insert_self] at hw
    obtain rfl := Option.some.inj hw
    exact ⟨v, hv, rfl, v.desk.continues_initiate s env⟩
  · exact .of_eq (children_initiate?_of_ne h hp)

/-- In one move a service of a child proceeds, or it is announced anew. -/
theorem Move.proceeds (h : Move new r r') (k : ChildKey) :
    Proceeds k r r' ∨
      ∃ account, new k account ∧ r'.children.find? k = some (.announced k.child k.service account) := by
  cases h with
  | worked h => exact .inl (proceeds_initiate? h)
  | looked limit service target => exact .inl (.of_eq (by rw [children_find]))
  | released i p =>
    refine .inl ?_
    cases p with
    | here n | parent n | later n => exact .of_eq rfl
    | child c n => exact .of_modify ⟨c, n⟩ (fun _ => rfl) fun _ => .erase i .refl
  | swept inUse => exact .inl (.of_find? fun _ hv => Table.find?_of_filter hv)
  | unnamed keep | locals services | desks services => exact .inl (.of_eq rfl)
  | withdrawn k' => exact .inl (.of_modify k' (fun _ => rfl) fun _ => .refl)
  | forgotten k' => exact .inl (.of_find? fun _ hv => Table.find?_of_filter hv)
  | @announced k' account hnew =>
    by_cases hk : k = k'
    · subst hk
      exact .inr ⟨account, hnew, Table.find?_insert_self _ _ _⟩
    · exact .inl (.of_eq (Table.find?_insert_of_ne _ _ hk))

/-- A service proceeds until a service is announced under its name. -/
theorem Moves.proceeds (h : Moves new r r') (hold : ∀ account, ¬new k account) : Proceeds k r r' := by
  induction h with
  | refl => exact .refl r
  | tail _ hone ih =>
    refine ih.trans ((hone.proceeds k).resolve_right ?_)
    rintro ⟨account, hnew, -⟩
    exact hold account hnew

end Registry

namespace Broker

variable {new : ChildKey → AccountId → Prop} {b b' b'' : Broker}

/-- The providers of a broker take some moves. -/
def Moves (new : ChildKey → AccountId → Prop) (b b' : Broker) : Prop :=
  Registry.Moves new b.providers b'.providers

/-- Whether an operation announces a service of a child that is not taken. -/
def Op.Announces (b : Broker) (op : Op) (k : ChildKey) (account : AccountId) : Prop :=
  op = .announce k account ∧ b.isTaken k = false

namespace Moves

theorem of_eq (h : b'.providers = b.providers) : Moves new b b' := Registry.Moves.of_eq h

theorem refl (b : Broker) : Moves new b b := of_eq rfl

theorem single (h : Registry.Move new b.providers b'.providers) : Moves new b b' := Registry.Moves.single h

theorem trans (h : Moves new b b') (h' : Moves new b' b'') : Moves new b b'' := Registry.Moves.trans h h'

theorem foldl {α : Type} {f : Broker → α → Broker} (h : ∀ b x, Moves new b (f b x)) :
    ∀ (l : List α) (b : Broker), Moves new b (l.foldl f b)
  | [], b => refl b
  | x :: l, b => (h b x).trans (foldl h l (f b x))

end Moves

variable (b)

/-- Providers that work on sessions make moves. -/
theorem Chores.moves {b b' : Broker} (h : b.Chores b') : Moves new b b' := by
  unfold Moves
  have hproviders := h.providers
  generalize b'.providers = r at hproviders ⊢
  induction hproviders with
  | refl => exact .refl b.providers
  | tail _ hone ih => exact ih.trans (.single hone.move)

theorem moves_sweep : Moves new b b.sweep := .single (.swept b.inUse)

theorem moves_childAnswer (k : ChildKey) (request : ClientId) (r : Response) :
    Moves new b (b.childAnswer k request r).2 := by
  rcases childAnswer_cases b k request r with ⟨-, heq⟩ | ⟨-, c, hchores, heq⟩
  · rw [heq]
    exact .refl b
  · rw [heq]
    exact hchores.moves.trans (moves_sweep c)

theorem moves_removeService (k : ChildKey) : Moves new b (b.removeService k) := by
  have hdismissed : b.Chores (b.sessions.keys.foldl (dismiss k) b) := .foldl (fun b id => chores_dismiss b id k) _ b
  exact hdismissed.moves.trans (.single (.forgotten k))

theorem moves_announce (k : ChildKey) (account : AccountId) :
    Moves ((Op.announce k account).Announces b) b (b.announce k account) := by
  unfold announce
  split
  · exact .refl b
  · rename_i hfree
    refine Moves.trans ?_ (chores_retryWaiting _).moves
    exact .single (.announced ⟨rfl, by simpa using hfree⟩)

theorem moves_withdraw (k : ChildKey) : Moves new b (b.withdraw k) := by
  refine Moves.trans ?_ (moves_sweep _)
  exact .single (.withdrawn k)

theorem moves_applyRouting (rules : List Rule) : Moves new b (b.applyRouting rules) := by
  refine Moves.trans ?_ ((moves_sweep _).trans (chores_retryWaiting _).moves)
  exact .single (.unnamed fun n => rules.any fun r => r.names n)

/-- An operation takes the providers through moves, and announces what it is said to announce. -/
theorem moves_step (op : Op) : Moves (op.Announces b) b (b.step op).2 := by
  cases op with
  | childAnswer k request r => exact moves_childAnswer b k request r
  | announce k account => exact moves_announce b k account
  | withdraw k => exact moves_withdraw b k
  | removeChild child => exact .foldl (fun b k => moves_removeService b k) _ b
  | applyRouting rules => exact moves_applyRouting b rules
  | registerLocal service =>
    refine Moves.trans ?_ (chores_retryWaiting _).moves
    exact .single (.locals _)
  | registerDesk d =>
    refine Moves.trans ?_ (chores_retryWaiting _).moves
    exact .single (.desks _)
  | create | upgrade | close | answerRequested | answerUpgraded | answerClosing | reap =>
    exact Chores.moves (chores_step b fun h => h)

end Broker

end SessionBroker
