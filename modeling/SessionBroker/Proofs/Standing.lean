import SessionBroker.Proofs.Calls
import SessionBroker.Proofs.Responding
import SessionBroker.Proofs.Workings

/-!
# SessionBroker.Proofs.Standing — which providers are there

* `Registry.standing?`: how a provider stands, apart from its sessions: whether it was withdrawn, and what bell it has.
* `Broker.Stands b b'`: the same rules are in force, and the providers stand as they stood; services of the parent may
  have been made.
* `Broker.Chores b b'`: the providers worked on sessions only; so they stand as they stood.
* `chores_step`: requests of the parent, the answers of local code and the loss of closed sessions are such steps.
* `standing?_sweep` and its like: what the other operations do to a provider.
-/

namespace SessionBroker

/-- How a provider stands, apart from its sessions. -/
structure Standing where
  withdrawn : Bool := false
  /-- The name under which the provider is woken, if it has a bell. -/
  bell : Option String := none
  /-- The name and the tries of a service of the parent. -/
  forwards : Option (String × Tries) := none
  deriving DecidableEq

/-- How a service of the parent stands when it is made. -/
def Standing.made (limit : Word) (n : String) : Standing := { forwards := some (n, .upTo limit.val) }

namespace Registry

/-- How a provider stands, if it is there. -/
def standing? (r : Registry) : Provider → Option Standing
  | .here n => (r.locals.find? n).map fun _ => {}
  | .later n => (r.desks.find? n).map fun d => { bell := d.bell }
  | .parent n =>
    (r.parents.find? n).map fun v => { withdrawn := v.abandoned, forwards := some (v.name, v.tries) }
  | .child c n => (r.children.find? ⟨c, n⟩).map fun v => { withdrawn := v.abandoned, bell := v.desk.bell }

/-- The bell of a provider. -/
def bell? (r : Registry) (p : Provider) : Option String := (r.standing? p).bind (·.bell)

/-- Providers stand as they stood, and services of the parent may have been made. -/
structure Stands (limit : Word) (r r' : Registry) : Prop where
  kept : ∀ p u, r.standing? p = some u → r'.standing? p = some u
  made : ∀ p u, r'.standing? p = some u → r.standing? p = some u ∨ ∃ n, p = .parent n ∧ u = .made limit n

variable {r r' r'' : Registry} {limit : Word} {s : Session} {env : Env} {o : Outcome Registry} {p q : Provider}

theorem standing?_child (r : Registry) (k : ChildKey) :
    r.standing? k.provider =
      (r.children.find? k).map fun v => { withdrawn := v.abandoned, bell := v.desk.bell } := rfl

theorem contains_eq_standing? (r : Registry) (p : Provider) : r.contains p = (r.standing? p).isSome := by
  cases p <;> exact (Option.isSome_map ..).symm

namespace Stands

theorem of_eq (h : ∀ p, r'.standing? p = r.standing? p) : Stands limit r r' where
  kept p _ hu := (h p).trans hu
  made p _ hu := .inl ((h p).symm.trans hu)

theorem refl (r : Registry) : Stands limit r r := .of_eq fun _ => rfl

theorem trans (h : Stands limit r r') (h' : Stands limit r' r'') : Stands limit r r'' where
  kept p u hu := h'.kept p u (h.kept p u hu)
  made p u hu := by
    rcases h'.made p u hu with hu | hnew
    · exact h.made p u hu
    · exact .inr hnew

/-- Only services of the parent are made. -/
theorem standing?_eq (h : Stands limit r r') (hp : ∀ n, p ≠ .parent n) : r'.standing? p = r.standing? p := by
  refine Option.ext fun u => ⟨fun hu => ?_, h.kept p u⟩
  rcases h.made p u hu with hu | ⟨n, rfl, -⟩
  · exact hu
  · exact absurd rfl (hp n)

/-- A service that is made is not withdrawn. -/
theorem of_withdrawn (h : Stands limit r r') {u : Standing} (hu : r'.standing? p = some u) (hgone : u.withdrawn = true) :
    r.standing? p = some u := by
  rcases h.made p u hu with hu | ⟨n, -, rfl⟩
  · exact hu
  · cases hgone

end Stands

/-! ### The work of providers -/

theorem bells_wake_desk (d : Desk) (env : Env) : (d.wake env).bells = env.bells ++ d.bell.toList := by
  unfold Desk.wake
  cases d.bell with
  | none => exact (List.append_nil _).symm
  | some name => exact env.bells_record (.woken name)

/-- Waking a provider rings its bell. -/
theorem bells_wake (hr : r.BuiltIn limit) (env : Env) (p : Provider) :
    (r.wake env p).bells = env.bells ++ (r.bell? p).toList := by
  cases p with
  | here n =>
    cases hv : r.locals.find? n with
    | none => simp [bell?, standing?, wake, hv]
    | some v =>
      obtain ⟨l, rfl⟩ := hr.locals n v hv
      simp [bell?, standing?, wake, hv, Service.wake]
  | later n =>
    cases hd : r.desks.find? n with
    | none => simp [bell?, standing?, wake, hd]
    | some d => simpa [bell?, standing?, wake, hd] using bells_wake_desk d env
  | parent n => cases hv : r.parents.find? n <;> simp [bell?, standing?, wake, hv]
  | child c n =>
    cases hv : r.children.find? ⟨c, n⟩ with
    | none => simp [bell?, standing?, wake, hv]
    | some v => simpa [bell?, standing?, wake, hv] using bells_wake_desk v.desk env

theorem bell_initiate (d : Desk) (s : Session) (env : Env) : (d.initiate s env).service.bell = d.bell := by
  have hpost : (d.post s).2.1.bell = d.bell := by
    unfold Desk.post
    split <;> rfl
  unfold Desk.initiate
  split
  · exact hpost
  · split <;> rfl
  · rfl

theorem service_initiate (v : ParentService) (s : Session) (env : Env) : (v.initiate s env).service = v := by
  unfold ParentService.initiate
  split <;> rfl

/-- A provider that works on a session stands as it stood. -/
theorem standing?_initiate? (h : r.initiate? s env p = some o) (q : Provider) :
    o.service.standing? q = r.standing? q := by
  cases p with
  | here n =>
    obtain ⟨v, hv, rfl⟩ := Option.map_eq_some_iff.1 h
    cases q with
    | here m =>
      show ((r.locals.insert n (v.initiate s env).service).find? m).map (fun _ => ({} : Standing)) = _
      refine Table.map_find?_insert hv ?_ m
      rfl
    | later m | parent m | child c m => rfl
  | later n =>
    obtain ⟨d, hd, rfl⟩ := Option.map_eq_some_iff.1 h
    cases q with
    | later m =>
      exact Table.map_find?_insert hd (congrArg (fun bell => ({ bell := bell } : Standing)) (bell_initiate d s env)) m
    | here m | parent m | child c m => rfl
  | parent n =>
    obtain ⟨v, hv, rfl⟩ := Option.map_eq_some_iff.1 h
    cases q with
    | parent m =>
      refine Table.map_find?_insert hv ?_ m
      rw [show (v.initiate s env).service = v from service_initiate v s env]
    | here m | later m | child c m => rfl
  | child c n =>
    obtain ⟨v, hv, rfl⟩ := Option.map_eq_some_iff.1 h
    cases q with
    | child c' m =>
      exact Table.map_find?_insert hv
        (congrArg (fun bell => ({ withdrawn := v.abandoned, bell := bell } : Standing)) (bell_initiate v.desk s env)) _
    | here m | later m | parent m => rfl

/-- A request that is forgotten leaves its provider as it stands. -/
theorem standing?_release (r : Registry) (i : ClientId) (p q : Provider) :
    (r.release i p).standing? q = r.standing? q := by
  cases p with
  | here n | parent n => rfl
  | later n =>
    cases q with
    | later m =>
      show ((r.desks.modify n fun d => d.release i).find? m).map (fun d => ({ bell := d.bell } : Standing)) = _
      refine Table.map_find?_modify ?_ m
      exact fun _ => rfl
    | here m | parent m | child c m => rfl
  | child c n =>
    cases q with
    | child c' m =>
      show ((r.children.modify ⟨c, n⟩ fun v => { v with desk := v.desk.release i }).find? ⟨c', m⟩).map
        (fun v => ({ withdrawn := v.abandoned, bell := v.desk.bell } : Standing)) = _
      refine Table.map_find?_modify ?_ _
      exact fun _ => rfl
    | here m | parent m | later m => rfl

/-- Looking a provider up may make a service of the parent. -/
theorem stands_find (r : Registry) (limit : Word) (service : String) (target : Target) :
    r.Stands limit (r.find limit service target).2 := by
  unfold find
  split
  · exact .refl r
  · unfold findParent
    split
    · exact .refl r
    · rename_i hnone
      have hsame : ∀ q, q ≠ .parent service → standing? { r with
          parents := r.parents.insert service { name := service, tries := .upTo limit.val } } q = r.standing? q := by
        intro q hq
        cases q with
        | parent m =>
          have hm : m ≠ service := fun h => hq (congrArg Provider.parent h)
          show ((r.parents.insert service _).find? m).map _ = _
          rw [Table.find?_insert_of_ne _ _ hm]
          rfl
        | here m | later m | child c m => rfl
      refine ⟨fun q t ht => ?_, fun q t ht => ?_⟩
      · refine (hsame q ?_).trans ht
        rintro rfl
        simp [standing?, hnone] at ht
      · by_cases hq : q = .parent service
        · subst hq
          refine .inr ⟨service, rfl, ?_⟩
          simpa [standing?, Standing.made] using ht.symm
        · exact .inl ((hsame q hq).symm.trans ht)
  · exact .refl r

/-- What work on sessions does to the providers: one of them works on a session, is looked up or forgets a request. -/
inductive Chore (limit : Word) (r : Registry) : Registry → Prop
  | worked {s : Session} {env : Env} {p : Provider} {o : Outcome Registry} :
      r.initiate? s env p = some o → Chore limit r o.service
  | looked (service : String) (target : Target) : Chore limit r (r.find limit service target).2
  | released (i : ClientId) (p : Provider) : Chore limit r (r.release i p)

/-- Providers that work on sessions stand as they stood. -/
theorem Chore.stands (h : Chore limit r r') : Stands limit r r' := by
  cases h with
  | worked ho => exact .of_eq (standing?_initiate? ho)
  | looked service target => exact stands_find r limit service target
  | released i p => exact .of_eq (standing?_release r i p)

/-! ### Providers that come and go -/

/-- A sweep removes the providers that were withdrawn and are not in use. -/
theorem standing?_sweep (r : Registry) (inUse : Provider → Bool) (p : Provider) :
    (r.sweep inUse).standing? p = (r.standing? p).filter fun t => !t.withdrawn || inUse p := by
  cases p with
  | here n =>
    show (r.locals.find? n).map _ = ((r.locals.find? n).map _).filter _
    cases r.locals.find? n <;> rfl
  | later n =>
    show (r.desks.find? n).map _ = ((r.desks.find? n).map _).filter _
    cases r.desks.find? n <;> rfl
  | parent n => exact Table.map_find?_filter r.parents fun _ => rfl
  | child c n => exact Table.map_find?_filter r.children fun _ => rfl

/-- What happens to the service of a child leaves the other providers as they stand. -/
theorem standing?_children_of_ne {r : Registry} {k : ChildKey} {children : Table ChildKey ChildService}
    (hothers : ∀ k', k' ≠ k → children.find? k' = r.children.find? k') {q : Provider} (hq : q ≠ k.provider) :
    standing? { r with children := children } q = r.standing? q := by
  cases q with
  | child c n =>
    have hk : ChildKey.mk c n ≠ k := fun h => hq (congrArg ChildKey.provider h)
    show (children.find? ⟨c, n⟩).map _ = (r.children.find? ⟨c, n⟩).map _
    rw [hothers _ hk]
  | here n | later n | parent n => rfl

theorem standing?_announced (r : Registry) (k : ChildKey) (account : AccountId) (q : Provider) :
    standing? { r with children := r.children.insert k (.announced k.child k.service account) } q =
      if q = k.provider then some { bell := some (k.child ++ "/" ++ k.service) } else r.standing? q := by
  by_cases hq : q = k.provider
  · subst hq
    rw [if_pos rfl, standing?_child, Table.find?_insert_self]
    rfl
  · rw [if_neg hq]
    exact standing?_children_of_ne (fun k' hk' => Table.find?_insert_of_ne _ _ hk') hq

theorem standing?_withdrawn (r : Registry) (k : ChildKey) (q : Provider) :
    standing? { r with children := r.children.modify k fun c => { c with abandoned := true } } q =
      if q = k.provider then (r.standing? q).map fun u => { u with withdrawn := true } else r.standing? q := by
  by_cases hq : q = k.provider
  · subst hq
    rw [if_pos rfl, standing?_child, standing?_child, Table.find?_modify_self, Option.map_map, Option.map_map]
    rfl
  · rw [if_neg hq]
    exact standing?_children_of_ne (fun k' hk' => Table.find?_modify_of_ne _ _ hk') hq

theorem standing?_forgotten (r : Registry) (k : ChildKey) (q : Provider) :
    standing? { r with children := r.children.erase k } q = if q = k.provider then none else r.standing? q := by
  by_cases hq : q = k.provider
  · subst hq
    rw [if_pos rfl, standing?_child, Table.find?_erase_self]
    rfl
  · rw [if_neg hq]
    exact standing?_children_of_ne (fun k' hk' => Table.find?_erase_of_ne _ hk') hq

/-- New rules withdraw the services of the parent that they do not name. -/
theorem standing?_abandonParents (r : Registry) (keep : String → Bool) (n : String) :
    (r.abandonParents keep).standing? (.parent n) =
      (r.standing? (.parent n)).map fun u => if keep n then u else { u with withdrawn := true } := by
  show ((r.parents.map _).find? n).map _ = ((r.parents.find? n).map _).map _
  rw [Table.find?_map, Option.map_map, Option.map_map]
  congr 1
  funext v
  simp only [Function.comp]
  split <;> rfl

theorem standing?_abandonParents_of_ne (r : Registry) (keep : String → Bool) {q : Provider}
    (hq : ∀ n, q ≠ .parent n) : (r.abandonParents keep).standing? q = r.standing? q := by
  cases q with
  | parent n => exact absurd rfl (hq n)
  | here n | later n | child c n => rfl

end Registry

namespace Broker

variable {b b' b'' : Broker}

/-- The same rules are in force, and the providers stand as they stood. -/
structure Stands (b b' : Broker) : Prop where
  rules : b'.rules = b.rules
  config : b'.config = b.config
  providers : b.providers.Stands b.config.retryLimit b'.providers

namespace Stands

theorem of_eq (hrules : b'.rules = b.rules) (hconfig : b'.config = b.config) (h : b'.providers = b.providers) :
    Stands b b' := by
  refine ⟨hrules, hconfig, ?_⟩
  rw [h]
  exact .refl b.providers

theorem refl (b : Broker) : Stands b b := .of_eq rfl rfl rfl

theorem trans (h : Stands b b') (h' : Stands b' b'') : Stands b b'' :=
  ⟨h'.rules.trans h.rules, h'.config.trans h.config, h.providers.trans (by rw [← h.config]; exact h'.providers)⟩

/-- Providers that stand as they stood are there. -/
theorem contains (h : Stands b b') {p : Provider} (hp : b.providers.contains p = true) :
    b'.providers.contains p = true := by
  rw [Registry.contains_eq_standing?] at hp ⊢
  obtain ⟨u, hu⟩ := Option.isSome_iff_exists.1 hp
  rw [h.providers.kept p u hu]
  rfl

end Stands

/-- The same rules are in force, and the providers worked on sessions only. -/
structure Chores (b b' : Broker) : Prop where
  rules : b'.rules = b.rules
  config : b'.config = b.config
  providers : Relation.ReflTransGen (Registry.Chore b.config.retryLimit) b.providers b'.providers

namespace Chores

theorem of_eq (hrules : b'.rules = b.rules) (hconfig : b'.config = b.config) (h : b'.providers = b.providers) :
    Chores b b' := by
  refine ⟨hrules, hconfig, ?_⟩
  rw [h]

theorem refl (b : Broker) : Chores b b := .of_eq rfl rfl rfl

theorem trans (h : Chores b b') (h' : Chores b' b'') : Chores b b'' :=
  ⟨h'.rules.trans h.rules, h'.config.trans h.config, h.providers.trans (by rw [← h.config]; exact h'.providers)⟩

theorem foldl {α : Type} {f : Broker → α → Broker} (h : ∀ b x, Chores b (f b x)) :
    ∀ (l : List α) (b : Broker), Chores b (l.foldl f b)
  | [], b => refl b
  | x :: l, b => (h b x).trans (foldl h l (f b x))

theorem stands (h : Chores b b') : Stands b b' := by
  refine ⟨h.rules, h.config, ?_⟩
  have hproviders := h.providers
  generalize b'.providers = r at hproviders ⊢
  induction hproviders with
  | refl => exact .refl b.providers
  | tail _ hone ih => exact ih.trans hone.stands

end Chores

variable (b) (id : ServerId) (p : Provider) (s : Session)

/-! ### Creating sessions -/

/-- Where a session is stored and its provider is not asked, the providers are left alone. -/
theorem Stores.chores {b b' : Broker} {id : ServerId} {s : Session} (h : Stores b b' id s) : b.Chores b' :=
  .of_eq h.rules h.config h.providers

/-- A provider that is given a session works on it. -/
theorem Works.chores {b b' : Broker} {id : ServerId} {p : Provider} {s s' : Session} {o : Outcome Registry}
    (h : Works b b' id p s s' o) : b.Chores b' := by
  obtain ⟨env, -, ho⟩ := h.given
  refine ⟨h.rules, h.config, .single ?_⟩
  rw [h.providers]
  exact .worked ho

theorem chores_refuse (next : Phase) : b.Chores (b.refuse id s next) := (stores_refuse b id s next).chores

theorem chores_initiateCreate : b.Chores (b.initiateCreate id p s) := by
  rcases initiateCreate_cases b id p s with ⟨s', hstores, -⟩ | ⟨o, s', hworks, -⟩
  · exact hstores.chores
  · exact hworks.chores

theorem chores_routeSession : b.Chores (b.routeSession id s) := by
  unfold routeSession
  split
  · exact chores_refuse b id s _
  · rename_i route _
    have hlooked : Registry.Chore b.config.retryLimit b.providers
        (b.providers.find b.config.retryLimit route.service route.target).2 := .looked _ _
    split
    · exact .refl b
    · exact chores_refuse b id s _
    · rename_i p providers heq
      rw [heq] at hlooked
      refine Chores.trans ?_ (chores_initiateCreate _ id p _)
      exact ⟨rfl, rfl, .single hlooked⟩

theorem chores_route : b.Chores (b.route id) := by
  unfold route
  split
  · split
    · exact chores_routeSession b id _
    · exact .refl b
  · exact .refl b

theorem chores_retryWaiting : b.Chores b.retryWaiting := .foldl chores_route _ b

theorem chores_create (service args : String) (affinity : Affinity) :
    b.Chores (b.create id service args affinity).2 := by
  unfold create
  split
  · exact .refl b
  · dsimp only
    split
    · exact .of_eq rfl rfl rfl
    · refine Chores.trans ?_ (chores_route _ id)
      exact .of_eq rfl rfl rfl

/-! ### Upgrades and closes -/

theorem chores_initiateUpgrade (q : Quota) : b.Chores (b.initiateUpgrade id p s q).2 := by
  rcases initiateUpgrade_cases b id p s q with hsame | ⟨o, s', hworks, -⟩
  · rw [hsame]
    exact .refl b
  · exact hworks.chores

theorem chores_upgrade (q : Quota) : b.Chores (b.upgrade id q).2 := by
  unfold upgrade
  split
  · exact .refl b
  · dsimp only
    split
    · exact .refl b
    · split
      · split
        · exact chores_initiateUpgrade b id _ _ q
        · exact .refl b
      · exact .refl b

theorem chores_initiateClose : b.Chores (b.initiateClose id p s) := by
  rcases initiateClose_cases b id p s with ⟨-, s', hstores, -⟩ | ⟨o, s', hworks, -⟩
  · exact hstores.chores
  · exact hworks.chores

theorem chores_close : b.Chores (b.close id).2 := by
  unfold close
  split
  · exact .refl b
  · split
    · exact .refl b
    · dsimp only
      split
      · exact .of_eq rfl rfl rfl
      · exact chores_initiateClose b id _ _

/-! ### Answers of providers -/

theorem chores_release : b.Chores (b.release p s) := by
  unfold release
  split
  · exact ⟨rfl, rfl, .single (.released _ p)⟩
  · exact .refl b

theorem chores_finish (next : Phase) (a : Answer) : b.Chores (b.finish p id s next a) :=
  (chores_release b p s).trans (.of_eq rfl rfl rfl)

theorem chores_settle {r : Response} (h : b.settle p id s r = some b') : b.Chores b' := by
  unfold settle at h
  dsimp only at h
  split at h
  · obtain rfl := Option.some.inj h
    exact chores_finish b id p _ _ _
  · cases r with
    | deliver cap =>
      obtain ⟨-, h⟩ := Option.ite_none_right_eq_some.1 h
      obtain rfl := Option.some.inj h
      exact (stores_handOut b id _).chores
    | upgradeDone =>
      obtain ⟨-, h⟩ := Option.ite_none_right_eq_some.1 h
      obtain rfl := Option.some.inj h
      exact .of_eq rfl rfl rfl
    | denied | insufficientRam | insufficientCaps | closed =>
      obtain ⟨-, h⟩ := Option.ite_none_right_eq_some.1 h
      obtain rfl := Option.some.inj h
      exact chores_finish b id p _ _ _

theorem chores_applyResponse (r : Response) : b.Chores (b.applyResponse p id r).2 := by
  unfold applyResponse
  split
  · exact .refl b
  · split
    · rename_i heq
      exact chores_settle b id p _ heq
    · exact .refl b

theorem chores_applyLocal (service : String) (answers : List (ServerId × Response)) :
    b.Chores (b.applyLocal service answers) :=
  .foldl (fun b (e : ServerId × Response) => chores_applyResponse b e.1 (.later service) e.2) answers b

theorem chores_dismiss (k : ChildKey) : b.Chores (b.dismiss k id) := by
  unfold dismiss
  split
  · exact .refl b
  · split
    · dsimp only
      split <;> exact chores_finish b id k.provider _ _ _
    · exact .refl b

/-- A child that is heard ends a sweep, and one that is not heard changes nothing. -/
theorem childAnswer_cases (k : ChildKey) (request : ClientId) (r : Response) :
    (b.childAnswer k request r).1.isOk = false ∧ (b.childAnswer k request r).2 = b ∨
      (b.childAnswer k request r).1.isOk = true ∧ ∃ c, b.Chores c ∧ (b.childAnswer k request r).2 = c.sweep := by
  rcases childAnswer_taken b k request r with ⟨e, heq⟩ | ⟨id, -, heq⟩
  · rw [heq]
    exact .inl ⟨rfl, rfl⟩
  · rw [heq]
    exact .inr ⟨rfl, _, chores_applyResponse b id k.provider r, rfl⟩

/-! ### The operations -/

/-- The operations by which providers come and go.  With an answer of a child, a service may go that was withdrawn. -/
def Op.Provides : Op → Prop
  | .childAnswer _ _ _ | .announce _ _ | .withdraw _ | .removeChild _ | .applyRouting _ => True
  | .registerLocal _ | .registerDesk _ => True
  | .create _ _ _ _ | .upgrade _ _ | .close _ | .reap => False
  | .answerRequested _ _ | .answerUpgraded _ _ | .answerClosing _ _ => False

/-- In all other operations the providers work on sessions only. -/
theorem chores_step {op : Op} (h : ¬op.Provides) : b.Chores (b.step op).2 := by
  cases op with
  | create id service args affinity => exact chores_create b id service args affinity
  | upgrade id q => exact chores_upgrade b id q
  | close id => exact chores_close b id
  | answerRequested service callback => exact chores_applyLocal b service _
  | answerUpgraded service applied => exact chores_applyLocal b service _
  | answerClosing service closed => exact chores_applyLocal b service _
  | reap => exact .of_eq rfl rfl rfl
  | childAnswer | announce | withdraw | removeChild | applyRouting | registerLocal | registerDesk =>
    exact absurd trivial h

end Broker

end SessionBroker
