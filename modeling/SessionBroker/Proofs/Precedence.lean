import SessionBroker.Proofs.Heeding
import SessionBroker.Proofs.LateAnswers
import SessionBroker.Proofs.Waiting

/-!
# SessionBroker.Proofs.Precedence — which of the sessions that wait is forwarded first

The sessions that wait for a provider are routed one after the other, in the order of the ids that the parent chose for
them.  When their requests arrived is written nowhere.

* `Table.keys_split`: the smaller of two keys stands first.
* `find?_routes`, `request?_routes`: sessions that are routed leave the others, and their requests, as they are.
* `Op.Reroutes`: the operations after which children provide what they did not provide before.
* `Broker.Precedes`: session `i` is routed, and then session `j` with what is left.
* `request_lt`: what is posted while a session waits is smaller than what is posted for that session.
* `forwarded_by_id`: of two sessions that waited, the one with the smaller id precedes, and has the smaller request.
* `Broker.ArrivedBefore`: session `i` was requested before session `j`.
* `forwarded_late`: a session that was requested first can have the larger request.
-/

namespace SessionBroker

/-- The smaller of two keys stands before the other one. -/
theorem Table.keys_split {κ α : Type} [Ord κ] [Std.TransOrd κ] {t : Table κ α} {k k' : κ} (hk : k ∈ t.keys)
    (hk' : k' ∈ t.keys) (hlt : compare k k' = .lt) :
    ∃ before between after, t.keys = before ++ k :: between ++ k' :: after := by
  have hasc : t.keys.Pairwise fun x y => compare x y = .lt := List.pairwise_map.2 t.ascending
  obtain ⟨before, rest, hsplit⟩ := List.append_of_mem hk
  rw [hsplit] at hk' hasc
  have hrest : k' ∈ rest := by
    rcases List.mem_append.1 hk' with hbefore | hself
    · have hgt : compare k' k = .lt := (List.pairwise_append.1 hasc).2.2 k' hbefore k List.mem_cons_self
      cases (Std.OrientedCmp.gt_of_lt hlt).symm.trans hgt
    · refine (List.mem_cons.1 hself).resolve_left ?_
      rintro rfl
      cases Std.ReflCmp.compare_self.symm.trans hlt
  obtain ⟨between, after, rfl⟩ := List.append_of_mem hrest
  exact ⟨before, between, after, by rw [hsplit, List.append_assoc, List.cons_append]⟩

namespace Broker

variable {b b' c : Broker} {id i j : ServerId} {s u : Session} {p : Provider} {k : ChildKey} {op : Op}

/-! ### Sessions that are routed one after the other -/

theorem orderly_routes : ∀ (ids : List ServerId) (b : Broker), b.Orderly → (ids.foldl route b).Orderly
  | [], _, hb => hb
  | j :: ids, b, hb => orderly_routes ids (b.route j) ((handles_route hb j).orderly hb)

theorem find?_routes : ∀ (ids : List ServerId) (b : Broker), b.Orderly → id ∉ ids →
    (ids.foldl route b).sessions.find? id = b.sessions.find? id
  | [], _, _, _ => rfl
  | j :: ids, b, hb, hid => by
    obtain ⟨hj, hids⟩ := not_or.1 fun h => hid (List.mem_cons.2 h)
    have hone := handles_route hb j
    exact (find?_routes ids (b.route j) (hone.orderly hb) hids).trans (hone.others id hj)

theorem request?_routes {x : ClientId} : ∀ (ids : List ServerId) (b : Broker), b.Orderly → id ∉ ids →
    (ids.foldl route b).providers.request? p x = some id → b.providers.request? p x = some id
  | [], _, _, _, hx => hx
  | j :: ids, b, hb, hid, hx => by
    obtain ⟨hj, hids⟩ := not_or.1 fun h => hid (List.mem_cons.2 h)
    have hone := handles_route hb j
    exact hone.requests p x id hj (request?_routes ids (b.route j) (hone.orderly hb) hids hx)

/-- A session keeps waiting while others are routed. -/
theorem Waits.routes (h : b.Waits id s) (hb : b.Orderly) {ids : List ServerId} (hid : id ∉ ids) :
    (ids.foldl route b).Waits id s := ⟨(find?_routes ids b hb hid).trans h.found, h.phase⟩

/-! ### Two sessions that wait -/

/-- A child announces a service, or other rules come into force. -/
def Op.Reroutes : Op → Prop
  | .announce _ _ | .applyRouting _ => True
  | _ => False

/-- On the way from `b` to `b'` the providers change, and then sessions are routed one after the other.  Session `i`
waits until it is its turn.  Session `j` waits longer, and is given what the turns before it leave, that of session `i`
among them. -/
def Precedes (b b' : Broker) (i j : ServerId) (s u : Session) : Prop :=
  ∃ c before between after, c.sessions = b.sessions ∧ c.env = b.env ∧
    (before.foldl route c).Waits i s ∧ ((before ++ i :: between).foldl route c).Waits j u ∧
    b' = (before ++ i :: between ++ j :: after).foldl route c

/-- Where children provide something else, the sessions that wait are routed again, unless nothing changes. -/
theorem rerouted (b : Broker) (hop : op.Reroutes) :
    (b.step op).2 = b ∨ ∃ c, c.sessions = b.sessions ∧ c.env = b.env ∧ Shift (fun _ => False) op b c ∧
      Moves (op.Announces b) b c ∧ (b.step op).2 = c.retryWaiting := by
  cases op with
  | announce k account =>
    show b.announce k account = b ∨ _
    by_cases htaken : b.isTaken k = true
    · exact .inl (if_pos htaken)
    · right
      refine ⟨{ b with providers.children := b.providers.children.insert k (.announced k.child k.service account) },
        rfl, rfl, shift_announced b k account, ?_, if_neg htaken⟩
      exact .single (.announced ⟨rfl, Bool.eq_false_iff.2 htaken⟩)
  | applyRouting rules =>
    right
    refine ⟨{ b with rules, providers := b.providers.abandonParents fun n => rules.any fun r => r.names n }.sweep,
      rfl, rfl, shift_rerouted b rules _, ?_, rfl⟩
    refine Moves.trans ?_ (moves_sweep _)
    exact .single (.unnamed fun n => rules.any fun r => r.names n)
  | _ => exact hop.elim

/-- Of two sessions that wait, the one with the smaller id is routed first. -/
theorem turns_retryWaiting (hi : c.Waits i s) (hj : c.Waits j u) (hc : c.Orderly) (hlt : i.num < j.num) :
    ∃ before between after, i ∉ before ∧ j ∉ before ++ i :: between ∧ i ∉ j :: after ∧
      c.retryWaiting = (before ++ i :: between ++ j :: after).foldl route c := by
  have hmem : ∀ {id s}, c.Waits id s → id ∈ (c.sessions.filter fun _ t => t.isWaiting).keys := fun hw =>
    Table.mem_keys.2 ⟨_, Table.find?_filter_of hw.found (hw.isWaiting hc)⟩
  obtain ⟨before, between, after, hkeys⟩ :=
    Table.keys_split (hmem hi) (hmem hj) (Ident.compare_eq_lt.2 hlt)
  -- each of them has one turn
  have hnodup := Table.nodup_keys (c.sessions.filter fun _ t => t.isWaiting)
  rw [hkeys] at hnodup
  obtain ⟨hturns, -, hapart⟩ := List.nodup_append.1 hnodup
  obtain ⟨-, -, hfirst⟩ := List.nodup_append.1 hturns
  refine ⟨before, between, after, ?_, ?_, ?_, ?_⟩
  · intro h
    exact hfirst i h i List.mem_cons_self rfl
  · intro h
    exact hapart j h j List.mem_cons_self rfl
  · intro h
    exact hapart i (by simp) i h rfl
  · rw [← hkeys]
    rfl

/-- A request that was posted when another session still waited is smaller than the one that is posted for that session
later, unless the counter of the requests wrapped in between. -/
theorem request_lt (hb : b.Orderly) (hcounted : b.providers.Counted) (hw : b.Waits j u)
    (hsince : b.providers.Proceeds k b'.providers)
    (hfew : ∀ v, b'.providers.children.find? k = some v → v.desk.requests.allocs ≤ 0x10000000000000000)
    {x y : ClientId} (hx : b.providers.request? k.provider x = some i)
    (hy : b'.providers.request? k.provider y = some j) : x.num < y.num := by
  rw [Registry.request?_child] at hy
  obtain ⟨w, hw', hlater⟩ := Option.bind_eq_some_iff.1 hy
  obtain ⟨v, hv, -, hcontinues⟩ := hsince w hw'
  have hbefore := hcounted k v hv (Nat.le_trans hcontinues.allocs_le (hfew w hw'))
  have hold := (hcontinues.counted (hfew w hw') hbefore).2
  -- the first request is one of those that were counted
  have hxv : v.desk.lookup? x = some i := by
    rw [Registry.request?_child, hv] at hx
    exact hx
  have hbelow : x.num.val < v.desk.requests.allocs := hbefore.below x i hxv
  -- the second one is not, as nothing was posted for the session that waited
  have habove : v.desk.requests.allocs ≤ y.num.val := by
    by_contra hlt
    have hposted : v.desk.lookup? y = some j := hold y j (Nat.lt_of_not_le hlt) hlater
    apply hb.request?_ne hw.found (fun _ h => by cases h) k.provider y
    rw [Registry.request?_child, hv]
    exact hposted
  exact Nat.lt_of_lt_of_le hbelow habove

/-- Sessions are routed one after the other.  A session whose turn is over has the smaller request than one that waited
for its turn until then. -/
theorem request_lt_routes (hc : c.Orderly) (hcounted : c.providers.Counted) (hw : c.Waits j u)
    {turns after : List ServerId} (hturns : j ∉ turns) (hover : i ∉ j :: after)
    (hfew : ∀ v, ((turns ++ j :: after).foldl route c).providers.children.find? k = some v →
      v.desk.requests.allocs ≤ 0x10000000000000000)
    {x y : ClientId} (hx : ((turns ++ j :: after).foldl route c).providers.request? k.provider x = some i)
    (hy : ((turns ++ j :: after).foldl route c).providers.request? k.provider y = some j) : x.num < y.num := by
  rw [List.foldl_append] at hfew hx hy
  have horderly := orderly_routes turns c hc
  have hwaits := hw.routes hc hturns
  have hchores : ∀ (ids : List ServerId) (b : Broker), b.Chores (ids.foldl route b) := Chores.foldl chores_route
  have huntil : Moves (fun _ _ => False) c (turns.foldl route c) := (hchores turns c).moves
  have hcounted' := huntil.invariant hcounted fun _ _ hone hr => hone.counted hr
  generalize turns.foldl route c = d at *
  have hsince : Moves (fun _ _ => False) d ((j :: after).foldl route d) := (hchores _ d).moves
  have hxd : d.providers.request? k.provider x = some i := request?_routes _ d horderly hover hx
  exact request_lt horderly hcounted' hwaits (hsince.proceeds fun _ h => h) hfew hxd hy

/-- Two sessions wait in a state that a history leads to, whatever services there are, and then a child announces a
service or other rules come into force.  If the session with the smaller id does not wait any longer, it was routed
before the other one, and if requests were posted for both at the same service, its request is the smaller one, unless
the counter of the requests wrapped. -/
theorem forwarded_by_id {env : Env} {config : RuntimeConfig} (h : Leads (fun _ _ => True) (start env config) b)
    (hop : op.Reroutes) (hi : b.Waits i s) (hj : b.Waits j u) (hlt : i.num < j.num)
    (hforwarded : ∀ v, ¬(b.step op).2.Waits i v) :
    b.Precedes (b.step op).2 i j s u ∧
      ∀ k x y, (b.step op).2.providers.request? k.provider x = some i →
        (b.step op).2.providers.request? k.provider y = some j →
        (∀ v, (b.step op).2.providers.children.find? k = some v →
          v.desk.requests.allocs ≤ 0x10000000000000000) →
        x.num < y.num := by
  rcases rerouted b hop with hsame | ⟨c, hsessions, henv, hshift, hmoves, hretry⟩
  · rw [hsame] at hforwarded
    exact absurd hi (hforwarded s)
  have hc : c.Orderly := hshift.orderly (h.orderly (orderly_start env config))
  have hcounted : c.providers.Counted :=
    hmoves.invariant (h.counted (counted_start env config)) fun _ _ hone hr => hone.counted hr
  have hic : c.Waits i s := ⟨(congrArg (·.find? i) hsessions).trans hi.found, hi.phase⟩
  have hjc : c.Waits j u := ⟨(congrArg (·.find? j) hsessions).trans hj.found, hj.phase⟩
  obtain ⟨before, between, after, hbefore, hturns, hover, hsplit⟩ := turns_retryWaiting hic hjc hc hlt
  rw [hsplit] at hretry
  refine ⟨⟨c, before, between, after, hsessions, henv, hic.routes hc hbefore, hjc.routes hc hturns, hretry⟩, ?_⟩
  intro k x y hx hy hfew
  rw [hretry] at hx hy hfew
  exact request_lt_routes hc hcounted hjc hturns hover hfew hx hy

/-- The parent requests two sessions before the child announced its service, the second one under the smaller id. -/
def waitingTwice : Broker := (start sampleEnv sampleConfig).run
  [.create ⟨1⟩ "log" "ram_quota=5" {}, .create ⟨0⟩ "log" "ram_quota=5" {}]

theorem leads_waitingTwice : Leads (fun _ _ => True) (start sampleEnv sampleConfig) waitingTwice := by
  refine leads_run _ .refl fun op hop => ⟨?_, fun _ => trivial⟩
  simp only [List.mem_cons, List.not_mem_nil, or_false] at hop
  rcases hop with rfl | rfl <;> trivial

/-- The child announces its service, to which both sessions are forwarded. -/
def forwardedTwice : Broker := waitingTwice.announce ⟨"fs", "log"⟩ 1

theorem forwarded_by_id_waitingTwice : ∃ s u, waitingTwice.Waits ⟨0⟩ s ∧ waitingTwice.Waits ⟨1⟩ u ∧
    waitingTwice.Precedes forwardedTwice ⟨0⟩ ⟨1⟩ s u ∧
    forwardedTwice.providers.request? (.child "fs" "log") ⟨0⟩ = some ⟨0⟩ ∧
    forwardedTwice.providers.request? (.child "fs" "log") ⟨1⟩ = some ⟨1⟩ ∧ (0 : Word) < 1 := by
  obtain ⟨s, hs⟩ : ∃ s, waitingTwice.Waits ⟨0⟩ s := ⟨_, rfl, by decide +kernel⟩
  obtain ⟨u, hu⟩ : ∃ u, waitingTwice.Waits ⟨1⟩ u := ⟨_, rfl, by decide +kernel⟩
  have hfirst : forwardedTwice.providers.request? (.child "fs" "log") ⟨0⟩ = some ⟨0⟩ := by decide +kernel
  have hsecond : forwardedTwice.providers.request? (.child "fs" "log") ⟨1⟩ = some ⟨1⟩ := by decide +kernel
  have hforwarded : ∀ v, ¬forwardedTwice.Waits ⟨0⟩ v := by
    have hprovided : (forwardedTwice.sessions.find? ⟨0⟩).all (fun t => t.provider.isSome) = true := by decide +kernel
    intro v hv
    rw [hv.found] at hprovided
    cases hprovided
  have hfew : ∀ v, forwardedTwice.providers.children.find? ⟨"fs", "log"⟩ = some v →
      v.desk.requests.allocs ≤ 0x10000000000000000 := by
    have hcount : (forwardedTwice.providers.children.find? ⟨"fs", "log"⟩).all
        (fun v => v.desk.requests.allocs ≤ 0x10000000000000000) = true := by decide +kernel
    intro v hv
    rw [hv] at hcount
    exact of_decide_eq_true hcount
  have hop : Op.Reroutes (.announce ⟨"fs", "log"⟩ 1) := trivial
  obtain ⟨hprecedes, hrequests⟩ := forwarded_by_id leads_waitingTwice hop hs hu (by decide) hforwarded
  exact ⟨s, u, hs, hu, hprecedes, hfirst, hsecond, hrequests ⟨"fs", "log"⟩ ⟨0⟩ ⟨1⟩ hfirst hsecond hfew⟩

/-- Session `i` was requested before session `j`: it waited when session `j` was not there, and it was not requested
anew since then. -/
def ArrivedBefore (start b : Broker) (i j : ServerId) : Prop :=
  ∃ e s, Leads (fun _ _ => True) start e ∧ e.Waits i s ∧ e.isLive j = false ∧ Leads (fun c op => ¬op.Opens c i) e b

/-- Of two sessions that waited and were forwarded at once, the one that was requested first can have the larger
request. -/
theorem forwarded_late : ¬∀ b op i j s u k x y, Leads (fun _ _ => True) (start sampleEnv sampleConfig) b →
    Op.Reroutes op → b.Waits i s → b.Waits j u → ArrivedBefore (start sampleEnv sampleConfig) b i j →
    (b.step op).2.providers.request? (ChildKey.provider k) x = some i →
    (b.step op).2.providers.request? k.provider y = some j → x.num < y.num := by
  intro h
  obtain ⟨s, hs⟩ : ∃ s, waitingTwice.Waits ⟨1⟩ s := ⟨_, rfl, by decide +kernel⟩
  obtain ⟨u, hu⟩ : ∃ u, waitingTwice.Waits ⟨0⟩ u := ⟨_, rfl, by decide +kernel⟩
  have hfirst : forwardedTwice.providers.request? (.child "fs" "log") ⟨1⟩ = some ⟨1⟩ := by decide +kernel
  have hsecond : forwardedTwice.providers.request? (.child "fs" "log") ⟨0⟩ = some ⟨0⟩ := by decide +kernel
  have harrived : ArrivedBefore (start sampleEnv sampleConfig) waitingTwice ⟨1⟩ ⟨0⟩ := by
    refine ⟨(start sampleEnv sampleConfig).run [.create ⟨1⟩ "log" "ram_quota=5" {}], _,
      .op (.create ⟨1⟩ "log" "ram_quota=5" {}) .refl trivial trivial, ⟨rfl, by decide +kernel⟩, by decide +kernel, ?_⟩
    refine .op (.create ⟨0⟩ "log" "ram_quota=5" {}) .refl trivial ?_
    rintro ⟨hid, -⟩
    exact absurd hid (by decide)
  have hlt := h waitingTwice (.announce ⟨"fs", "log"⟩ 1) ⟨1⟩ ⟨0⟩ s u ⟨"fs", "log"⟩ ⟨1⟩ ⟨0⟩ leads_waitingTwice
    trivial hs hu harrived hfirst hsecond
  exact absurd hlt (by decide)

end Broker

end SessionBroker
