import SessionBroker.Config.Basic

/-!
# SessionBroker.Proofs.Overlays — rules of one configuration in front of those of another

Merging puts the rules of the other configuration in front.  A request is routed by the first rule that selects it, and
a check stops at the first rule with a fault; so the rules in front answer first, and what is left for the rules behind
them is counted from the number of the rules in front.

* `findSome?_zipIdx_append`, `findSome?_zipIdx_eq_some_iff`: the first entry of a list that gives a result, with its
  place.  Routing (`resolve_eq_ok_iff`) and checking (`checkRules_eq_error_iff`) are both such searches.
* `RoutingConfig.Overlays front base merged`: what merging promises of routes, of denials and of reported faults.
* `merge_overlays`: both kinds of configurations keep that promise, and merging is associative.
-/

namespace SessionBroker

/-! ### The first entry that gives a result -/

section Search

variable {α β : Type} {f : α × Nat → Option β} {g : β → β} {xs : List α} {b : β}

/-- A search goes on in what stands behind.  There the places are higher by what stands in front. -/
theorem findSome?_zipIdx_append (xs ys : List α) (hf : ∀ a i, f (a, xs.length + i) = (f (a, i)).map g) :
    (xs ++ ys).zipIdx.findSome? f = (xs.zipIdx.findSome? f).or ((ys.zipIdx.findSome? f).map g) := by
  have hbehind : (ys.zipIdx xs.length).findSome? f = (ys.zipIdx.findSome? f).map g := by
    rw [List.zipIdx_eq_map_add, List.findSome?_map, List.map_findSome?]
    congr 1
    funext x
    exact hf x.1 x.2
  rw [List.zipIdx_append, List.findSome?_append, Nat.zero_add, hbehind]

theorem getElem?_zipIdx_eq_some_iff {i k : Nat} {a : α} : xs.zipIdx[i]? = some (a, k) ↔ xs[i]? = some a ∧ i = k := by
  grind

theorem findSome?_zipIdx_eq_some_iff : xs.zipIdx.findSome? f = some b ↔
    ∃ i a, xs[i]? = some a ∧ f (a, i) = some b ∧ ∀ j < i, ∀ x, xs[j]? = some x → f (x, j) = none := by
  rw [List.findSome?_eq_some_iff]
  constructor
  · rintro ⟨front, ⟨a, i⟩, behind, hsplit, hres, hnone⟩
    have hfound : xs.zipIdx[front.length]? = some (a, i) := by simp [hsplit]
    obtain ⟨ha, rfl⟩ := getElem?_zipIdx_eq_some_iff.1 hfound
    refine ⟨_, a, ha, hres, fun j hj x hx => ?_⟩
    have hfront : front[j]? = some (x, j) := by
      rw [← getElem?_zipIdx_eq_some_iff.2 ⟨hx, rfl⟩, hsplit, List.getElem?_append_left hj]
    exact hnone (x, j) (List.mem_of_getElem? hfront)
  · rintro ⟨i, a, ha, hres, hfresh⟩
    obtain ⟨hi, hat⟩ := List.getElem?_eq_some_iff.1 (getElem?_zipIdx_eq_some_iff.2 ⟨ha, rfl⟩)
    refine ⟨xs.zipIdx.take i, (a, i), xs.zipIdx.drop (i + 1), ?_, hres, ?_⟩
    · rw [← hat, List.getElem_cons_drop, List.take_append_drop]
    · rintro ⟨x, k⟩ hmem
      obtain ⟨j, hj, hxk⟩ := List.mem_take_iff_getElem.1 hmem
      obtain ⟨hx, rfl⟩ := getElem?_zipIdx_eq_some_iff.1 (List.getElem?_eq_some_iff.2 ⟨_, hxk⟩)
      exact hfresh j (by omega) x hx

end Search

variable {service : String} {l : Label} {rules : List Rule} {i : Nat} {e : RoutingError} {route : Route}

/-! ### Routes -/

/-- The route by the rule at a place, if the rule selects the request. -/
def Rule.routeAt? (service : String) (l : Label) (x : Rule × Nat) : Option Route :=
  if x.1.selects service l then some (x.1.route x.2 service l) else none

/-- The route, where `n` further rules stand in front. -/
def Route.behind (n : Nat) (route : Route) : Route := { route with rule := n + route.rule }

theorem Rule.routeAt?_behind (r : Rule) (n i : Nat) :
    routeAt? service l (r, n + i) = (routeAt? service l (r, i)).map (Route.behind n) := by
  unfold routeAt?
  split <;> rfl

theorem Rule.routeAt?_eq_some_iff (r : Rule) (i : Nat) : routeAt? service l (r, i) = some route ↔
    r.selects service l = true ∧ route = r.route i service l := by
  unfold routeAt?
  cases r.selects service l <;> simp [eq_comm]

theorem Rule.routeAt?_eq_none_iff (r : Rule) (i : Nat) :
    routeAt? service l (r, i) = none ↔ r.selects service l = false := by
  unfold routeAt?
  cases r.selects service l <;> simp

theorem resolveFrom_eq (i : Nat) (rules : List Rule) :
    resolveFrom service l i rules = (rules.zipIdx i).findSome? (Rule.routeAt? service l) := by
  induction rules generalizing i with
  | nil => rfl
  | cons r rules ih =>
    rw [List.zipIdx_cons, List.findSome?_cons, resolveFrom, Rule.routeAt?]
    by_cases hr : r.selects service l = true
    · rw [if_pos hr, if_pos hr]
    · rw [if_neg hr, if_neg hr, ih]

/-- A request is routed by the first rule that selects it. -/
theorem resolve_eq_ok_iff : resolve rules service l = .ok route ↔
    ∃ (i : Nat) (r : Rule), rules[i]? = some r ∧ (r.selects service l = true ∧ route = r.route i service l) ∧
      ∀ j < i, ∀ q : Rule, rules[j]? = some q → q.selects service l = false := by
  have hsearch : resolve rules service l = .ok route ↔
      rules.zipIdx.findSome? (Rule.routeAt? service l) = some route := by
    rw [← resolveFrom_eq]
    unfold resolve
    cases resolveFrom service l 0 rules <;> simp
  rw [hsearch, findSome?_zipIdx_eq_some_iff]
  simp only [Rule.routeAt?_eq_some_iff, Rule.routeAt?_eq_none_iff]

/-- The rules in front route a request if they can, and otherwise the rules behind them do. -/
theorem resolve_append (front base : List Rule) (service : String) (l : Label) :
    resolve (front ++ base) service l =
      match resolve front service l with
      | .ok route => .ok route
      | .error _ => (resolve base service l).map (Route.behind front.length) := by
  have happ := findSome?_zipIdx_append (f := Rule.routeAt? service l) front base
    fun r i => r.routeAt?_behind front.length i
  rw [← resolveFrom_eq, ← resolveFrom_eq, ← resolveFrom_eq] at happ
  unfold resolve
  rw [happ]
  cases resolveFrom service l 0 front with
  | some route => rfl
  | none => cases resolveFrom service l 0 base <;> rfl

/-! ### Checks -/

/-- The fault of the rule at a place, if it has one. -/
def Rule.faultAt? (x : Rule × Nat) : Option (Nat × RoutingError) :=
  match x.1.check with
  | .ok () => none
  | .error e => some (x.2, e)

/-- The rule at place `i` has the fault `e`, and no rule in front of it has any. -/
def FirstFault (rules : List Rule) (i : Nat) (e : RoutingError) : Prop :=
  ∃ r, rules[i]? = some r ∧ r.check = .error e ∧ ∀ j < i, ∀ q, rules[j]? = some q → q.check = .ok ()

theorem Rule.faultAt?_eq_some_iff (r : Rule) (n : Nat) :
    faultAt? (r, n) = some (i, e) ↔ i = n ∧ r.check = .error e := by
  unfold faultAt?
  cases r.check <;> simp [eq_comm]

theorem Rule.faultAt?_eq_none_iff (r : Rule) (n : Nat) : faultAt? (r, n) = none ↔ r.check = .ok () := by
  unfold faultAt?
  cases r.check <;> simp

theorem Rule.faultAt?_behind (r : Rule) (n i : Nat) :
    faultAt? (r, n + i) = (faultAt? (r, i)).map fun x => (n + x.1, x.2) := by
  unfold faultAt?
  cases r.check <;> rfl

theorem checkRulesFrom_eq (i : Nat) (rules : List Rule) : checkRulesFrom i rules =
    match (rules.zipIdx i).findSome? Rule.faultAt? with
    | none => .ok ()
    | some x => .error x := by
  induction rules generalizing i with
  | nil => rfl
  | cons r rules ih =>
    rw [List.zipIdx_cons, List.findSome?_cons, checkRulesFrom, Rule.faultAt?]
    cases r.check with
    | ok => exact ih (i + 1)
    | error e => rfl

theorem checkRules_eq_error_iff : checkRules rules = .error (i, e) ↔ FirstFault rules i e := by
  have hsearch : checkRules rules = .error (i, e) ↔ rules.zipIdx.findSome? Rule.faultAt? = some (i, e) := by
    rw [checkRules, checkRulesFrom_eq]
    cases rules.zipIdx.findSome? Rule.faultAt? <;> simp
  rw [hsearch, findSome?_zipIdx_eq_some_iff]
  simp only [Rule.faultAt?_eq_some_iff, Rule.faultAt?_eq_none_iff]
  constructor
  · rintro ⟨_, r, hr, ⟨rfl, he⟩, hfresh⟩
    exact ⟨r, hr, he, hfresh⟩
  · rintro ⟨r, hr, he, hfresh⟩
    exact ⟨i, r, hr, ⟨rfl, he⟩, hfresh⟩

/-- The rules in front are checked first, and those behind them if there is no fault. -/
theorem checkRules_append (front base : List Rule) : checkRules (front ++ base) =
    match checkRules front, checkRules base with
    | .error x, _ => .error x
    | .ok (), .error x => .error (front.length + x.1, x.2)
    | .ok (), .ok () => .ok () := by
  have happ := findSome?_zipIdx_append (f := Rule.faultAt?) front base fun r i => r.faultAt?_behind front.length i
  rw [checkRules, checkRules, checkRules, checkRulesFrom_eq, checkRulesFrom_eq, checkRulesFrom_eq, happ]
  cases front.zipIdx.findSome? Rule.faultAt? with
  | some x => rfl
  | none => cases base.zipIdx.findSome? Rule.faultAt? <;> rfl

theorem firstFault_append {front base : List Rule} : FirstFault (front ++ base) i e ↔
    FirstFault front i e ∨ checkRules front = .ok () ∧ ∃ k, FirstFault base k e ∧ i = front.length + k := by
  simp only [← checkRules_eq_error_iff]
  rw [checkRules_append]
  cases checkRules front with
  | error x => simp
  | ok =>
    cases checkRules base with
    | ok => simp
    | error x => grind

/-! ### Merged configurations -/

/-- What is reported of a fault. -/
def faultReport (i : Nat) (e : RoutingError) : ConfigError := .invalid s!"route {i}: {e.message}"

namespace RoutingConfig

theorem check_eq_ok_iff {c : RoutingConfig} : c.check = .ok () ↔ checkRules c.rules = .ok () := by
  unfold check
  cases checkRules c.rules <;> simp

/-- A check reports the first fault. -/
theorem check_eq_error_iff {c : RoutingConfig} {x : ConfigError} :
    c.check = .error x ↔ ∃ i e, FirstFault c.rules i e ∧ x = faultReport i e := by
  simp only [← checkRules_eq_error_iff]
  unfold check
  cases checkRules c.rules with
  | ok => simp
  | error f => grind [faultReport]

/-- The configuration `merged` is `front` in front of `base`, as routes, denials and checks show it. -/
structure Overlays (front base merged : RoutingConfig) : Prop where
  /-- What `front` routes goes where `front` sends it. -/
  routed : ∀ service l route, resolve front.rules service l = .ok route → resolve merged.rules service l = .ok route
  /-- All else goes where `base` sends it, by a rule that stands behind those of `front`. -/
  fallback : ∀ service l e, resolve front.rules service l = .error e →
    resolve merged.rules service l = (resolve base.rules service l).map (Route.behind front.rules.length)
  denied : ∀ service l, (∃ e, resolve merged.rules service l = .error e) ↔
    (∃ e, resolve front.rules service l = .error e) ∧ ∃ e, resolve base.rules service l = .error e
  valid : merged.check = .ok () ↔ front.check = .ok () ∧ base.check = .ok ()
  /-- The first fault of `front` is reported, or else that of `base` at its place behind the rules of `front`. -/
  fault : ∀ x, merged.check = .error x ↔
    (∃ i e, FirstFault front.rules i e ∧ x = faultReport i e) ∨
      front.check = .ok () ∧ ∃ i e, FirstFault base.rules i e ∧ x = faultReport (front.rules.length + i) e

theorem overlays_merge (c other : RoutingConfig) : other.Overlays c (c.merge other) where
  routed service l route h := by
    show resolve (other.rules ++ c.rules) service l = _
    rw [resolve_append, h]
  fallback service l e h := by
    show resolve (other.rules ++ c.rules) service l = _
    rw [resolve_append, h]
  denied service l := by
    show (∃ e, resolve (other.rules ++ c.rules) service l = .error e) ↔ _
    rw [resolve_append]
    cases resolve other.rules service l with
    | ok route => simp
    | error e => cases resolve c.rules service l <;> simp [Except.map]
  valid := by
    rw [check_eq_ok_iff, check_eq_ok_iff, check_eq_ok_iff]
    show checkRules (other.rules ++ c.rules) = _ ↔ _
    rw [checkRules_append]
    cases checkRules other.rules with
    | ok => cases checkRules c.rules <;> simp
    | error x => simp
  fault x := by
    rw [check_eq_error_iff, check_eq_ok_iff]
    show (∃ i e, FirstFault (other.rules ++ c.rules) i e ∧ _) ↔ _
    simp only [firstFault_append]
    constructor
    · rintro ⟨i, e, hfront | ⟨hok, k, hbase, rfl⟩, rfl⟩
      · exact .inl ⟨i, e, hfront, rfl⟩
      · exact .inr ⟨hok, k, e, hbase, rfl⟩
    · rintro (⟨i, e, hfront, rfl⟩ | ⟨hok, k, e, hbase, rfl⟩)
      · exact ⟨i, e, .inl hfront, rfl⟩
      · exact ⟨_, e, .inr ⟨hok, k, hbase, rfl⟩, rfl⟩

theorem merge_assoc (a b c : RoutingConfig) : (a.merge b).merge c = a.merge (b.merge c) := by
  simp [merge]

end RoutingConfig

namespace RuntimeConfig

theorem routing_merge (c other : RuntimeConfig) : (c.merge other).routing = c.routing.merge other.routing := rfl

theorem merge_assoc (a b c : RuntimeConfig) : (a.merge b).merge c = a.merge (b.merge c) := by
  have hlast : ∀ x y z : Word, (if z = 0 then if y = 0 then x else y else z) =
      if (if z = 0 then y else z) = 0 then x else if z = 0 then y else z := by
    intro x y z
    by_cases hz : z = 0 <;> simp [hz]
  have hrules : c.rules ++ (b.rules ++ a.rules) = c.rules ++ b.rules ++ a.rules := (List.append_assoc _ _ _).symm
  unfold merge
  simp only [routing, RoutingConfig.merge, hlast, hrules]

end RuntimeConfig

/-- **The rules of the other configuration go first.**  A request is routed as the other configuration routes it, and
otherwise as the own one does, by a rule counted from the number of the rules in front; it is denied only if both deny
it.  A merged configuration is valid if both are, and otherwise the first fault of the other one is reported, or else
the own first fault at its place behind the others.  Configurations of the runtime merge their rules in the same way,
and merging several of either kind does not depend on which are merged first. -/
theorem merge_overlays (a b c : RoutingConfig) (x y z : RuntimeConfig) :
    (b.Overlays a (a.merge b) ∧ (a.merge b).merge c = a.merge (b.merge c)) ∧
      (x.merge y).routing = x.routing.merge y.routing ∧ y.routing.Overlays x.routing (x.merge y).routing ∧
        (x.merge y).merge z = x.merge (y.merge z) :=
  ⟨⟨RoutingConfig.overlays_merge a b, RoutingConfig.merge_assoc a b c⟩, RuntimeConfig.routing_merge x y,
    RoutingConfig.overlays_merge x.routing y.routing, RuntimeConfig.merge_assoc x y z⟩

end SessionBroker
