import SessionBroker.Proofs.Nesting
import SessionBroker.Proofs.Overlays

/-!
# SessionBroker.Proofs.Routable — rules that can route a request

A rule selects requests by the name of the service and by the label.  Each matcher selects the request that is made of
its own name or pattern, but for one: no innermost element has a separator in it, so a rule for such an innermost
element selects nothing, and no check refuses it.

* `LabelMatcher.exists_selects_iff`: the matchers that select some label.
* `Rule.checked_routes`: a rule that passes its check routes some proper request exactly if its label matcher is one of
  these; otherwise it is never used, wherever it stands.
-/

namespace SessionBroker

/-! ### Matchers -/

namespace ServiceMatcher

/-- A service name that is selected. -/
def sample : ServiceMatcher → String
  | .any => "*"
  | .name s => s

theorem selects_sample (m : ServiceMatcher) : m.selects m.sample = true := by
  cases m <;> simp [selects, sample]

theorem sample_ne_empty {m : ServiceMatcher} (h : m ≠ .name "") : m.sample ≠ "" := by
  cases m with
  | any => decide
  | name s =>
    intro hs
    exact h (congrArg ServiceMatcher.name hs)

end ServiceMatcher

namespace LabelMatcher

/-- The pattern can be what it is compared with: an innermost element has no separator in it. -/
def Attainable : LabelMatcher → Prop
  | .last p => ¬(Label.mk p).IsNested
  | .any | .exact _ | .begins _ | .ends _ => True

instance : (m : LabelMatcher) → Decidable m.Attainable
  | .last p => inferInstanceAs (Decidable ¬(Label.mk p).IsNested)
  | .any | .exact _ | .begins _ | .ends _ => inferInstanceAs (Decidable True)

/-- The label that is the pattern itself. -/
def sample (m : LabelMatcher) : Label := ⟨m.pattern?.getD ""⟩

theorem selects_sample {m : LabelMatcher} (h : m.Attainable) : m.selects m.sample = true := by
  cases m with
  | any => rfl
  | exact p => exact beq_self_eq_true p
  | begins p => exact List.isPrefixOf_iff_prefix.2 (List.prefix_refl _)
  | ends p => exact List.isSuffixOf_iff_suffix.2 (List.suffix_refl _)
  | last p => exact beq_iff_eq.2 (Label.last_of_not_isNested h)

theorem attainable_of_selects {m : LabelMatcher} {l : Label} (h : m.selects l = true) : m.Attainable := by
  cases m with
  | any | exact p | begins p | ends p => trivial
  | last p =>
    obtain rfl : l.last = p := beq_iff_eq.1 h
    exact Label.not_isNested_last l

theorem exists_selects_iff {m : LabelMatcher} : (∃ l, m.selects l = true) ↔ m.Attainable :=
  ⟨fun ⟨_, h⟩ => attainable_of_selects h, fun h => ⟨m.sample, selects_sample h⟩⟩

end LabelMatcher

/-! ### Rules -/

/-- The name under which a service is forwarded is not empty, unless it is so in the request or in the target. -/
theorem Target.forwarded_ne_empty {t : Target} {service : String} (ht : t.name? ≠ some "") (hs : service ≠ "") :
    t.forwarded service ≠ "" := by
  cases t with
  | here n | child n => exact hs
  | parent rename =>
    cases rename with
    | none => exact hs
    | some n =>
      intro hn
      exact ht (congrArg some hn)

namespace Rule

variable {r : Rule} {service : String} {l : Label}

theorem check_eq_ok_iff :
    r.check = .ok () ↔ r.service ≠ .name "" ∧ r.hasEmptyPattern = false ∧ r.target.name? ≠ some "" := by
  unfold check
  by_cases hs : r.service = .name "" <;> by_cases hp : r.hasEmptyPattern = true <;>
    by_cases ht : r.target.name? = some "" <;> simp [hs, hp, ht]

/-- A router with one rule uses it for what it selects. -/
theorem resolve_singleton (h : r.selects service l = true) : resolve [r] service l = .ok (r.route 0 service l) := by
  simp [resolve, resolveFrom, h]

/-- A rule that passes its check routes a request with a name, and under a name, if its label pattern can be attained.
If it cannot, then the rule selects nothing, and in no list of rules is it ever used. -/
theorem checked_routes (h : r.check = .ok ()) :
    (r.label.Attainable → ∃ service l, service ≠ "" ∧ r.selects service l = true ∧
      resolve [r] service l = .ok (r.route 0 service l) ∧ (r.route 0 service l).service ≠ "") ∧
    (¬r.label.Attainable → (∀ service l, r.selects service l = false) ∧
      ∀ (rules : List Rule) i service l route, rules[i]? = some r → resolve rules service l = .ok route →
        route.rule ≠ i) := by
  obtain ⟨hservice, -, htarget⟩ := check_eq_ok_iff.1 h
  constructor
  · intro hlabel
    obtain ⟨l, hl⟩ := LabelMatcher.exists_selects_iff.2 hlabel
    have hname := ServiceMatcher.sample_ne_empty hservice
    have hselects : r.selects r.service.sample l = true := by
      rw [selects, r.service.selects_sample, hl]
      rfl
    exact ⟨_, l, hname, hselects, resolve_singleton hselects, Target.forwarded_ne_empty htarget hname⟩
  · intro hlabel
    have hnone : ∀ service l, r.selects service l = false := by
      intro service l
      have hl : r.label.selects l = false :=
        Bool.eq_false_iff.2 fun hne => hlabel (LabelMatcher.exists_selects_iff.1 ⟨l, hne⟩)
      rw [selects, hl, Bool.and_false]
    refine ⟨hnone, fun rules i service l route hr hroute hi => ?_⟩
    obtain ⟨j, q, hq, ⟨hsel, rfl⟩, -⟩ := resolve_eq_ok_iff.1 hroute
    obtain rfl : j = i := hi
    obtain rfl := Option.some.inj (hr.symm.trans hq)
    rw [hnone] at hsel
    cases hsel

/-- A rule for an innermost element that ends like a separator. -/
def openEnded : Rule := { service := .name "Log", label := .last "app ->", target := .parent (some "Uart") }

theorem checked_routes_openEnded : openEnded.check = .ok () ∧ openEnded.label.Attainable ∧
    ∃ service l, service ≠ "" ∧ openEnded.selects service l = true ∧
      resolve [openEnded] service l = .ok (openEnded.route 0 service l) ∧
        (openEnded.route 0 service l).service ≠ "" := by
  have hcheck : openEnded.check = .ok () := rfl
  have hlabel : openEnded.label.Attainable := by decide +kernel
  exact ⟨hcheck, hlabel, (checked_routes hcheck).1 hlabel⟩

/-- A rule that takes two elements for the innermost one. -/
def twoElements : Rule := { service := .name "Log", label := .last "init -> app", target := .here "log" }

/-- Not every rule that passes its check can route something. -/
theorem checked_idle : ¬∀ r : Rule, r.check = .ok () →
    ∃ service l, r.selects service l = true ∧ resolve [r] service l = .ok (r.route 0 service l) := by
  intro h
  obtain ⟨service, l, hselects, -⟩ := h twoElements rfl
  have hlabel : twoElements.label.selects l = true := (Bool.and_eq_true_iff.1 hselects).2
  exact absurd (LabelMatcher.attainable_of_selects hlabel) (by decide +kernel)

end Rule

end SessionBroker
