import SessionBroker.Service.Basic

/-!
# SessionBroker.Broker.Provider — names of providers

* `Provider`: the provider of a session, by name.
* `ChildKey`: the name of a service of a child, ordered by the child and then by the service.
-/

namespace SessionBroker

inductive Provider where
  /-- A service of this component that answers at once. -/
  | here (name : String)
  /-- A service of this component that answers later. -/
  | later (name : String)
  /-- A service requested from the parent under the given name. -/
  | parent (name : String)
  /-- A service of a child. -/
  | child (child service : String)
  deriving DecidableEq

namespace Provider

/-- Whether sessions of the provider complete later. -/
def isAsync : Provider → Bool
  | .later _ | .child _ _ => true
  | .here _ | .parent _ => false

def text : Provider → String
  | .here n => s!"local:{n}"
  | .later n => s!"async_local:{n}"
  | .parent n => s!"parent:{n}"
  | .child c s => s!"child:{c}/{s}"

end Provider

/-- The name of a service of a child. -/
@[ext]
structure ChildKey where
  child : String
  service : String
  deriving DecidableEq

namespace ChildKey

instance : Ord ChildKey := ⟨compareLex (compareOn child) (compareOn service)⟩

theorem compare_def (a b : ChildKey) :
    compare a b = (compare a.child b.child).then (compare a.service b.service) := rfl

instance : Std.TransOrd ChildKey :=
  inferInstanceAs (Std.TransCmp (compareLex (compareOn child) (compareOn service)))

instance : Std.LawfulEqOrd ChildKey where
  compare_self := by simp
  eq_of_compare := by
    intro a b h
    rw [compare_def, Ordering.then_eq_eq] at h
    exact ChildKey.ext (Std.LawfulEqCmp.eq_of_compare h.1) (Std.LawfulEqCmp.eq_of_compare h.2)

def provider (k : ChildKey) : Provider := .child k.child k.service

end ChildKey

end SessionBroker
