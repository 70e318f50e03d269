import SessionBroker.Word

/-!
# SessionBroker.Quota — the two resources a session is paid with

* `Resource`: RAM, counted in bytes, and capability slots, counted one by one.
* `Quota`: an amount of each.  Sums stop at the largest word.
-/

namespace SessionBroker

/-- The resources a session is paid with. -/
inductive Resource where
  | ram
  | caps
  deriving DecidableEq, Repr

/-- An amount of RAM and an amount of capability slots. -/
@[ext]
structure Quota where
  ram : Word := 0
  caps : Word := 0
  deriving DecidableEq

namespace Quota

instance : Zero Quota := ⟨{}⟩

instance : Inhabited Quota := ⟨0⟩

def get (q : Quota) : Resource → Word
  | .ram => q.ram
  | .caps => q.caps

def set (q : Quota) (w : Word) : Resource → Quota
  | .ram => { q with ram := w }
  | .caps => { q with caps := w }

/-- The sum, each resource on its own. -/
def add (a b : Quota) : Quota := ⟨a.ram.satAdd b.ram, a.caps.satAdd b.caps⟩

instance : Add Quota := ⟨add⟩

/-- The difference, each resource on its own and not below zero. -/
def sub (a b : Quota) : Quota := ⟨a.ram.sub b.ram, a.caps.sub b.caps⟩

instance : Sub Quota := ⟨sub⟩

/-- Whether there is enough of both resources to pay `b`. -/
def covers (a b : Quota) : Bool := b.ram ≤ a.ram && b.caps ≤ a.caps

/-- Whether neither resource is there. -/
def isZero (q : Quota) : Bool := q == 0

/-- The text of a quota, in the form of a session argument string. -/
def text (q : Quota) : String := s!"ram_quota={q.ram}, cap_quota={q.caps}"

@[simp] theorem ram_zero : (0 : Quota).ram = 0 := rfl

@[simp] theorem caps_zero : (0 : Quota).caps = 0 := rfl

@[simp] theorem val_get_zero (r : Resource) : ((0 : Quota).get r).val = 0 := by cases r <;> rfl

theorem val_get_add (q d : Quota) (r : Resource) :
    ((q + d).get r).val = min ((q.get r).val + (d.get r).val) 0xFFFFFFFFFFFFFFFF := by
  cases r <;> rfl

@[simp] theorem get_set_self (q : Quota) (w : Word) (r : Resource) : (q.set w r).get r = w := by cases r <;> rfl

theorem get_set_of_ne (q : Quota) (w : Word) {r s : Resource} (h : r ≠ s) : (q.set w r).get s = q.get s := by
  cases r <;> cases s <;> first | rfl | exact absurd rfl h

end Quota

end SessionBroker
