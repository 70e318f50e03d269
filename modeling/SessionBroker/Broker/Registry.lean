import SessionBroker.Broker.Provider
import SessionBroker.Routing.Rule

/-!
# SessionBroker.Broker.Registry — the providers a broker knows

* `Registry.find`: the provider of a new session.  A parent service is made on first use; a child service that is not
  there may still be announced.
* `Registry.initiate?`: gives a session to its provider.
* `Registry.sweep`: removes withdrawn services that no session needs.
-/

namespace SessionBroker

structure Registry where
  /-- Services of this component that answer at once. -/
  locals : Table String Service := ∅
  /-- Services of this component that answer later. -/
  desks : Table String Desk := ∅
  /-- Services requested from the parent. -/
  parents : Table String ParentService := ∅
  /-- Services of children. -/
  children : Table ChildKey ChildService := ∅

/-- The provider of a new session. -/
inductive Lookup where
  | found (p : Provider)
  /-- The provider may still appear. -/
  | absent
  /-- There is no such provider, or it was withdrawn. -/
  | missing
  deriving DecidableEq

namespace Registry

instance : Inhabited Registry := ⟨{}⟩

def contains (r : Registry) : Provider → Bool
  | .here n => r.locals.contains n
  | .later n => r.desks.contains n
  | .parent n => r.parents.contains n
  | .child c s => r.children.contains ⟨c, s⟩

/-- The account that session quota for a provider is paid into. -/
def account (r : Registry) : Provider → AccountRef
  | .here n => r.locals.find? n >>= Service.account
  | .later _ | .parent _ => none
  | .child c s => (r.children.find? ⟨c, s⟩).map (·.account)

/-- Whether the service of a provider completes sessions later. -/
def isAsync (r : Registry) : Provider → Bool
  | .here n => ((r.locals.find? n).map Service.isAsync).getD false
  | .later _ | .child _ _ => true
  | .parent _ => false

/-- Tell a provider that requests are waiting. -/
def wake (r : Registry) (env : Env) : Provider → Env
  | .here n => ((r.locals.find? n).map fun v => v.wake env).getD env
  | .later n => ((r.desks.find? n).map fun d => d.wake env).getD env
  | .parent _ => env
  | .child c s => ((r.children.find? ⟨c, s⟩).map fun v => v.desk.wake env).getD env

/-- Give a session to its provider. -/
def initiate? (r : Registry) (s : Session) (env : Env) : Provider → Option (Outcome Registry)
  | .here n =>
    (r.locals.find? n).map fun v => (v.initiate s env).map fun v => { r with locals := r.locals.insert n v }
  | .later n =>
    (r.desks.find? n).map fun d => (d.initiate s env).map fun d => { r with desks := r.desks.insert n d }
  | .parent n =>
    (r.parents.find? n).map fun v => (v.initiate s env).map fun v => { r with parents := r.parents.insert n v }
  | .child c n =>
    (r.children.find? ⟨c, n⟩).map fun v =>
      (v.initiate s env).map fun v => { r with children := r.children.insert ⟨c, n⟩ v }

def release (r : Registry) (id : ClientId) : Provider → Registry
  | .later n => { r with desks := r.desks.modify n fun d => d.release id }
  | .child c n => { r with children := r.children.modify ⟨c, n⟩ fun v => { v with desk := v.desk.release id } }
  | .here _ | .parent _ => r

/-- The local provider of a name.  A service that answers at once goes before one that answers later. -/
def findLocal (r : Registry) (name : String) : Lookup :=
  if (r.locals.find? name).any fun v => !v.abandoned then .found (.here name)
  else if r.desks.contains name then .found (.later name)
  else .missing

/-- The parent service of a name, made if there is none. -/
def findParent (r : Registry) (limit : Word) (name : String) : Lookup × Registry :=
  match r.parents.find? name with
  | some v => (if v.abandoned then .missing else .found (.parent name), r)
  | none =>
    (.found (.parent name), { r with parents := r.parents.insert name { name, tries := .upTo limit.val } })

def findChild (r : Registry) (k : ChildKey) : Lookup :=
  if (r.children.find? k).any fun v => !v.abandoned then .found k.provider else .absent

/-- The provider of a new session for `service` under the target of its rule. -/
def find (r : Registry) (limit : Word) (service : String) : Target → Lookup × Registry
  | .here n => (r.findLocal n, r)
  | .parent _ => r.findParent limit service
  | .child c => (r.findChild ⟨c, service⟩, r)

/-- Withdraw the parent services that are not to be kept. -/
def abandonParents (r : Registry) (keep : String → Bool) : Registry :=
  { r with parents := r.parents.map fun n v => if keep n then v else { v with abandoned := true } }

/-- Remove withdrawn services that are not in use. -/
def sweep (r : Registry) (inUse : Provider → Bool) : Registry :=
  { r with
    parents := r.parents.filter fun n v => !v.abandoned || inUse (.parent n)
    children := r.children.filter fun k v => !v.abandoned || inUse k.provider }

def servicesOf (r : Registry) (child : String) : List ChildKey := r.children.keys.filter fun k => k.child == child

end Registry

end SessionBroker
