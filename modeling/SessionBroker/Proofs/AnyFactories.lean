import SessionBroker.Service.Local

/-!
# SessionBroker.Proofs.AnyFactories — services over factories of any type

What a service does with its registry does not depend on what its factory is.

* `Hooks F O`: what a service asks of a factory of type `F`, whose objects are of type `O`.  Each hook may change the
  factory and the surroundings.
* `FactoryService F O`: a service over such a factory.
* `LocalService.initiate_general`: the services that brokers run are of this form, with the hooks of `Factory`.
-/

namespace SessionBroker

/-- What a service asks of its factory. -/
structure Hooks (F O : Type) where
  cap : O → Capability
  create : F → Args → Affinity → Env → Except SessionError O × F × Env
  upgrade : F → O → Args → Env → O × F × Env
  destroy : F → O → Env → F × Env

/-- A service over a factory of any type. -/
structure FactoryService (F O : Type) where
  hooks : Hooks F O
  factory : F
  objects : Table Word O := ∅
  /-- The number of objects that the registry was given so far. -/
  made : Nat := 0

namespace FactoryService

variable {F O : Type}

/-- The place of the next object. -/
def nextSlot (l : FactoryService F O) : Word := ⟨l.made % 0x10000000000000000, Nat.mod_lt _ (by decide)⟩

/-- The object of a session, with its place. -/
def shelved? (l : FactoryService F O) (s : Session) : Option (Word × O) :=
  (s.handle.bind (·.slot)).bind fun slot => (l.objects.find? slot).map fun o => (slot, o)

def create (l : FactoryService F O) (s : Session) (env : Env) : Outcome (FactoryService F O) :=
  match l.hooks.create l.factory s.args s.affinity env with
  | (.ok o, factory, env) =>
    { service := { l with factory, objects := l.objects.insert l.nextSlot o, made := l.made + 1 }
      session := { s with handle := some ⟨l.hooks.cap o, some l.nextSlot⟩ }.advance .available
      env }
  | (.error e, factory, env) =>
    match e.terminalPhase? with
    | some p => { service := { l with factory }, session := s.advance p, env }
    | none => { error := some e, service := { l with factory }, session := s, env }

def upgrade (l : FactoryService F O) (s : Session) (env : Env) : Outcome (FactoryService F O) :=
  let settled := s.confirmUpgrade.advance .capHandedOut
  match l.shelved? s with
  | none => { service := l, session := settled, env }
  | some (slot, o) =>
    let (o, factory, env) := l.hooks.upgrade l.factory o s.upgradeArgs env
    { service := { l with factory, objects := l.objects.insert slot o }, session := settled, env }

def close (l : FactoryService F O) (s : Session) (env : Env) : Outcome (FactoryService F O) :=
  let settled := { s with handle := none }.advance .closed
  match l.shelved? s with
  | none => { service := l, session := settled, env }
  | some (slot, o) =>
    let (factory, env) := l.hooks.destroy l.factory o env
    { service := { l with factory, objects := l.objects.erase slot }, session := settled, env }

/-- Do the work due in the phase of a session. -/
def initiate (l : FactoryService F O) (s : Session) (env : Env) : Outcome (FactoryService F O) :=
  match s.phase with
  | .createRequested => l.create s env
  | .upgradeRequested => l.upgrade s env
  | .closeRequested => l.close s env
  | _ => { service := l, session := s, env }

end FactoryService

/-! ### The services that brokers run -/

/-- The hooks of the factories that a service of this name has. -/
def Factory.hooks (service : String) : Hooks Factory SessionObject where
  cap o := o.cap
  create f := f.create service
  upgrade f o args env := ((f.upgrade service o args env).1, f, (f.upgrade service o args env).2)
  destroy f o env := (f, f.destroy service o env)

namespace LocalService

/-- The same service, with its factory as one of any type. -/
def general (l : LocalService) : FactoryService Factory SessionObject :=
  { hooks := Factory.hooks l.name, factory := l.factory, objects := l.objects, made := l.made }

theorem create_general (l : LocalService) (s : Session) (env : Env) :
    l.general.create s env = (l.create s env).map general := by
  have hcreate : l.general.hooks.create l.general.factory s.args s.affinity env =
      l.factory.create l.name s.args s.affinity env := rfl
  unfold FactoryService.create create
  rw [hcreate]
  obtain ⟨result, f, env'⟩ := l.factory.create l.name s.args s.affinity env
  cases result with
  | ok o => rfl
  | error e =>
    dsimp only
    cases e.terminalPhase? <;> rfl

theorem upgrade_general (l : LocalService) (s : Session) (env : Env) :
    l.general.upgrade s env = (l.upgrade s env).map general := by
  have hobjects : l.general.objects = l.objects := rfl
  unfold FactoryService.upgrade FactoryService.shelved? upgrade
  rw [hobjects]
  cases s.handle.bind (·.slot) with
  | none => rfl
  | some slot =>
    dsimp only [Option.bind_some]
    cases l.objects.find? slot <;> rfl

theorem close_general (l : LocalService) (s : Session) (env : Env) :
    l.general.close s env = (l.close s env).map general := by
  have hobjects : l.general.objects = l.objects := rfl
  unfold FactoryService.close FactoryService.shelved? close
  rw [hobjects]
  cases s.handle.bind (·.slot) with
  | none => rfl
  | some slot =>
    dsimp only [Option.bind_some]
    cases l.objects.find? slot <;> rfl

/-- The turn of a session at a service that brokers run is that at the same service over any type of factory. -/
theorem initiate_general (l : LocalService) (s : Session) (env : Env) :
    l.general.initiate s env = (l.initiate s env).map general := by
  unfold FactoryService.initiate initiate
  cases s.phase with
  | createRequested => exact l.create_general s env
  | upgradeRequested => exact l.upgrade_general s env
  | closeRequested => exact l.close_general s env
  | available | capHandedOut | closed | serviceDenied | insufficientRam | insufficientCaps => rfl

end LocalService

end SessionBroker
