import SessionBroker.Service.Outcome

/-!
# SessionBroker.Service.Local — services with objects of this component

A local service answers at once, by calling its factory.  The objects live in a registry of the service, and the
handle of a session holds the place of its object there.

* `Factory`: decides each create by its number, arguments and placement, or hands out one object to everybody.
* `LocalService.initiate`: creates, upgrades or destroys the object of a session.
-/

namespace SessionBroker

/-- An object behind a session. -/
structure SessionObject where
  cap : Capability
  /-- The place of the object in the order in which the factory made them. -/
  number : Nat
  ram : Word
  deriving DecidableEq

/-- A factory of session objects. -/
inductive Factory where
  /-- Makes an object for each session that `refusal` does not refuse; `asked` counts the creates so far and `made`
  the objects. -/
  | making (refusal : Nat → Args → Affinity → Option SessionError) (asked made : Nat)
  /-- Hands out the same object to everybody. -/
  | single (cap : Capability)

namespace Factory

/-- A factory that first refuses by a list, and then sessions with too little quota. -/
def scripted (results : List (Option SessionError)) (least : Quota) : Factory :=
  .making
    (fun n args _ =>
      match results[n]?.join, args.quota with
      | some e, _ => some e
      | none, .error e => some (.unexpected e.message)
      | none, .ok q =>
        if q.ram < least.ram then some .insufficientRam
        else if q.caps < least.caps then some .insufficientCaps
        else none)
    0 0

/-- The number of objects made, where they are counted. -/
def made? : Factory → Option Nat
  | .making _ _ made => some made
  | .single _ => none

/-- The RAM that arguments donate, zero if it cannot be read. -/
def ramOf (args : Args) : Word :=
  match args.donation .ram with
  | .ok w => w
  | .error _ => 0

/-- Ask for an object. -/
def create (f : Factory) (service : String) (args : Args) (affinity : Affinity) (env : Env) :
    Except SessionError SessionObject × Factory × Env :=
  match f with
  | .single cap => (.ok ⟨cap, 0, 0⟩, f, env)
  | .making refusal asked made =>
    let env := env.record (.objectAsked service args.text affinity)
    match refusal asked args affinity with
    | some e => (.error e, .making refusal (asked + 1) made, env)
    | none =>
      (.ok ⟨(env.mint service).1, made, ramOf args⟩, .making refusal (asked + 1) (made + 1), (env.mint service).2)

def upgrade (f : Factory) (service : String) (o : SessionObject) (args : Args) (env : Env) : SessionObject × Env :=
  match f with
  | .single _ => (o, env)
  | .making _ _ _ =>
    let o := { o with ram := o.ram.satAdd (ramOf args) }
    (o, env.record (.objectUpgraded service o.number args.text o.ram))

def destroy (f : Factory) (service : String) (o : SessionObject) (env : Env) : Env :=
  match f with
  | .single _ => env
  | .making _ _ _ => env.record (.objectDestroyed service o.number)

end Factory

/-- A service whose sessions are created by a factory of this component. -/
structure LocalService where
  name : String
  factory : Factory
  objects : Table Word SessionObject := ∅
  /-- The number of objects that the registry was given so far. -/
  made : Nat := 0

namespace LocalService

/-- The place of the next object.  Places are counted in 64 bits. -/
def nextSlot (l : LocalService) : Word := ⟨l.made % 0x10000000000000000, Nat.mod_lt _ (by decide)⟩

def object? (l : LocalService) (s : Session) : Option SessionObject :=
  (s.handle.bind (·.slot)).bind l.objects.find?

def create (l : LocalService) (s : Session) (env : Env) : Outcome LocalService :=
  match l.factory.create l.name s.args s.affinity env with
  | (.ok o, factory, env) =>
    { service :=
        { l with factory, objects := l.objects.insert l.nextSlot o, made := l.made + 1 }
      session := { s with handle := some ⟨o.cap, some l.nextSlot⟩ }.advance .available
      env }
  | (.error e, factory, env) =>
    match e.terminalPhase? with
    | some p => { service := { l with factory }, session := s.advance p, env }
    | none => { error := some e, service := { l with factory }, session := s, env }

/-- Pass the pending upgrade of a session to its object. -/
def upgrade (l : LocalService) (s : Session) (env : Env) : Outcome LocalService :=
  let settled := s.confirmUpgrade.advance .capHandedOut
  match s.handle.bind (·.slot) with
  | none => { service := l, session := settled, env }
  | some slot =>
    match l.objects.find? slot with
    | none => { service := l, session := settled, env }
    | some o =>
      let (o, env) := l.factory.upgrade l.name o s.upgradeArgs env
      { service := { l with objects := l.objects.insert slot o }, session := settled, env }

def close (l : LocalService) (s : Session) (env : Env) : Outcome LocalService :=
  let settled := { s with handle := none }.advance .closed
  match s.handle.bind (·.slot) with
  | none => { service := l, session := settled, env }
  | some slot =>
    match l.objects.find? slot with
    | none => { service := l, session := settled, env }
    | some o =>
      { service := { l with objects := l.objects.erase slot }, session := settled
        env := l.factory.destroy l.name o env }

/-- Do the work due in the phase of a session. -/
def initiate (l : LocalService) (s : Session) (env : Env) : Outcome LocalService :=
  match s.phase with
  | .createRequested => l.create s env
  | .upgradeRequested => l.upgrade s env
  | .closeRequested => l.close s env
  | _ => { service := l, session := s, env }

end LocalService

end SessionBroker
