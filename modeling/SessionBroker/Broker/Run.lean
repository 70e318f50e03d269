import SessionBroker.Broker.Provision

/-!
# SessionBroker.Broker.Run — histories of a broker

* `Broker.Op`: the operations on a broker, by the parent, by children and by local code.
* `Broker.step`: one operation, with its result.
* `Broker.run`: a history of operations.
-/

namespace SessionBroker.Broker

/-- An operation on a broker. -/
inductive Op where
  | create (id : ServerId) (service args : String) (affinity : Affinity)
  | upgrade (id : ServerId) (q : Quota)
  | close (id : ServerId)
  | childAnswer (k : ChildKey) (request : ClientId) (r : Response)
  | announce (k : ChildKey) (account : AccountId)
  | withdraw (k : ChildKey)
  | removeChild (child : String)
  | applyRouting (rules : List Rule)
  /-- A service of this component that answers at once is registered. -/
  | registerLocal (service : Service)
  /-- A service of this component that answers later is registered. -/
  | registerDesk (d : Desk)
  | answerRequested (service : String) (callback : Nat → Request → Option Response)
  | answerUpgraded (service : String) (applied : Nat → Request → Bool)
  | answerClosing (service : String) (closed : Nat → Request → Bool)
  | reap

def step (b : Broker) : Op → Except Error Unit × Broker
  | .create id service args affinity => b.create id service args affinity
  | .upgrade id q => b.upgrade id q
  | .close id => b.close id
  | .childAnswer k request r => b.childAnswer k request r
  | .announce k account => (.ok (), b.announce k account)
  | .withdraw k => (.ok (), b.withdraw k)
  | .removeChild child => (.ok (), b.removeChild child)
  | .applyRouting rules => (.ok (), b.applyRouting rules)
  | .registerLocal service => (.ok (), b.registerLocal service)
  | .registerDesk d => (.ok (), b.registerDesk d)
  | .answerRequested service callback => (.ok (), b.answerRequested service callback)
  | .answerUpgraded service applied => (.ok (), b.answerUpgraded service applied)
  | .answerClosing service closed => (.ok (), b.answerClosing service closed)
  | .reap => (.ok (), b.reap.2)

def run (b : Broker) (ops : List Op) : Broker := ops.foldl (fun b op => (b.step op).2) b

end SessionBroker.Broker
