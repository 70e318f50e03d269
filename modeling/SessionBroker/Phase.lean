/-!
# SessionBroker.Phase — the lifecycle of a session

* `Phase`: the nine phases a session passes through, with their canonical names.
* `Phase.next`: the steps the state machine permits.
* `Answer`: what a requester is told about a session other than its capability.
-/

namespace SessionBroker

/-- A phase in the life of a session. -/
inductive Phase where
  /-- The request was posted and is not answered yet. -/
  | createRequested
  /-- The create was refused by routing or by the provider. -/
  | serviceDenied
  /-- The create was refused because too little RAM was donated. -/
  | insufficientRam
  /-- The create was refused because too few capability slots were donated. -/
  | insufficientCaps
  /-- The provider created the session, and its capability is not delivered yet. -/
  | available
  /-- The requester holds the session capability. -/
  | capHandedOut
  /-- Additional quota waits to be applied. -/
  | upgradeRequested
  /-- A close was begun, and the provider has to release the session. -/
  | closeRequested
  /-- The session is released. -/
  | closed
  deriving DecidableEq, Repr, Inhabited

namespace Phase

def all : List Phase :=
  [.createRequested, .serviceDenied, .insufficientRam, .insufficientCaps, .available, .capHandedOut,
    .upgradeRequested, .closeRequested, .closed]

def name : Phase → String
  | .createRequested => "CREATE_REQUESTED"
  | .serviceDenied => "SERVICE_DENIED"
  | .insufficientRam => "INSUFFICIENT_RAM_QUOTA"
  | .insufficientCaps => "INSUFFICIENT_CAP_QUOTA"
  | .available => "AVAILABLE"
  | .capHandedOut => "CAP_HANDED_OUT"
  | .upgradeRequested => "UPGRADE_REQUESTED"
  | .closeRequested => "CLOSE_REQUESTED"
  | .closed => "CLOSED"

def ofName? (s : String) : Option Phase := all.find? fun p => p.name == s

/-- Whether the phase ends a failed create. -/
def isCreateFailure : Phase → Bool
  | .serviceDenied | .insufficientRam | .insufficientCaps => true
  | _ => false

/-- Whether the provider has created the session. -/
def isEstablished : Phase → Bool
  | .available | .capHandedOut | .upgradeRequested => true
  | _ => false

/-- The phases reachable in one step. -/
def next : Phase → List Phase
  | .createRequested =>
    [.available, .serviceDenied, .insufficientRam, .insufficientCaps, .closeRequested, .closed]
  | .serviceDenied | .insufficientRam | .insufficientCaps => [.closeRequested, .closed]
  | .available => [.capHandedOut, .upgradeRequested, .closeRequested]
  | .capHandedOut => [.upgradeRequested, .closeRequested]
  | .upgradeRequested => [.capHandedOut, .closeRequested]
  | .closeRequested => [.closed]
  | .closed => []

/-- Whether `q` is reachable from `p` in one step. -/
def canReach (p q : Phase) : Bool := p.next.contains q

end Phase

/-- What a requester is told about one of its sessions. -/
inductive Answer where
  | serviceDenied
  | insufficientRam
  | insufficientCaps
  /-- An upgrade was applied. -/
  | sessionOk
  /-- A close was carried out. -/
  | sessionClosed
  deriving DecidableEq, Repr

namespace Answer

def all : List Answer := [.serviceDenied, .insufficientRam, .insufficientCaps, .sessionOk, .sessionClosed]

def name : Answer → String
  | .serviceDenied => "SERVICE_DENIED"
  | .insufficientRam => "INSUFFICIENT_RAM_QUOTA"
  | .insufficientCaps => "INSUFFICIENT_CAP_QUOTA"
  | .sessionOk => "SESSION_OK"
  | .sessionClosed => "SESSION_CLOSED"

/-- The answer that reports a create that failed in the given phase. -/
def ofCreateFailure? : Phase → Option Answer
  | .serviceDenied => some .serviceDenied
  | .insufficientRam => some .insufficientRam
  | .insufficientCaps => some .insufficientCaps
  | _ => none

end Answer

/-- How an upgrade forwarded to the parent went. -/
inductive UpgradeOutcome where
  | done
  /-- The parent will apply the quota later. -/
  | pending
  deriving DecidableEq, Repr

namespace UpgradeOutcome

def all : List UpgradeOutcome := [.done, .pending]

def name : UpgradeOutcome → String
  | .done => "Done"
  | .pending => "Pending"

end UpgradeOutcome

end SessionBroker
