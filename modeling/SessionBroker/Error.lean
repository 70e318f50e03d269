import SessionBroker.Phase
import SessionBroker.Quota

/-!
# SessionBroker.Error — what can go wrong

One type of causes for each concern, with its wording in `message`, and `Error` over all of them.  A failed session
operation is terminal or, for `outOfRam` and `outOfCaps`, recoverable by asking the parent for more quota.
-/

namespace SessionBroker

/-- A quota transfer that the account cannot pay. -/
inductive QuotaError where
  | insufficient (resource : Resource) (requested available : Word)
  deriving DecidableEq

def QuotaError.message : QuotaError → String
  | .insufficient .ram requested available =>
    s!"insufficient RAM: requested {requested} bytes, available {available} bytes"
  | .insufficient .caps requested available =>
    s!"insufficient caps: requested {requested}, available {available}"

/-- A violation of the session protocol by a peer. -/
inductive ProtocolError where
  /-- The id was never handed out. -/
  | unknownSession (id : Word)
  /-- The peer chose an id that is in use. -/
  | conflictingId (id : Word)
  /-- The session is closed already. -/
  | sessionClosed (id : Word)
  /-- The request does not fit the phase of the session. -/
  | invalidState (id : Word) (phase : Phase)
  deriving DecidableEq

def ProtocolError.message : ProtocolError → String
  | .unknownSession id => s!"unknown session id {id}"
  | .conflictingId id => s!"id {id} is already in use"
  | .sessionClosed id => s!"session {id} is already closed"
  | .invalidState id phase => s!"session {id} cannot accept this request in phase {phase.name}"

/-- A fault in a session argument string. -/
inductive ArgsError where
  /-- The text is no list of keys with values. -/
  | malformed (text : String)
  /-- The value of a key cannot be read. -/
  | invalidValue (key value : String)
  deriving DecidableEq

def ArgsError.message : ArgsError → String
  | .malformed text => s!"malformed argument string: {text}"
  | .invalidValue key value => s!"invalid value '{value}' for key '{key}'"

/-- A request that the rules cannot route. -/
inductive RoutingError where
  | noMatchingRoute (service label : String)
  /-- A rule can never route anything. -/
  | invalidRule (reason : String)
  /-- The child named by the rule does not provide the service. -/
  | serviceNotPresent (child service : String)
  deriving DecidableEq

def RoutingError.message : RoutingError → String
  | .noMatchingRoute service label => s!"no route for service '{service}' requested by '{label}'"
  | .invalidRule reason => s!"invalid route rule: {reason}"
  | .serviceNotPresent child service => s!"service '{service}' not present at child '{child}'"

/-- A session operation that failed. -/
inductive SessionError where
  /-- Routing or the provider refused the request. -/
  | serviceDenied
  /-- The RAM reserved by the requester does not suffice. -/
  | insufficientRam
  /-- The capability slots reserved by the requester do not suffice. -/
  | insufficientCaps
  /-- The own account lacks RAM right now. -/
  | outOfRam
  /-- The own account lacks capability slots right now. -/
  | outOfCaps
  /-- The provider failed in some other way. -/
  | unexpected (reason : String)
  deriving DecidableEq

namespace SessionError

def message : SessionError → String
  | .serviceDenied => "service denied"
  | .insufficientRam => "insufficient RAM quota"
  | .insufficientCaps => "insufficient cap quota"
  | .outOfRam => "out of RAM"
  | .outOfCaps => "out of caps"
  | .unexpected reason => s!"unexpected failure: {reason}"

/-- Whether a resource request can resolve the failure. -/
def isRecoverable : SessionError → Bool
  | .outOfRam | .outOfCaps => true
  | _ => false

/-- The phase a create ends in after the failure; a recoverable failure does not end it. -/
def terminalPhase? : SessionError → Option Phase
  | .serviceDenied | .unexpected _ => some .serviceDenied
  | .insufficientRam => some .insufficientRam
  | .insufficientCaps => some .insufficientCaps
  | .outOfRam | .outOfCaps => none

/-- The resource of which the own account lacks an amount. -/
def outOf : Resource → SessionError
  | .ram => .outOfRam
  | .caps => .outOfCaps

/-- A transfer the own account cannot pay, as a failed session operation. -/
def ofQuotaError : QuotaError → SessionError
  | .insufficient resource _ _ => outOf resource

/-- A request that cannot be routed is denied. -/
def ofRoutingError (_ : RoutingError) : SessionError := .serviceDenied

end SessionError

/-- A failure of any of the concerns. -/
inductive Error where
  | session (e : SessionError)
  | quota (e : QuotaError)
  | protocol (e : ProtocolError)
  | args (e : ArgsError)
  | routing (e : RoutingError)
  deriving DecidableEq

namespace Error

def message : Error → String
  | .session e => "Session error: " ++ e.message
  | .quota e => "Quota error: " ++ e.message
  | .protocol e => "Protocol violation: " ++ e.message
  | .args e => "Argument error: " ++ e.message
  | .routing e => "Routing error: " ++ e.message

/-- The failure as a failed session operation, where it is one. -/
def toSessionError? : Error → Option SessionError
  | .session e => some e
  | .quota e => some (.ofQuotaError e)
  | .routing e => some (.ofRoutingError e)
  | .protocol _ | .args _ => none

end Error

end SessionBroker
