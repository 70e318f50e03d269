import SessionBroker.Environment.Client

/-!
# SessionBroker.Service.Outcome — what a service makes of a session

A service that is given a session does the work due in its phase.  It advances the phase or leaves the session as it
is, which means that the request is pending, or it fails because the own account ran out of quota.
-/

namespace SessionBroker

/-- A service after it was given a session, the session, and the surroundings. -/
structure Outcome (σ : Type) where
  error : Option SessionError := none
  service : σ
  session : Session
  env : Env

/-- The outcome as one of another service. -/
def Outcome.map {σ τ : Type} (f : σ → τ) (o : Outcome σ) : Outcome τ :=
  { error := o.error, service := f o.service, session := o.session, env := o.env }

end SessionBroker
