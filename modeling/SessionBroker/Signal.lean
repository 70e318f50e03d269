/-!
# SessionBroker.Signal — notifications without payload

A signal context has one receiver and any number of handlers.  Signals submitted before the receiver consumes one
count once.

* `Signal.wait`: ends at once if a signal is pending or no handler is left; else nothing here ends it.
-/

namespace SessionBroker

/-- A signal context: whether a signal is pending, and how many handlers can still submit one. -/
@[ext]
structure Signal where
  pending : Bool := false
  handlers : Nat := 1
  deriving DecidableEq

instance : Inhabited Signal := ⟨{}⟩

/-- How a wait ends. -/
inductive Wake where
  /-- A pending signal was consumed. -/
  | signalled
  /-- No handler is left, so no signal can come. -/
  | gone
  /-- No signal is pending, and a handler may still submit one. -/
  | waiting
  deriving DecidableEq, Repr

namespace Signal

def submit (s : Signal) : Signal := { s with pending := true }

/-- Hand out a further handler. -/
def share (s : Signal) : Signal := { s with handlers := s.handlers + 1 }

def drop (s : Signal) : Signal := { s with handlers := s.handlers - 1 }

/-- Consume a pending signal without waiting. -/
def consume (s : Signal) : Bool × Signal := (s.pending, { s with pending := false })

/-- Wait for a signal and consume it. -/
def wait (s : Signal) : Wake × Signal :=
  if s.pending then (.signalled, { s with pending := false })
  else if s.handlers = 0 then (.gone, s)
  else (.waiting, s)

end Signal

end SessionBroker
