import SessionBroker.Uuid

/-!
# SessionBroker.Capability — handles to session objects, and placement hints

Two capabilities are equal exactly when they name the same object of the same service.  A placement hint travels with
a session request and is never interpreted.
-/

namespace SessionBroker

/-- An unforgeable handle to a session object. -/
@[ext]
structure Capability where
  id : ObjectId .cap
  service : String
  deriving DecidableEq

namespace Capability

/-- The written form: the service and the identifier. -/
def text (c : Capability) : String := c.service ++ " " ++ c.id.text

/-- The `n`-th capability minted in an environment. -/
def mint (service : String) (n : Nat) : Capability := ⟨⟨.ofNat n⟩, service⟩

/-- The place of a minted capability in the order of minting. -/
def serial (c : Capability) : Nat := c.id.uuid.bits.val

end Capability

/-- Where a session would like to be placed. -/
structure Affinity where
  xpos : Int := 0
  ypos : Int := 0
  width : Nat := 1
  height : Nat := 1
  deriving DecidableEq

instance : Inhabited Affinity := ⟨{}⟩

end SessionBroker
