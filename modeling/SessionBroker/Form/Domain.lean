import SessionBroker.Json.Document
import SessionBroker.Session

/-!
# SessionBroker.Form.Domain — the written forms of phases, quotas, ids, labels and capabilities

For each type `read?` reads a value of a document, and `toJson` writes it as JSON.
-/

namespace SessionBroker

open Document

variable {δ : Type} [Document δ]

namespace Word

def toJson (w : Word) : Json := .ofNat w.val

end Word

namespace Phase

def read? (d : δ) : Option Phase := name? d >>= ofName?

def toJson (p : Phase) : Json := .ofText p.name

end Phase

namespace Answer

def read? (d : δ) : Option Answer := name? d >>= fun s => all.find? fun a => a.name == s

def toJson (a : Answer) : Json := .ofText a.name

end Answer

namespace UpgradeOutcome

def read? (d : δ) : Option UpgradeOutcome := name? d >>= fun s => all.find? fun o => o.name == s

def toJson (o : UpgradeOutcome) : Json := .ofText o.name

end UpgradeOutcome

namespace Quota

def read? (d : δ) : Option Quota :=
  match fields? ["ram_quota", "cap_quota"] d with
  | some [ram, caps] => do return ⟨← required word? ram, ← required word? caps⟩
  | _ => none

def toJson (q : Quota) : Json := .ofMembers [("ram_quota", q.ram.toJson), ("cap_quota", q.caps.toJson)]

end Quota

def readDiag? (d : δ) : Option Bool :=
  match fields? ["enabled"] d with
  | some [enabled] => required bool? enabled
  | _ => none

def diagToJson (enabled : Bool) : Json := .ofMembers [("enabled", .bool enabled)]

namespace Label

def read? (d : δ) : Option Label := (text? d).map Label.mk

def toJson (l : Label) : Json := .ofText l.text

end Label

namespace Ident

def read? {side : Side} (d : δ) : Option (Ident side) := (word? d).map Ident.mk

def toJson {side : Side} (i : Ident side) : Json := i.num.toJson

end Ident

namespace ObjectId

/-- Read an identifier, which is written without the tag of its kind. -/
def read? {kind : ObjectKind} (d : δ) : Option (ObjectId kind) := (text? d >>= Uuid.parse?).map ObjectId.mk

def toJson {kind : ObjectKind} (i : ObjectId kind) : Json := .ofText i.uuid.text

end ObjectId

namespace Capability

def read? (d : δ) : Option Capability :=
  match fields? ["id", "service"] d with
  | some [id, service] => do return ⟨← required ObjectId.read? id, ← required text? service⟩
  | _ => none

def toJson (c : Capability) : Json := .ofMembers [("id", c.id.toJson), ("service", .ofText c.service)]

end Capability

namespace Affinity

/-- Read an integer of 32 bits with sign. -/
def coordinate? (d : δ) : Option Int := (int? d).filter fun n => -0x80000000 ≤ n && n < 0x80000000

/-- Read an integer of 32 bits without sign. -/
def extent? (d : δ) : Option Nat :=
  match int? d with
  | some (.ofNat n) => if n < 0x100000000 then some n else none
  | _ => none

def read? (d : δ) : Option Affinity :=
  match fields? ["xpos", "ypos", "width", "height"] d with
  | some [x, y, w, h] => do
    return ⟨← required coordinate? x, ← required coordinate? y, ← required extent? w, ← required extent? h⟩
  | _ => none

def toJson (a : Affinity) : Json :=
  .ofMembers [("xpos", .ofInt a.xpos), ("ypos", .ofInt a.ypos), ("width", .ofNat a.width), ("height", .ofNat a.height)]

end Affinity

end SessionBroker
