import SessionBroker.Text.Basic

/-!
# SessionBroker.Uuid — identifiers of 128 bits

* `Uuid.text`: 32 lower-case hexadecimal digits in groups of 8, 4, 4, 4 and 12.
* `Uuid.parse?`: reads the digits in either case, hyphenated or not; the hyphenated form may stand in braces or behind
  `urn:uuid:`, in either case too.
-/

namespace SessionBroker

/-- An identifier of 128 bits. -/
@[ext]
structure Uuid where
  bits : Fin 0x100000000000000000000000000000000
  deriving DecidableEq

namespace Uuid

/-- The identifier with the last 128 bits of a number. -/
def ofNat (n : Nat) : Uuid := ⟨⟨n % 0x100000000000000000000000000000000, Nat.mod_lt _ (by decide)⟩⟩

/-- Put the hyphens between the groups of 32 digits. -/
def hyphenate (cs : List Char) : List Char :=
  cs.take 8 ++ '-' :: (cs.drop 8).take 4 ++ '-' :: (cs.drop 12).take 4 ++ '-' :: (cs.drop 16).take 4 ++
    '-' :: cs.drop 20

/-- The digits of a hyphenated form. -/
def unhyphenate? (cs : List Char) : Option (List Char) :=
  let digits := cs.take 8 ++ (cs.drop 9).take 4 ++ (cs.drop 14).take 4 ++ (cs.drop 19).take 4 ++ cs.drop 24
  if cs.length = 36 ∧ hyphenate digits = cs then some digits else none

/-- The identifier that 32 hexadecimal digits denote. -/
def ofDigits? (cs : List Char) : Option Uuid :=
  if cs.length = 32 then (Text.hexNumber? cs).map ofNat else none

/-- The form without hyphens, braces and scheme, if the text has one of the four forms. -/
def bareDigits? (cs : List Char) : Option (List Char) :=
  if cs.length = 32 then some cs
  else if cs.length = 38 ∧ cs.head? = some '\x7b' ∧ cs.getLast? = some '\x7d' then unhyphenate? (cs.drop 1).dropLast
  else if cs.length = 45 ∧ (cs.take 9).map Char.toLower = "urn:uuid:".toList then unhyphenate? (cs.drop 9)
  else unhyphenate? cs

def parse? (s : String) : Option Uuid := bareDigits? s.toList >>= ofDigits?

/-- The written form. -/
def text (u : Uuid) : String := .ofList (hyphenate (Text.hexDigits 32 u.bits.val))

instance : Ord Uuid := ⟨fun a b => compare a.bits.val b.bits.val⟩

end Uuid

/-- The kinds of object that carry a unique identifier. -/
inductive ObjectKind where
  | account
  | cap
  | signal
  deriving DecidableEq, Repr

/-- The tag of a kind in the text of an identifier. -/
def ObjectKind.tag : ObjectKind → String
  | .account => "account"
  | .cap => "cap"
  | .signal => "signal"

/-- The identifier of an object of a kind. -/
@[ext]
structure ObjectId (kind : ObjectKind) where
  uuid : Uuid
  deriving DecidableEq

/-- A text that is no identifier of the wanted kind. -/
inductive ObjectIdError where
  | wrongTag (expected input : String)
  | invalidUuid (input : String)
  deriving DecidableEq

/-- The wording of a text that is no identifier. -/
def ObjectIdError.message : ObjectIdError → String
  | .wrongTag expected input => s!"expected tag '{expected}' in id '{input}'"
  | .invalidUuid input => s!"invalid uuid in id '{input}'"

namespace ObjectId

variable {kind : ObjectKind}

/-- The written form: the tag of the kind, a colon and the identifier. -/
def text (i : ObjectId kind) : String := kind.tag ++ ":" ++ i.uuid.text

/-- Read an identifier of the kind. -/
def parse (kind : ObjectKind) (s : String) : Except ObjectIdError (ObjectId kind) :=
  let lead := (kind.tag ++ ":").toList
  if lead.isPrefixOf s.toList then
    match Uuid.parse? (.ofList (s.toList.drop lead.length)) with
    | some u => .ok ⟨u⟩
    | none => .error (.invalidUuid s)
  else .error (.wrongTag kind.tag s)

instance : Ord (ObjectId kind) := ⟨fun a b => compare a.uuid b.uuid⟩

end ObjectId

end SessionBroker
