import SessionBroker.Json.Quoted
import SessionBroker.Text.Basic

/-!
# SessionBroker.Json.Basic — JSON values

Numbers and strings are kept as they were written, because what a reader asks of them depends on where they stand: a
skipped number may be of any size, and a skipped string may denote no text.
-/

namespace SessionBroker

/-- A JSON value with the raw texts of its numbers and strings. -/
inductive Json where
  | null
  | bool (b : Bool)
  | number (raw : List Char)
  | string (raw : List Char)
  | list (items : List Json)
  | object (members : List (List Char × Json))

namespace Json

instance : Inhabited Json := ⟨.null⟩

def ofText (s : String) : Json := .string (Quoted.encode s.toList)

def ofNat (n : Nat) : Json := .number (Text.digits n)

def ofInt : Int → Json
  | .ofNat n => ofNat n
  | .negSucc n => .number ('-' :: Text.digits (n + 1))

def ofMembers (members : List (String × Json)) : Json :=
  .object (members.map fun m => (Quoted.encode m.1.toList, m.2))

/-- The JSON value of something that may be absent. -/
def ofOption {α : Type} (f : α → Json) : Option α → Json
  | none => .null
  | some a => f a

/-- The text that a JSON string denotes. -/
def text? : Json → Option String
  | .string raw => (Quoted.decode? raw).map String.ofList
  | _ => none

end Json

end SessionBroker
