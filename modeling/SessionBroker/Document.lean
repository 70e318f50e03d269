import SessionBroker.Word

/-!
# SessionBroker.Document — typed reading

Configurations and scripts come in two formats, and both are read through `Document`: what a typed reader may ask of a
value, whatever format it was written in.  A reader of a type is then written once.

* `Document.fields?`: a structure, written as named fields or as a list of its fields in order.
* `Document.case?`: a case of a choice, written as its name or with a payload.
* `Buffered`: a value that was taken in before its type was known.
-/

namespace SessionBroker

/-- What a typed reader asks of a value. -/
class Document (δ : Type) where
  text? : δ → Option String
  int? : δ → Option Int
  bool? : δ → Option Bool
  items? : δ → Option (List δ)
  /-- Whether the value stands for an absent one. -/
  isNull : δ → Bool
  /-- The fields of a structure with the given field names, in their order; other fields are skipped. -/
  fields? : List String → δ → Option (List (Option δ))
  /-- The fields of the payload of a case. -/
  payload? : List String → δ → Option (List (Option δ))
  /-- The name of a case, and its payload if it has one. -/
  case? : δ → Option (String × Option δ)
  /-- Whether the value may stand behind the name of a case without payload. -/
  isUnit : δ → Bool

namespace Document

variable {δ α : Type} [Document δ]

def word? (d : δ) : Option Word :=
  match int? d with
  | some (.ofNat n) => Word.ofNat? n
  | _ => none

def list? (read : δ → Option α) (d : δ) : Option (List α) := items? d >>= List.mapM read

/-- Read a value that may be absent. -/
def option? (read : δ → Option α) (d : δ) : Option (Option α) := if isNull d then some none else (read d).map some

/-- Read a field that has to be there. -/
def required (read : δ → Option α) : Option δ → Option α
  | none => none
  | some d => read d

/-- Read a field that may be missing. -/
def orElse (default : α) (read : δ → Option α) : Option δ → Option α
  | none => some default
  | some d => read d

/-- Read a choice among names without payload. -/
def name? (d : δ) : Option String :=
  match case? d with
  | some (n, none) => some n
  | some (n, some p) => if isUnit p then some n else none
  | none => none

/-- The fields of a list of values, at most as many as there are names. -/
def positional (names : List String) (items : List δ) : Option (List (Option δ)) :=
  if items.length ≤ names.length then
    some (items.map some ++ List.replicate (names.length - items.length) none)
  else none

/-- The field of a name among named values, which must not stand there twice. -/
def named? (members : List (String × δ)) (name : String) : Option (Option δ) :=
  match members.filter fun m => m.1 == name with
  | [] => some none
  | [m] => some (some m.2)
  | _ => none

end Document

/-- A value taken in before its type was known. -/
inductive Buffered where
  | null
  | bool (b : Bool)
  | int (n : Int)
  /-- A number that is no integer of 64 bits. -/
  | real
  | text (s : String)
  | list (items : List Buffered)
  | table (members : List (String × Buffered))

namespace Buffered

instance : Inhabited Buffered := ⟨.null⟩

instance : Document Buffered where
  text?
    | .text s => some s
    | _ => none
  int?
    | .int n => some n
    | _ => none
  bool?
    | .bool b => some b
    | _ => none
  items?
    | .list items => some items
    | _ => none
  isNull
    | .null => true
    | _ => false
  fields? names
    | .table members => names.mapM (Document.named? members)
    | .list items => Document.positional names items
    | _ => none
  payload? names
    | .table members => names.mapM (Document.named? members)
    | .list items => Document.positional names items
    | _ => none
  case?
    | .text s => some (s, none)
    | .table [(k, v)] => some (k, some v)
    | _ => none
  isUnit
    | .null => true
    | _ => false

/-- The case and the contents of a value that carries the name of its case under `tag`: among its members, or as the
first item of a list. -/
def tagged? (tag : String) : Buffered → Option (String × Buffered)
  | .table members =>
    match Document.named? members tag with
    | some (some (.text s)) => some (s, .table (members.filter fun m => m.1 != tag))
    | _ => none
  | .list (.text s :: rest) => some (s, .list rest)
  | _ => none

end Buffered

/-- A format whose values can be taken in before their type is known.  The depth counts the lists and tables around
the value. -/
class BufferedDocument (δ : Type) extends Document δ where
  buffer? (depth : Nat) : δ → Option Buffered

end SessionBroker
