import SessionBroker.Document

/-!
# SessionBroker.Toml.Basic — TOML values

A table remembers how it came to be, because that decides who may add to it later:

* `header`: under a header of its own, or the root;
* `implied`: only named on the way to another header;
* `dotted`: by a dotted key;
* `closed`: written in braces, where nothing can be added.

Typed reading follows the format's habits: a structure may be given as a list, whose further items are skipped; a case
without payload may stand before an empty list or table; the payload of a case may have no unknown fields.
-/

namespace SessionBroker

/-- How a table came to be. -/
inductive Toml.Origin where
  | header
  | implied
  | dotted
  | closed
  deriving DecidableEq, Repr

/-- A TOML value. -/
inductive Toml where
  | text (s : String)
  | int (n : Int)
  | real
  | bool (b : Bool)
  | list (items : List Toml)
  | table (origin : Toml.Origin) (members : List (String × Toml))
  /-- The tables under a header in double brackets, the last one first. -/
  | tables (elements : List (List (String × Toml)))

namespace Toml

instance : Inhabited Toml := ⟨.real⟩

/-- The members of a table. -/
abbrev Members := List (String × Toml)

def find? (key : String) (ms : Members) : Option Toml := (ms.find? fun m => m.1 == key).map (·.2)

/-- Put a value under a key, in the place of the value that is there. -/
def put (key : String) (v : Toml) : Members → Members
  | [] => [(key, v)]
  | m :: rest => if m.1 == key then (key, v) :: rest else m :: put key v rest

/-- Take out the value under a key. -/
def remove (key : String) (ms : Members) : Members := ms.filter fun m => m.1 != key

/-- The items of a list of values or tables. -/
def items? : Toml → Option (List Toml)
  | .list items => some items
  | .tables elements => some (elements.reverse.map (.table .header))
  | _ => none

/-- The fields of a structure. -/
def fields? (names : List String) (v : Toml) : Option (List (Option Toml)) :=
  match v with
  | .table _ ms => some (names.map fun n => find? n ms)
  | v => (items? v).map fun items => names.mapIdx fun i _ => items[i]?

/-- The fields of the payload of a case, among which none is unknown. -/
def payload? (names : List String) (v : Toml) : Option (List (Option Toml)) :=
  match v with
  | .table _ ms => if ms.all fun m => names.contains m.1 then fields? names v else none
  | v => fields? names v

instance : Document Toml where
  text?
    | .text s => some s
    | _ => none
  int?
    | .int n => some n
    | _ => none
  bool?
    | .bool b => some b
    | _ => none
  items? := items?
  isNull _ := false
  fields? := fields?
  payload? := payload?
  case?
    | .text s => some (s, none)
    | .table _ [(k, v)] => some (k, some v)
    | _ => none
  isUnit
    | .table _ ms => ms.isEmpty
    | .list items => items.isEmpty
    | .tables elements => elements.isEmpty
    | _ => false

mutual

/-- A value without its type. -/
def buffer : Toml → Buffered
  | .text s => .text s
  | .int n => .int n
  | .real => .real
  | .bool b => .bool b
  | .list items => .list (bufferItems items)
  | .table _ ms => .table (bufferMembers ms)
  | .tables elements => .list (bufferTables elements).reverse

def bufferItems : List Toml → List Buffered
  | [] => []
  | v :: rest => buffer v :: bufferItems rest

def bufferMembers : List (String × Toml) → List (String × Buffered)
  | [] => []
  | (k, v) :: rest => (k, buffer v) :: bufferMembers rest

def bufferTables : List (List (String × Toml)) → List Buffered
  | [] => []
  | ms :: rest => .table (bufferMembers ms) :: bufferTables rest

end

instance : BufferedDocument Toml where
  buffer? _ v := some (buffer v)

end Toml

end SessionBroker
