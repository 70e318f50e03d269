import SessionBroker.Document
import SessionBroker.Json.Basic
import SessionBroker.Json.Number

/-!
# SessionBroker.Json.Document — typed reading of JSON

* An integer is written in plain digits: `1.0`, `1e2` and `-0` are none.
* `null` stands for an absent value, and behind the name of a case without payload.
* Every member name of a structure has to denote a text, even of a member that is skipped.
* A value taken in without its type is read in full: its strings denote texts, its numbers are integers of 64 bits
  or finite as they are taken in, and it is less than `depthLimit` deep.
-/

namespace SessionBroker.Json

/-- The integer that a plain number denotes. -/
def int? : Json → Option Int
  | .number ('-' :: ds) => if ds = ['0'] then none else (Text.number? ds).map fun n => -(n : Int)
  | .number ds => (Text.number? ds).map Int.ofNat
  | _ => none

/-- The members of an object with the texts that their names denote. -/
def members? (members : List (List Char × Json)) : Option (List (String × Json)) :=
  members.mapM fun m => (Quoted.decode? m.1).map fun k => (String.ofList k, m.2)

/-- The fields of a structure. -/
def fields? (names : List String) : Json → Option (List (Option Json))
  | .object members => do
    let members ← members? members
    names.mapM (Document.named? members)
  | .list items => Document.positional names items
  | _ => none

instance : Document Json where
  text? := text?
  int? := int?
  bool?
    | .bool b => some b
    | _ => none
  items?
    | .list items => some items
    | _ => none
  isNull
    | .null => true
    | _ => false
  fields? := fields?
  payload? := fields?
  case?
    | .string raw => (Quoted.decode? raw).map fun s => (String.ofList s, none)
    | .object [(k, v)] => (Quoted.decode? k).map fun s => (String.ofList s, some v)
    | _ => none
  isUnit
    | .null => true
    | _ => false

/-- The number of lists and objects in each other at which reading in full gives up. -/
def depthLimit : Nat := 128

/-- Whether an integer has 64 bits, with or without sign. -/
def fits (n : Int) : Bool := -0x8000000000000000 ≤ n && n < 0x10000000000000000

/-- A number as a buffered value. -/
def bufferNumber? (raw : List Char) : Option Buffered :=
  match (int? (.number raw)).filter fits with
  | some n => some (.int n)
  | none => if Number.isFinite raw then some .real else none

mutual

/-- Take a value in without knowing its type, inside `depth` lists and objects. -/
def buffer? (depth : Nat) : Json → Option Buffered
  | .null => some .null
  | .bool b => some (.bool b)
  | .number raw => bufferNumber? raw
  | .string raw => (Quoted.decode? raw).map fun s => .text (.ofList s)
  | .list items => if depth + 1 < depthLimit then (bufferItems? (depth + 1) items).map .list else none
  | .object members => if depth + 1 < depthLimit then (bufferMembers? (depth + 1) members).map .table else none

def bufferItems? (depth : Nat) : List Json → Option (List Buffered)
  | [] => some []
  | v :: rest =>
    match buffer? depth v, bufferItems? depth rest with
    | some b, some bs => some (b :: bs)
    | _, _ => none

def bufferMembers? (depth : Nat) : List (List Char × Json) → Option (List (String × Buffered))
  | [] => some []
  | (k, v) :: rest =>
    match Quoted.decode? k, buffer? depth v, bufferMembers? depth rest with
    | some s, some b, some bs => some ((.ofList s, b) :: bs)
    | _, _, _ => none

end

instance : BufferedDocument Json where
  buffer? := buffer?

end SessionBroker.Json
