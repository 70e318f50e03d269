import SessionBroker.Toml.Basic

/-!
# SessionBroker.Toml.Tree — the tables of a TOML text

A text is a list of statements: headers, and keys with values.  The table under the last header is open until the next
header closes it.

* `insertAt`: a value under a dotted key.  Tables on the way are made if they are missing; a table of its own, and a
  table in braces, take nothing in from outside.
* `Tree.step`: one statement.
* `ofStatements?`: the root table.
-/

namespace SessionBroker.Toml

inductive Statement where
  /-- A value under a key, with the keys of the tables on the way. -/
  | assign (path : List String) (key : String) (v : Toml)
  /-- The header of a table. -/
  | header (path : List String) (key : String)
  /-- The header of a further table in a list of tables. -/
  | element (path : List String) (key : String)

/-- Whether a dotted key may pass through a table. -/
def Origin.isImplicit : Origin → Bool
  | .implied | .dotted => true
  | .header | .closed => false

/-- Change the table at the end of a path.  A missing table on the way is made with origin `made`; when a dotted key
makes the tables, those on the way must not have a header of their own. -/
def changeAt (made : Origin) (f : Origin → Members → Option Members) :
    List String → Origin → Members → Option Members
  | [], origin, ms => f origin ms
  | k :: rest, _, ms =>
    match find? k ms with
    | none => (changeAt made f rest made []).map fun sub => put k (.table made sub) ms
    | some (.table origin sub) =>
      if origin = .closed ∨ (made = .dotted ∧ origin.isImplicit = false) then none
      else (changeAt made f rest origin sub).map fun sub => put k (.table origin sub) ms
    | some (.tables (last :: earlier)) =>
      (changeAt made f rest .header last).map fun sub => put k (.tables (sub :: earlier)) ms
    | some _ => none

/-- Put a value under a dotted key of the table `ms`. -/
def insertAt (path : List String) (key : String) (v : Toml) (ms : Members) : Option Members :=
  changeAt .dotted
    (fun origin sub =>
      if (origin == .dotted) == path.isEmpty then none
      else if (find? key sub).isSome then none
      else some (put key v sub))
    path .header ms

/-- The table that is open, with the root of all tables closed before. -/
structure Tree where
  root : Members := []
  /-- The place of the open table; the root itself is open before the first header. -/
  place : Option (List String × String) := none
  /-- Whether the open table is an element of a list of tables. -/
  isElement : Bool := false
  opened : Members := []

namespace Tree

/-- Add a table to the list of tables under a key. -/
def addElement (key : String) (element : Members) (ms : Members) : Option Members :=
  match find? key ms with
  | none => some (put key (.tables [element]) ms)
  | some (.tables elements) => some (put key (.tables (element :: elements)) ms)
  | some _ => none

/-- The root with the open table filed in its place. -/
def close (t : Tree) : Option Members :=
  match t.place with
  | none => some t.opened
  | some (path, key) =>
    changeAt .implied
      (fun _ ms => if t.isElement then addElement key t.opened ms else some (put key (.table .header t.opened) ms))
      path .header t.root

/-- The value under a key of the table at the end of a path, looking into the last table of each list of tables. -/
def peek : List String → String → Members → Option Toml
  | [], key, ms => find? key ms
  | k :: rest, key, ms =>
    match find? k ms with
    | some (.table _ sub) => peek rest key sub
    | some (.tables (last :: _)) => peek rest key last
    | _ => none

/-- Carry out one statement. -/
def step (t : Tree) : Statement → Option Tree
  | .assign path key v => (insertAt path key v t.opened).map fun ms => { t with opened := ms }
  | .header path key => do
    let root ← t.close
    let root ← changeAt .implied (fun _ ms => some ms) path .header root
    match peek path key root with
    | none => return { root, place := some (path, key) }
    | some (.table .implied ms) =>
      let root ← changeAt .implied (fun _ ms => some (remove key ms)) path .header root
      return { root, place := some (path, key), opened := ms }
    | some _ => none
  | .element path key => do
    let root ← t.close
    let root ← changeAt .implied (fun _ ms => some ms) path .header root
    match peek path key root with
    | none | some (.tables _) => return { root, place := some (path, key), isElement := true }
    | some _ => none

end Tree

/-- The root table of some statements. -/
def ofStatements? (ss : List Statement) : Option Toml :=
  (ss.foldlM Tree.step {} >>= Tree.close).map (.table .header)

end SessionBroker.Toml
