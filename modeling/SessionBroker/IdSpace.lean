import SessionBroker.Error
import SessionBroker.Table

/-!
# SessionBroker.IdSpace — small integer ids

Ids cross the trust boundary, entries never do.  The ids of requests we serve are chosen by the parent, the ids of
requests we issue are allocated here, and the two sides have different types.

* `IdSpace.alloc`: the first free id at or after the cursor, in cyclic order.
* `IdSpace.insert`: an id chosen by the peer.
-/

namespace SessionBroker

/-- The side of an id: requests we serve, or requests we issue. -/
inductive Side where
  | server
  | client
  deriving DecidableEq, Repr

/-- A small integer id, valid within one space of its side. -/
@[ext]
structure Ident (side : Side) where
  num : Word
  deriving DecidableEq

/-- The id of a session request of the parent. -/
abbrev ServerId := Ident .server

/-- The id of a request issued to a provider. -/
abbrev ClientId := Ident .client

namespace Ident

variable {side : Side}

instance : Ord (Ident side) := ⟨fun a b => compare a.num b.num⟩

instance : Std.TransOrd (Ident side) where
  eq_swap := Std.OrientedOrd.eq_swap (α := Word)
  isLE_trans := Std.TransOrd.isLE_trans (α := Word)

instance : Std.LawfulEqOrd (Ident side) where
  compare_self := Std.ReflOrd.compare_self (α := Word)
  eq_of_compare h := Ident.ext (Std.LawfulEqOrd.eq_of_compare (α := Word) h)

instance : Inhabited (Ident side) := ⟨⟨0⟩⟩

/-- The following id, zero after the largest. -/
def succ (i : Ident side) : Ident side := ⟨i.num.succ⟩

end Ident

/-- A namespace of ids with an entry for each id in use, and the cursor of the next allocation. -/
structure IdSpace (side : Side) (α : Type) where
  table : Table (Ident side) α := ∅
  cursor : Ident side := ⟨0⟩
  /-- The number of allocations so far. -/
  allocs : Nat := 0

namespace IdSpace

variable {side : Side} {α : Type}

def empty : IdSpace side α := {}

instance : Inhabited (IdSpace side α) := ⟨empty⟩

def find? (s : IdSpace side α) (i : Ident side) : Option α := s.table.find? i

def contains (s : IdSpace side α) (i : Ident side) : Bool := s.table.contains i

def size (s : IdSpace side α) : Nat := s.table.size

def isEmpty (s : IdSpace side α) : Bool := s.table.entries.isEmpty

def ids (s : IdSpace side α) : List (Ident side) := s.table.keys

def entries (s : IdSpace side α) : List (Ident side × α) := s.table.entries

/-- The first id that passes `free` at or cyclically after `i`, after at most `n` steps. -/
def firstFree (free : Ident side → Bool) : Nat → Ident side → Ident side
  | 0, i => i
  | n + 1, i => if free i then i else firstFree free n i.succ

/-- The id that the next allocation takes.  Among one more id than are in use, one is free, so the search is long
enough while fewer than `2 ^ 64` ids are in use. -/
def nextFree (s : IdSpace side α) : Ident side := firstFree (fun i => !s.contains i) s.size s.cursor

/-- Put an entry under a fresh id, and move the cursor past it. -/
def alloc (s : IdSpace side α) (v : α) : Ident side × IdSpace side α :=
  let i := s.nextFree
  (i, { table := s.table.insert i v, cursor := i.succ, allocs := s.allocs + 1 })

/-- Put an entry under an id chosen by the peer. -/
def insert (s : IdSpace side α) (i : Ident side) (v : α) : Except ProtocolError (IdSpace side α) :=
  if s.contains i then .error (.conflictingId i.num) else .ok { s with table := s.table.insert i v }

/-- Change the entry of an id, if the id is in use. -/
def modify (s : IdSpace side α) (i : Ident side) (f : α → α) : IdSpace side α :=
  { s with table := s.table.modify i f }

/-- Change every entry. -/
def map (s : IdSpace side α) (f : Ident side → α → α) : IdSpace side α := { s with table := s.table.map f }

def erase (s : IdSpace side α) (i : Ident side) : IdSpace side α := { s with table := s.table.erase i }

end IdSpace

end SessionBroker
