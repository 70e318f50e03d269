import SessionBroker.Bank.Basic
import SessionBroker.Table

/-!
# SessionBroker.Bank.Run — sequences of transfers and guards

* `Ledger`: a bank together with the guards that are held, each under a number.
* `Ledger.step`: one operation.  A guard made under a number in use takes the place of the old one, which is dropped.
* `Ledger.run`: a sequence of operations.
-/

namespace SessionBroker

/-- A bank and the guards that are held. -/
structure Ledger where
  bank : Bank
  held : Table Nat Guard := ∅

namespace Ledger

inductive Op where
  | move (r : Resource) (payer payee : AccountRef) (amount : Word)
  /-- Make a move that a guard under number `n` undoes. -/
  | guarded (n : Nat) (g : Guard)
  | keep (n : Nat)
  | drop (n : Nat)

inductive Reply where
  | done
  | refused (e : QuotaError)
  /-- No guard is held under the number. -/
  | noGuard
  deriving DecidableEq

def dropGuard (g : Option Guard) (b : Bank) : Bank :=
  match g with
  | some g => g.drop b
  | none => b

def step (l : Ledger) : Op → Reply × Ledger
  | .move r payer payee amount =>
    match l.bank.move r payer payee amount with
    | .ok b => (.done, { l with bank := b })
    | .error e => (.refused e, l)
  | .guarded n g =>
    match g.make l.bank with
    | .ok b => (.done, { bank := dropGuard (l.held.find? n) b, held := l.held.insert n g })
    | .error e => (.refused e, l)
  | .keep n => if l.held.contains n then (.done, { l with held := l.held.erase n }) else (.noGuard, l)
  | .drop n =>
    match l.held.find? n with
    | some g => (.done, { bank := g.drop l.bank, held := l.held.erase n })
    | none => (.noGuard, l)

def run (l : Ledger) (ops : List Op) : Ledger := ops.foldl (fun l op => (l.step op).2) l

end Ledger

end SessionBroker
