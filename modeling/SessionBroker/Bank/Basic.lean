import SessionBroker.Error

/-!
# SessionBroker.Bank.Basic — quota accounts

* `Bank.transfer`: moves the whole amount or refuses it, so no balance falls below zero or overflows.
* `Bank.move`: the same between references, where an invalid reference makes the move do nothing.
* `Bank.pay`: RAM and capability slots together, both or neither.
* `Guard`: a move that is undone unless it is kept.
-/

namespace SessionBroker

@[ext]
structure Account where
  name : String
  balance : Quota
  deriving DecidableEq

/-- An account is named by its place in the bank. -/
abbrev AccountId := Nat

/-- A reference to an account, possibly invalid. -/
abbrev AccountRef := Option AccountId

@[ext]
structure Bank where
  accounts : List Account := []
  deriving DecidableEq

namespace Bank

instance : Inhabited Bank := ⟨{}⟩

/-- The balance of an account; one that does not exist holds nothing. -/
def balance (b : Bank) (i : AccountId) : Quota := (b.accounts[i]?.map (·.balance)).getD 0

def available (b : Bank) (r : Resource) (i : AccountId) : Word := (b.balance i).get r

/-- Replace the amount of one resource on an account. -/
def setAvailable (b : Bank) (r : Resource) (i : AccountId) (w : Word) : Bank :=
  ⟨b.accounts.modify i fun a => { a with balance := a.balance.set w r }⟩

def name (b : Bank) (i : AccountId) : String := (b.accounts[i]?.map (·.name)).getD ""

def named? (b : Bank) (name : String) : AccountRef := b.accounts.findIdx? fun a => a.name == name

/-- Whether an account could pay a quota right now. -/
def covers (b : Bank) (i : AccountId) (q : Quota) : Bool := (b.balance i).covers q

/-- Move an amount of one resource.  A transfer within one account moves nothing and only asks for the amount. -/
def transfer (b : Bank) (r : Resource) (payer payee : AccountId) (amount : Word) : Except QuotaError Bank :=
  let held := b.available r payer
  if held < amount then .error (.insufficient r amount held)
  else if payer = payee then .ok b
  else
    match (b.available r payee).add? amount with
    | none => .error (.insufficient r amount held)
    | some credited => .ok ((b.setAvailable r payer (held.sub amount)).setAvailable r payee credited)

def move (b : Bank) (r : Resource) (payer payee : AccountRef) (amount : Word) : Except QuotaError Bank :=
  match payer, payee with
  | some i, some j => b.transfer r i j amount
  | _, _ => .ok b

/-- Move an amount if it can be moved. -/
def tryMove (b : Bank) (r : Resource) (payer payee : AccountRef) (amount : Word) : Bank :=
  match b.move r payer payee amount with
  | .ok b' => b'
  | .error _ => b

/-- Move RAM and capability slots, both or neither. -/
def pay (b : Bank) (payer payee : AccountRef) (q : Quota) : Except QuotaError Bank :=
  match b.move .ram payer payee q.ram with
  | .error e => .error e
  | .ok b₁ => b₁.move .caps payer payee q.caps

/-- Move RAM and capability slots, each if it can be moved. -/
def tryPay (b : Bank) (payer payee : AccountRef) (q : Quota) : Bank :=
  (b.tryMove .ram payer payee q.ram).tryMove .caps payer payee q.caps

end Bank

/-- A move that is undone when the guard is dropped. -/
@[ext]
structure Guard where
  resource : Resource
  payer : AccountRef
  payee : AccountRef
  amount : Word
  deriving DecidableEq

namespace Guard

/-- Make the move that the guard undoes. -/
def make (g : Guard) (b : Bank) : Except QuotaError Bank := b.move g.resource g.payer g.payee g.amount

/-- Undo the move, if the amount can be moved back. -/
def drop (g : Guard) (b : Bank) : Bank := b.tryMove g.resource g.payee g.payer g.amount

end Guard

end SessionBroker
