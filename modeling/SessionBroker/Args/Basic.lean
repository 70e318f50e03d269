import SessionBroker.Error
import SessionBroker.Label
import SessionBroker.Text.Basic

/-!
# SessionBroker.Args.Basic — session arguments

A session request carries a list of keys with values, such as `ram_quota=8K, cap_quota=4, label="app -> log"`.

* `Args.get?`: the value of a key without the quotes around it.
* `size?`: numbers with an optional factor `K`, `M` or `G`.
* `Args.quota`: the quota donated with the request.
-/

namespace SessionBroker

/-- The arguments of a session request, in the order they were given. -/
@[ext]
structure Args where
  entries : List (String × String) := []
  deriving DecidableEq

namespace Args

instance : Inhabited Args := ⟨{}⟩

def quotaKey : Resource → String
  | .ram => "ram_quota"
  | .caps => "cap_quota"

def labelKey : String := "label"

def diagKey : String := "diag"

/-- The text between the quotes, if it stands between two of them, else the text itself. -/
def unquote (v : String) : String :=
  match v.toList with
  | '"' :: rest => if rest.getLast? = some '"' then .ofList rest.dropLast else v
  | _ => v

/-- The factor that a last character stands for. -/
def factor? (c : Char) : Option Nat :=
  if c = 'K' ∨ c = 'k' then some 1024
  else if c = 'M' ∨ c = 'm' then some 1048576
  else if c = 'G' ∨ c = 'g' then some 1073741824
  else none

/-- The digits of a number, after an optional plus sign. -/
def plain? : List Char → Option Word
  | '+' :: cs => Text.word? cs
  | cs => Text.word? cs

/-- The amount that a text denotes: a number, with an optional factor behind it, that fits in 64 bits. -/
def size? (v : String) : Option Word :=
  let cs := Text.trim v.toList
  match cs.getLast?.bind factor? with
  | some k => plain? (Text.trim cs.dropLast) >>= fun n => Word.ofNat? (n.val * k)
  | none => plain? cs

/-- The value of a key as it was written. -/
def raw? (a : Args) (key : String) : Option String := (a.entries.find? fun e => e.1 == key).map (·.2)

/-- The value of a key, without the quotes around it. -/
def get? (a : Args) (key : String) : Option String := (a.raw? key).map unquote

def contains (a : Args) (key : String) : Bool := a.entries.any fun e => e.1 == key

/-- The value of a key as an amount, `default` if the key is absent. -/
def amount (a : Args) (key : String) (default : Word) : Except ArgsError Word :=
  match a.get? key with
  | none => .ok default
  | some v =>
    match size? v with
    | some n => .ok n
    | none => .error (.invalidValue key v)

def donation (a : Args) (r : Resource) : Except ArgsError Word := a.amount (quotaKey r) 0

def quota (a : Args) : Except ArgsError Quota := do
  let ram ← a.donation .ram
  let caps ← a.donation .caps
  return ⟨ram, caps⟩

/-- The label of the requester, empty if absent. -/
def label (a : Args) : Label := ((a.get? labelKey).map Label.mk).getD .empty

def diag (a : Args) : Bool :=
  match a.get? diagKey with
  | some v => ["yes", "true", "1"].contains (String.ofList (v.toList.map Char.toLower))
  | none => false

/-- Replace the value of the first entry with the key. -/
def replaceFirst (key value : String) : List (String × String) → Option (List (String × String))
  | [] => none
  | e :: rest =>
    if e.1 == key then some ((e.1, value) :: rest) else (replaceFirst key value rest).map (e :: ·)

/-- Set a key, in the place of its first entry or else at the end. -/
def set (a : Args) (key value : String) : Args :=
  ⟨(replaceFirst key value a.entries).getD (a.entries ++ [(key, value)])⟩

def setAmount (a : Args) (key : String) (w : Word) : Args := a.set key (.ofList (Text.digits w.val))

/-- Set the label, in quotes. -/
def setLabel (a : Args) (l : Label) : Args := a.set labelKey ("\"" ++ l.text ++ "\"")

/-- Remove every entry with the key. -/
def remove (a : Args) (key : String) : Args := ⟨a.entries.filter fun e => e.1 != key⟩

def size (a : Args) : Nat := a.entries.length

/-- The arguments that carry an upgrade. -/
def upgrade (q : Quota) : Args :=
  (({} : Args).setAmount (quotaKey .ram) q.ram).setAmount (quotaKey .caps) q.caps

end Args

end SessionBroker
