import SessionBroker.Args.Basic
import SessionBroker.Text.Basic

/-!
# SessionBroker.Args.Parser — the written form of session arguments

* `Args.pieces`: a text cut at the commas outside quotes.
* `Args.parse`: the arguments of a text, one for each piece that is not blank.
* `Args.text`: the written form.
-/

namespace SessionBroker.Args

def isKeyChar (c : Char) : Bool := c.isAlphanum || c == '_'

/-- Put a character in front of the first piece. -/
def extend (c : Char) : List (List Char) → List (List Char)
  | [] => [[c]]
  | p :: ps => (c :: p) :: ps

/-- The pieces of a text between the commas outside quotes, and whether the text ends inside quotes. -/
def pieces (quoted : Bool) : List Char → List (List Char) × Bool
  | [] => ([[]], quoted)
  | c :: cs =>
    if c = ',' ∧ quoted = false then
      let r := pieces false cs
      ([] :: r.1, r.2)
    else
      let r := pieces (quoted ^^ (c == '"')) cs
      (extend c r.1, r.2)

/-- The entry that a piece writes; a blank piece writes none. -/
def entry? (piece : List Char) : Except ArgsError (Option (String × String)) :=
  let text := Text.trim piece
  if text = [] then .ok none
  else
    match Text.breakAt? '=' text with
    | none => .error (.malformed (.ofList text))
    | some (before, after) =>
      let key := Text.trim before
      if key ≠ [] ∧ key.all isKeyChar then .ok (some (.ofList key, .ofList (Text.trim after)))
      else .error (.malformed (.ofList text))

/-- The entries that a list of pieces writes, up to the first fault. -/
def collect : List (List Char) → Except ArgsError (List (String × String))
  | [] => .ok []
  | p :: ps =>
    match entry? p with
    | .error e => .error e
    | .ok none => collect ps
    | .ok (some e) => (collect ps).map (e :: ·)

def parse (input : String) : Except ArgsError Args :=
  match pieces false input.toList with
  | (_, true) => .error (.malformed input)
  | (ps, false) => (collect ps).map Args.mk

def entryText (e : String × String) : List Char := e.1.toList ++ '=' :: e.2.toList

/-- The written forms of some entries, with a comma and a blank between two of them. -/
def entriesText : List (String × String) → List Char
  | [] => []
  | [e] => entryText e
  | e :: rest => entryText e ++ ',' :: ' ' :: entriesText rest

def text (a : Args) : String := .ofList (entriesText a.entries)

end SessionBroker.Args
