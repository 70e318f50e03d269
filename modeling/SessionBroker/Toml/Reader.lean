import SessionBroker.Toml.Lexeme
import SessionBroker.Toml.Tree

/-!
# SessionBroker.Toml.Reader — reading TOML

* `keyPath`: a key, or several with dots between them.
* `value`: a value, inside at most `depthLimit` lists and tables in braces.
* `Toml.parse?`: the root table of a text.  Dates are not read.
-/

namespace SessionBroker.Toml

/-- The number of lists and tables in each other, and of keys in a dotted key, at which reading gives up. -/
def depthLimit : Nat := 80

def skipBlanks (cs : List Char) : List Char := cs.dropWhile isBlank

/-- Leave out a comment, if the text begins with one. -/
def skipComment : List Char → List Char
  | '#' :: rest => rest.dropWhile isTextChar
  | cs => cs

/-- Leave out white space, comments and line breaks. -/
def skipLines : Nat → List Char → List Char
  | 0, cs => cs
  | n + 1, cs =>
    let rest := skipComment (skipBlanks cs)
    match behindBreak? rest with
    | some rest => skipLines n rest
    | none => rest

/-- Behind the end of a line: blanks, a comment or none, and a line break or the end of the text. -/
def lineEnd? (cs : List Char) : Option (List Char) :=
  match skipComment (skipBlanks cs) with
  | [] => some []
  | rest => behindBreak? rest

/-- Whether a character may stand in a key without quotes. -/
def isKeyChar (c : Char) : Bool := c.isAlphanum || c == '_' || c == '-'

/-- One key. -/
def key? (cs : List Char) : Option (String × List Char) :=
  match cs with
  | '"' :: rest => (basic rest).map fun r => (.ofList r.1, r.2)
  | '\x27' :: rest => (literal rest).map fun r => (.ofList r.1, r.2)
  | _ =>
    let name := cs.takeWhile isKeyChar
    if name.isEmpty then none else some (.ofList name, cs.dropWhile isKeyChar)

/-- At most `n` keys with dots between them, and the blanks behind. -/
def keys? : Nat → List Char → Option (List String × List Char)
  | 0, _ => none
  | n + 1, cs =>
    match key? (skipBlanks cs) with
    | none => none
    | some (k, rest) =>
      match skipBlanks rest with
      | '.' :: rest => (keys? n rest).map fun r => (k :: r.1, r.2)
      | rest => some ([k], rest)

/-- A dotted key: the keys on the way, and the last one. -/
def keyPath (cs : List Char) : Option (List String × String × List Char) :=
  match keys? (depthLimit - 1) cs with
  | some (ks, rest) => ks.getLast?.map fun k => (ks.dropLast, k, rest)
  | none => none

/-- The characters that numbers and truth values are made of. -/
def isScalarChar (c : Char) : Bool := c.isAlphanum || c == '_' || c == '+' || c == '-' || c == '.'

/-- The items of a list and its closing bracket.  A comma may stand behind the last item. -/
def listItems (item : List Char → Option (Toml × List Char)) : Nat → List Char → Option (List Toml × List Char)
  | 0, _ => none
  | n + 1, cs =>
    match skipLines cs.length cs with
    | ']' :: rest => some ([], rest)
    | cs =>
      match item cs with
      | none => none
      | some (v, rest) =>
        match skipLines rest.length rest with
        | ',' :: rest => (listItems item n rest).map fun r => (v :: r.1, r.2)
        | ']' :: rest => some ([v], rest)
        | _ => none

/-- A key with its value. -/
def keyValue (item : List Char → Option (Toml × List Char)) (cs : List Char) :
    Option ((List String × String × Toml) × List Char) :=
  match keyPath cs with
  | some (path, key, '=' :: rest) => (item (skipBlanks rest)).map fun r => ((path, key, r.1), r.2)
  | _ => none

/-- The members of a table in braces and its closing brace, on one line. -/
def tableMembers (item : List Char → Option (Toml × List Char)) :
    Nat → List Char → Option (List (List String × String × Toml) × List Char)
  | 0, _ => none
  | n + 1, cs =>
    match keyValue item cs with
    | none => none
    | some (m, rest) =>
      match skipBlanks rest with
      | ',' :: rest => (tableMembers item n rest).map fun r => (m :: r.1, r.2)
      | '\x7d' :: rest => some ([m], rest)
      | _ => none

/-- The table of some members.  It is closed, and so are the tables that its dotted keys made. -/
def closedTable? (members : List (List String × String × Toml)) : Option Toml :=
  (members.foldlM (fun ms m => insertAt m.1 m.2.1 m.2.2 ms) []).map (.table .closed)

/-- A value, with lists and tables in braces at most `n - 1` deep. -/
def value : Nat → List Char → Option (Toml × List Char)
  | 0, _ => none
  | n + 1, cs =>
    match cs with
    | '"' :: _ | '\x27' :: _ => (string? cs).map fun r => (.text (.ofList r.1), r.2)
    | '[' :: rest =>
      if n = 0 then none else (listItems (value n) (rest.length + 1) rest).map fun r => (.list r.1, r.2)
    | '\x7b' :: rest =>
      if n = 0 then none
      else
        match skipBlanks rest with
        | '\x7d' :: rest => some (.table .closed [], rest)
        | rest =>
          match tableMembers (value n) rest.length rest with
          | some (ms, rest) => (closedTable? ms).map fun t => (t, rest)
          | none => none
    | _ => (scalar? (cs.takeWhile isScalarChar)).map fun v => (v, cs.dropWhile isScalarChar)

/-- The statement that a line begins with. -/
def statement? : List Char → Option (Statement × List Char)
  | '[' :: '[' :: rest =>
    match keyPath rest with
    | some (path, key, ']' :: ']' :: rest) => some (.element path key, rest)
    | _ => none
  | '[' :: rest =>
    match keyPath rest with
    | some (path, key, ']' :: rest) => some (.header path key, rest)
    | _ => none
  | cs => (keyValue (value depthLimit) cs).map fun r => (.assign r.1.1 r.1.2.1 r.1.2.2, r.2)

/-- The statements of at most `n` lines that hold one. -/
def statements? : Nat → List Char → Option (List Statement)
  | 0, _ => none
  | n + 1, cs =>
    match skipLines cs.length cs with
    | [] => some []
    | cs =>
      match statement? cs with
      | none => none
      | some (s, rest) =>
        match lineEnd? rest with
        | some rest => (statements? n rest).map (s :: ·)
        | none => none

/-- The text without a byte order mark at its beginning. -/
def withoutMark : List Char → List Char
  | '\ufeff' :: rest => rest
  | cs => cs

/-- The root table of a text. -/
def parse? (s : String) : Option Toml :=
  let cs := withoutMark s.toList
  statements? (cs.length + 1) cs >>= ofStatements?

end SessionBroker.Toml
