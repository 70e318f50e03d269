import SessionBroker.Json.Basic

/-!
# SessionBroker.Json.Printer — writing JSON

* `Json.compact`: without white space.
* `Json.pretty`: one entry a line, two blanks deeper in each list and object; empty ones stay on their line.
-/

namespace SessionBroker.Json

/-- A string in quotes. -/
def quoted (raw : List Char) : List Char := '"' :: raw ++ ['"']

def boolText (b : Bool) : List Char := if b then "true".toList else "false".toList

mutual

/-- The characters of a value without white space. -/
def chars : Json → List Char
  | .null => "null".toList
  | .bool b => boolText b
  | .number raw => raw
  | .string raw => quoted raw
  | .list items => '[' :: itemChars items ++ [']']
  | .object members => '\x7b' :: memberChars members ++ ['\x7d']

def itemChars : List Json → List Char
  | [] => []
  | v :: [] => chars v
  | v :: w :: rest => chars v ++ ',' :: itemChars (w :: rest)

def memberChars : List (List Char × Json) → List Char
  | [] => []
  | (k, v) :: [] => quoted k ++ ':' :: chars v
  | (k, v) :: m :: rest => quoted k ++ ':' :: (chars v ++ ',' :: memberChars (m :: rest))

end

/-- A value on one line without white space. -/
def compact (v : Json) : String := .ofList (chars v)

/-- A new line at a depth. -/
def newLine (depth : Nat) : List Char := '\n' :: List.replicate (2 * depth) ' '

mutual

/-- The characters of a value that stands at a depth, one entry a line. -/
def prettyChars (depth : Nat) : Json → List Char
  | .null => "null".toList
  | .bool b => boolText b
  | .number raw => raw
  | .string raw => quoted raw
  | .list [] => "[]".toList
  | .list (v :: rest) => '[' :: prettyItems (depth + 1) (v :: rest) ++ newLine depth ++ [']']
  | .object [] => ['\x7b', '\x7d']
  | .object (m :: rest) => '\x7b' :: prettyMembers (depth + 1) (m :: rest) ++ newLine depth ++ ['\x7d']

def prettyItems (depth : Nat) : List Json → List Char
  | [] => []
  | v :: [] => newLine depth ++ prettyChars depth v
  | v :: w :: rest => newLine depth ++ prettyChars depth v ++ ',' :: prettyItems depth (w :: rest)

def prettyMembers (depth : Nat) : List (List Char × Json) → List Char
  | [] => []
  | (k, v) :: [] => newLine depth ++ quoted k ++ ':' :: ' ' :: prettyChars depth v
  | (k, v) :: m :: rest =>
    newLine depth ++ quoted k ++ ':' :: ' ' :: (prettyChars depth v ++ ',' :: prettyMembers depth (m :: rest))

end

/-- A value with one entry a line. -/
def pretty (v : Json) : String := .ofList (prettyChars 0 v)

end SessionBroker.Json
