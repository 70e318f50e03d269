import SessionBroker.Json.Basic

/-!
# SessionBroker.Json.Reader — reading JSON

* `Token.scan`: the tokens of a text.
* `State.step`: what one token does to the value under construction.  Open lists and objects wait on a stack, so
  values may be nested to any depth.
* `Json.parse?`: the value of a text that holds one value and nothing else.
-/

namespace SessionBroker.Json

inductive Token where
  | openList
  | closeList
  | openObject
  | closeObject
  | comma
  | colon
  | null
  | bool (b : Bool)
  | number (raw : List Char)
  | string (raw : List Char)
  deriving DecidableEq

namespace Token

/-- The white space of JSON. -/
def isBlank (c : Char) : Bool := c == ' ' || c == '\n' || c == '\r' || c == '\t'

/-- The characters that numbers are made of. -/
def isNumeric (c : Char) : Bool := c.isDigit || c == '-' || c == '+' || c == '.' || c == 'e' || c == 'E'

/-- Whether the rest of a number may end here: nothing, or an exponent of at least one digit. -/
def isExponent : List Char → Bool
  | [] => true
  | c :: rest =>
    (c == 'e' || c == 'E') &&
      match rest with
      | '+' :: ds | '-' :: ds => !ds.isEmpty && ds.all Char.isDigit
      | ds => !ds.isEmpty && ds.all Char.isDigit

/-- Whether the text is a fraction of at least one digit, or nothing, with an exponent behind it, or nothing. -/
def isFraction : List Char → Bool
  | '.' :: rest => !(rest.takeWhile Char.isDigit).isEmpty && isExponent (rest.dropWhile Char.isDigit)
  | rest => isExponent rest

/-- Whether the text is a number without sign.  A whole part of several digits does not begin with zero. -/
def isUnsigned : List Char → Bool
  | '0' :: rest => isFraction rest
  | c :: rest => c.isDigit && isFraction (rest.dropWhile Char.isDigit)
  | [] => false

def isNumber : List Char → Bool
  | '-' :: rest => isUnsigned rest
  | cs => isUnsigned cs

/-- The token that a text of letters is. -/
def ofWord? (cs : List Char) : Option Token :=
  if cs = "null".toList then some .null
  else if cs = "true".toList then some (.bool true)
  else if cs = "false".toList then some (.bool false)
  else none

/-- The token of a single punctuation mark. -/
def ofMark? : Char → Option Token
  | '[' => some .openList
  | ']' => some .closeList
  | '\x7b' => some .openObject
  | '\x7d' => some .closeObject
  | ',' => some .comma
  | ':' => some .colon
  | _ => none

/-- The first token of a text that does not begin with a blank, and the rest. -/
def first? (c : Char) (cs : List Char) : Option (Token × List Char) :=
  match ofMark? c with
  | some t => some (t, cs)
  | none =>
    if c = '"' then (Quoted.scan cs).map fun r => (.string r.1, r.2)
    else if isNumeric c then
      let raw := c :: cs.takeWhile isNumeric
      if isNumber raw then some (.number raw, cs.dropWhile isNumeric) else none
    else (ofWord? (c :: cs.takeWhile Char.isAlpha)).map fun t => (t, cs.dropWhile Char.isAlpha)

theorem length_dropWhile_le (p : Char → Bool) : ∀ cs : List Char, (cs.dropWhile p).length ≤ cs.length
  | [] => by simp
  | c :: cs => by
    rw [List.dropWhile_cons]
    split
    · have := length_dropWhile_le p cs
      simp only [List.length_cons]
      omega
    · exact Nat.le_refl _

theorem length_first? {c : Char} {cs rest : List Char} {t : Token} (h : first? c cs = some (t, rest)) :
    rest.length ≤ cs.length := by
  unfold first? at h
  split at h
  · cases h
    exact Nat.le_refl _
  · split at h
    · obtain ⟨p, hp, he⟩ := Option.map_eq_some_iff.1 h
      cases he
      exact Nat.le_of_lt (Quoted.length_scan hp)
    · split at h
      · dsimp only at h
        split at h
        · cases h
          exact length_dropWhile_le _ _
        · cases h
      · obtain ⟨p, hp, he⟩ := Option.map_eq_some_iff.1 h
        cases he
        exact length_dropWhile_le _ _

def scan : List Char → Option (List Token)
  | [] => some []
  | c :: cs =>
    if isBlank c then scan cs
    else
      match _h : first? c cs with
      | none => none
      | some (t, rest) => (scan rest).map (t :: ·)
termination_by cs => cs.length
decreasing_by
  · simp
  · have := length_first? _h
    simp only [List.length_cons]
    omega

end Token

/-- A list or an object under construction, its last entry first. -/
inductive Partial where
  | list (items : List Json)
  | object (members : List (List Char × Json))

/-- A list or an object that waits for a value, which an object files under a name. -/
inductive Frame where
  | list (items : List Json)
  | object (members : List (List Char × Json)) (name : List Char)

/-- File a value in the place that waits for it. -/
def Frame.file (v : Json) : Frame → Partial
  | .list items => .list (v :: items)
  | .object members name => .object ((name, v) :: members)

/-- What the reader expects next, inside the open lists and objects. -/
inductive State where
  /-- A value. -/
  | value (stack : List Frame)
  /-- The first entry, or the end of what was just opened. -/
  | opened (p : Partial) (stack : List Frame)
  /-- A comma or the end, behind an entry. -/
  | after (p : Partial) (stack : List Frame)
  /-- The name of a member. -/
  | member (members : List (List Char × Json)) (stack : List Frame)
  /-- The colon behind a name. -/
  | colon (members : List (List Char × Json)) (name : List Char) (stack : List Frame)
  /-- Nothing: the value is complete. -/
  | done (v : Json)

namespace State

/-- Hand a complete value to the innermost open list or object. -/
def give (v : Json) : List Frame → State
  | [] => .done v
  | f :: stack => .after (f.file v) stack

def start (stack : List Frame) : Token → Option State
  | .null => some (give .null stack)
  | .bool b => some (give (.bool b) stack)
  | .number raw => some (give (.number raw) stack)
  | .string raw => some (give (.string raw) stack)
  | .openList => some (.opened (.list []) stack)
  | .openObject => some (.opened (.object []) stack)
  | _ => none

def step : State → Token → Option State
  | .value stack, t => start stack t
  | .opened (.list items) stack, .closeList => some (give (.list items.reverse) stack)
  | .opened (.list items) stack, t => start (.list items :: stack) t
  | .opened (.object members) stack, .closeObject => some (give (.object members.reverse) stack)
  | .opened (.object members) stack, .string raw => some (.colon members raw stack)
  | .after (.list items) stack, .comma => some (.value (.list items :: stack))
  | .after (.list items) stack, .closeList => some (give (.list items.reverse) stack)
  | .after (.object members) stack, .comma => some (.member members stack)
  | .after (.object members) stack, .closeObject => some (give (.object members.reverse) stack)
  | .member members stack, .string raw => some (.colon members raw stack)
  | .colon members name stack, .colon => some (.value (.object members name :: stack))
  | _, _ => none

def result? : State → Option Json
  | .done v => some v
  | _ => none

end State

/-- The value that a list of tokens writes. -/
def ofTokens? (ts : List Token) : Option Json := ts.foldlM State.step (.value []) >>= State.result?

/-- The value that a text writes. -/
def parse? (s : String) : Option Json := Token.scan s.toList >>= ofTokens?

end SessionBroker.Json
