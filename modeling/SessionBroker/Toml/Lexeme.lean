import SessionBroker.Text.Basic
import SessionBroker.Text.Magnitude
import SessionBroker.Toml.Basic

/-!
# SessionBroker.Toml.Lexeme — the strings and numbers of TOML

* `basic`, `literal`: strings on one line, with and without escapes, read from behind the opening quote.
* `multiBasic`, `multiLiteral`: strings over several lines.  A line break counts as one `\n`, one right behind the
  opening quotes counts as nothing, and up to two quotes may stand in front of the closing ones.
* `scalar?`: the integer, float or truth value that a run of characters writes.
-/

namespace SessionBroker.Toml

/-- Whether a character may stand in a comment, or unescaped in a string. -/
def isTextChar (c : Char) : Bool := c == '\t' || (32 ≤ c.toNat && c.toNat != 127)

/-- White space within a line. -/
def isBlank (c : Char) : Bool := c == ' ' || c == '\t'

/-- Behind a line break, if the text begins with one. -/
def behindBreak? : List Char → Option (List Char)
  | '\n' :: rest => some rest
  | '\r' :: '\n' :: rest => some rest
  | _ => none

/-- The character that a letter behind a backslash denotes. -/
def escaped? : Char → Option Char
  | '"' => some '"'
  | '\\' => some '\\'
  | 'b' => some '\x08'
  | 'f' => some '\x0c'
  | 'n' => some '\n'
  | 'r' => some '\r'
  | 't' => some '\t'
  | _ => none

/-- The character of a code point, which must not be half of a pair. -/
def codePoint? (digits : List Char) : Option Char :=
  match Text.hexNumber? digits with
  | some n => if h : n.isValidChar then some (Char.ofNatAux n h) else none
  | none => none

/-- Put a character in front of what the rest of a string reads as. -/
def withChar (c : Char) (r : Option (List Char × List Char)) : Option (List Char × List Char) :=
  r.map fun p => (c :: p.1, p.2)

/-- A string with escapes, up to its closing quote. -/
def basic : List Char → Option (List Char × List Char)
  | [] => none
  | '"' :: rest => some ([], rest)
  | '\\' :: 'u' :: a :: b :: c :: d :: rest => codePoint? [a, b, c, d] >>= fun x => withChar x (basic rest)
  | '\\' :: 'U' :: a :: b :: c :: d :: e :: f :: g :: h :: rest =>
    codePoint? [a, b, c, d, e, f, g, h] >>= fun x => withChar x (basic rest)
  | '\\' :: e :: rest => escaped? e >>= fun x => withChar x (basic rest)
  | c :: rest => if isTextChar c then withChar c (basic rest) else none

/-- A string without escapes, up to its closing quote. -/
def literal : List Char → Option (List Char × List Char)
  | [] => none
  | '\x27' :: rest => some ([], rest)
  | c :: rest => if isTextChar c then withChar c (literal rest) else none

/-- A string with escapes over several lines.  With `skip`, blanks and line breaks are left out until the next other
character. -/
def multiBasicFrom (skip : Bool) : List Char → Option (List Char × List Char)
  | [] => none
  | '"' :: '"' :: '"' :: '"' :: '"' :: rest => some (['"', '"'], rest)
  | '"' :: '"' :: '"' :: '"' :: rest => some (['"'], rest)
  | '"' :: '"' :: '"' :: rest => some ([], rest)
  | '\\' :: 'u' :: a :: b :: c :: d :: rest =>
    codePoint? [a, b, c, d] >>= fun x => withChar x (multiBasicFrom false rest)
  | '\\' :: 'U' :: a :: b :: c :: d :: e :: f :: g :: h :: rest =>
    codePoint? [a, b, c, d, e, f, g, h] >>= fun x => withChar x (multiBasicFrom false rest)
  | '\\' :: e :: rest =>
    match escaped? e with
    | some x => withChar x (multiBasicFrom false rest)
    | none =>
      if (behindBreak? ((e :: rest).dropWhile isBlank)).isSome then multiBasicFrom true (e :: rest) else none
  | '\r' :: '\n' :: rest => if skip then multiBasicFrom true rest else withChar '\n' (multiBasicFrom false rest)
  | '\n' :: rest => if skip then multiBasicFrom true rest else withChar '\n' (multiBasicFrom false rest)
  | c :: rest =>
    if skip && isBlank c then multiBasicFrom true rest
    else if isTextChar c then withChar c (multiBasicFrom false rest)
    else none

/-- A string without escapes over several lines. -/
def multiLiteralFrom : List Char → Option (List Char × List Char)
  | [] => none
  | '\x27' :: '\x27' :: '\x27' :: '\x27' :: '\x27' :: rest => some (['\x27', '\x27'], rest)
  | '\x27' :: '\x27' :: '\x27' :: '\x27' :: rest => some (['\x27'], rest)
  | '\x27' :: '\x27' :: '\x27' :: rest => some ([], rest)
  | '\r' :: '\n' :: rest => withChar '\n' (multiLiteralFrom rest)
  | '\n' :: rest => withChar '\n' (multiLiteralFrom rest)
  | c :: rest => if isTextChar c then withChar c (multiLiteralFrom rest) else none

/-- A string with escapes over several lines, from behind its opening quotes. -/
def multiBasic (cs : List Char) : Option (List Char × List Char) :=
  multiBasicFrom false ((behindBreak? cs).getD cs)

/-- A string without escapes over several lines, from behind its opening quotes. -/
def multiLiteral (cs : List Char) : Option (List Char × List Char) :=
  multiLiteralFrom ((behindBreak? cs).getD cs)

/-- The string that a text begins with. -/
def string? : List Char → Option (List Char × List Char)
  | '"' :: '"' :: '"' :: rest => multiBasic rest
  | '"' :: rest => basic rest
  | '\x27' :: '\x27' :: '\x27' :: rest => multiLiteral rest
  | '\x27' :: rest => literal rest
  | _ => none

/-! ### Numbers -/

/-- The digits without the underscores between them.  Each underscore stands between two digits. -/
def ungroup? (isDigit : Char → Bool) : List Char → Option (List Char)
  | [] => none
  | [c] => if isDigit c then some [c] else none
  | c :: '_' :: rest => if isDigit c then (ungroup? isDigit rest).map (c :: ·) else none
  | c :: rest => if isDigit c then (ungroup? isDigit rest).map (c :: ·) else none

/-- The decimal digits of a whole part: zero alone, or digits that do not begin with zero. -/
def whole? (cs : List Char) : Option (List Char) :=
  match ungroup? Char.isDigit cs with
  | some ['0'] => some ['0']
  | some ('0' :: _) => none
  | ds => ds

/-- Whether a character is a digit in the given base, at most 16. -/
def isDigitIn (base : Nat) (c : Char) : Bool := (Text.hexValue? c).any (· < base)

/-- The number of digits in a base, which has to fit in 63 bits. -/
def based? (base : Nat) (cs : List Char) : Option Toml :=
  match ungroup? (isDigitIn base) cs with
  | some ds =>
    let n := ds.foldl (fun acc c => acc * base + (Text.hexValue? c).getD 0) 0
    if n < 0x8000000000000000 then some (.int n) else none
  | none => none

/-- The sign in front of a number, and the rest. -/
def signed : List Char → Bool × List Char
  | '-' :: rest => (true, rest)
  | '+' :: rest => (false, rest)
  | cs => (false, cs)

/-- The decimal integer that a text is, which has to fit in 64 bits with its sign. -/
def integer? (cs : List Char) : Option Toml :=
  let (negative, rest) := signed cs
  match whole? rest with
  | some ds =>
    let n := Nat.ofDigitChars 10 ds 0
    if negative then (if n ≤ 0x8000000000000000 then some (.int (-(n : Int))) else none)
    else (if n < 0x8000000000000000 then some (.int n) else none)
  | none => none

/-- Whether the text is an exponent: a mark, a sign or none, and digits. -/
def isExponent : List Char → Bool
  | c :: rest => (c == 'e' || c == 'E') && (ungroup? Char.isDigit (signed rest).2).isSome
  | [] => false

def isGrouped (c : Char) : Bool := c.isDigit || c == '_'

/-- Whether the text is a float without sign: a whole part with a fraction, an exponent or both. -/
def isUnsignedFloat (cs : List Char) : Bool :=
  (whole? (cs.takeWhile isGrouped)).isSome &&
    match cs.dropWhile isGrouped with
    | '.' :: rest =>
      (ungroup? Char.isDigit (rest.takeWhile isGrouped)).isSome &&
        ((rest.dropWhile isGrouped).isEmpty || isExponent (rest.dropWhile isGrouped))
    | rest => isExponent rest

/-- The float that a text is.  A positive one must not be too large. -/
def float? (cs : List Char) : Option Toml :=
  let (negative, rest) := signed cs
  if rest = "inf".toList ∨ rest = "nan".toList then some .real
  else if isUnsignedFloat rest then
    if !negative && (Text.Decimal.ofText (rest.filter (· != '_'))).exceedsDouble then none else some .real
  else none

/-- The integer, float or truth value that a run of characters writes. -/
def scalar? (cs : List Char) : Option Toml :=
  if cs = "true".toList then some (.bool true)
  else if cs = "false".toList then some (.bool false)
  else
    match cs with
    | '0' :: 'x' :: ds => based? 16 ds
    | '0' :: 'o' :: ds => based? 8 ds
    | '0' :: 'b' :: ds => based? 2 ds
    | _ => (integer? cs).or (float? cs)

end SessionBroker.Toml
