import SessionBroker.Text.Basic

/-!
# SessionBroker.Json.Quoted — the characters between the quotes of a JSON string

* `scan`: the raw text up to the closing quote.  It checks the form of each escape, not what the escape means.
* `decode?`: the characters that a raw text denotes.  The two halves of a character beyond `U+FFFF` have to pair up.
* `encode`: a raw text, with escapes for quotes, backslashes and control characters only.
-/

namespace SessionBroker.Json.Quoted

/-- The number that four hexadecimal digits denote. -/
def unit? (a b c d : Char) : Option Nat := Text.hexNumber? [a, b, c, d]

/-- The character that a letter behind a backslash denotes. -/
def escaped? : Char → Option Char
  | '"' => some '"'
  | '\\' => some '\\'
  | '/' => some '/'
  | 'b' => some '\x08'
  | 'f' => some '\x0c'
  | 'n' => some '\n'
  | 'r' => some '\r'
  | 't' => some '\t'
  | _ => none

/-- The raw text up to the closing quote, and what follows the quote. -/
def scan : List Char → Option (List Char × List Char)
  | [] => none
  | '"' :: rest => some ([], rest)
  | '\\' :: 'u' :: a :: b :: c :: d :: rest =>
    match unit? a b c d with
    | some _ => (scan rest).map fun r => ('\\' :: 'u' :: a :: b :: c :: d :: r.1, r.2)
    | none => none
  | '\\' :: e :: rest =>
    match escaped? e with
    | some _ => (scan rest).map fun r => ('\\' :: e :: r.1, r.2)
    | none => none
  | c :: rest => if c.toNat < 32 then none else (scan rest).map fun r => (c :: r.1, r.2)

/-- Whether a unit is the first half of a character beyond `U+FFFF`. -/
def isHigh (n : Nat) : Bool := 0xD800 ≤ n && n < 0xDC00

/-- Whether a unit is the second half of a character beyond `U+FFFF`. -/
def isLow (n : Nat) : Bool := 0xDC00 ≤ n && n < 0xE000

/-- The character of two halves. -/
def paired (high low : Nat) : Char := Char.ofNat (0x10000 + (high - 0xD800) * 0x400 + (low - 0xDC00))

/-- The characters that a raw text denotes.  A first half waits in `high` for the second. -/
def decodeFrom (high : Option Nat) : List Char → Option (List Char)
  | [] => if high.isNone then some [] else none
  | '\\' :: 'u' :: a :: b :: c :: d :: rest =>
    match unit? a b c d, high with
    | none, _ => none
    | some n, some h => if isLow n then (decodeFrom none rest).map (paired h n :: ·) else none
    | some n, none =>
      if isHigh n then decodeFrom (some n) rest
      else if isLow n then none
      else (decodeFrom none rest).map (Char.ofNat n :: ·)
  | '\\' :: e :: rest =>
    match escaped? e, high with
    | some c, none => (decodeFrom none rest).map (c :: ·)
    | _, _ => none
  | c :: rest => if high.isNone then (decodeFrom none rest).map (c :: ·) else none

def decode? (raw : List Char) : Option (List Char) := decodeFrom none raw

def encodeChar (c : Char) : List Char :=
  match c with
  | '"' => ['\\', '"']
  | '\\' => ['\\', '\\']
  | '\x08' => ['\\', 'b']
  | '\x0c' => ['\\', 'f']
  | '\n' => ['\\', 'n']
  | '\r' => ['\\', 'r']
  | '\t' => ['\\', 't']
  | c => if c.toNat < 32 then '\\' :: 'u' :: Text.hexDigits 4 c.toNat else [c]

def encode (cs : List Char) : List Char := cs.flatMap encodeChar

theorem length_scan {cs raw rest : List Char} (h : scan cs = some (raw, rest)) : rest.length < cs.length := by
  fun_induction scan cs generalizing raw rest with
  | case1 => cases h
  | case2 r => cases h; simp
  | case3 a b c d r n hn ih =>
    obtain ⟨p, hp, he⟩ := Option.map_eq_some_iff.1 h
    cases he
    have := ih hp
    simp only [List.length_cons]
    omega
  | case4 => cases h
  | case5 e r _ c hc ih =>
    obtain ⟨p, hp, he⟩ := Option.map_eq_some_iff.1 h
    cases he
    have := ih hp
    simp only [List.length_cons]
    omega
  | case6 => cases h
  | case7 => cases h
  | case8 c r _ _ _ _ ih =>
    obtain ⟨p, hp, he⟩ := Option.map_eq_some_iff.1 h
    cases he
    have := ih hp
    simp only [List.length_cons]
    omega

end SessionBroker.Json.Quoted
