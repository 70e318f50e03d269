import SessionBroker.Word

/-!
# SessionBroker.Text.Basic — blanks, cuts and numbers in texts

* `isBlank`: the characters with the Unicode property `White_Space`; `trim` takes them from the two ends of a text.
* `beforeFirst`, `afterLast`: the text before the first and after the last place where a separator stands.
* `breakAt?`: the text before and after the first occurrence of a character.
* `digits`: the decimal text of a number.
* `number?`: the number that one or more ASCII digits denote; `word?` also asks that it fits in 64 bits.
* `number?_digits`: reading undoes writing.
* `hexNumber?`: the number that hexadecimal digits in either case denote, most significant first.
* `hexDigits`: the last hexadecimal digits of a number, in lower case.
-/

namespace SessionBroker.Text

/-! ### White space -/

/-- The ranges of code points with the property `White_Space`. -/
def blankRanges : List (Nat × Nat) :=
  [(0x9, 0xD), (0x20, 0x20), (0x85, 0x85), (0xA0, 0xA0), (0x1680, 0x1680), (0x2000, 0x200A), (0x2028, 0x2029),
    (0x202F, 0x202F), (0x205F, 0x205F), (0x3000, 0x3000)]

/-- Whether a character is white space. -/
def isBlank (c : Char) : Bool := blankRanges.any fun r => r.1 ≤ c.toNat && c.toNat ≤ r.2

def trimStart (cs : List Char) : List Char := cs.dropWhile isBlank

def trimEnd (cs : List Char) : List Char := (cs.reverse.dropWhile isBlank).reverse

def trim (cs : List Char) : List Char := trimEnd (trimStart cs)

/-! ### Cutting at a separator -/

/-- The text before the leftmost occurrence of `sep`, or the whole text if there is none. -/
def beforeFirst (sep : List Char) : List Char → List Char
  | [] => []
  | c :: cs => if sep.isPrefixOf (c :: cs) then [] else c :: beforeFirst sep cs

/-- The text after the rightmost occurrence of a non-empty `sep`, if there is one. -/
def afterLast? (sep : List Char) : List Char → Option (List Char)
  | [] => none
  | c :: cs =>
    match afterLast? sep cs with
    | some rest => some rest
    | none => if sep.isPrefixOf (c :: cs) then some ((c :: cs).drop sep.length) else none

/-- The text after the rightmost occurrence of `sep`, or the whole text if there is none. -/
def afterLast (sep cs : List Char) : List Char := (afterLast? sep cs).getD cs

/-- The text before and after the first `sep`, if there is one. -/
def breakAt? (sep : Char) : List Char → Option (List Char × List Char)
  | [] => none
  | c :: cs => if c = sep then some ([], cs) else (breakAt? sep cs).map fun p => (c :: p.1, p.2)

/-! ### Decimal numbers -/

def digits (n : Nat) : List Char := Nat.toDigits 10 n

/-- The number denoted by one or more ASCII digits. -/
def number? (cs : List Char) : Option Nat :=
  if cs ≠ [] ∧ cs.all Char.isDigit then some (Nat.ofDigitChars 10 cs 0) else none

/-- The word denoted by one or more ASCII digits, if the number fits. -/
def word? (cs : List Char) : Option Word := number? cs >>= Word.ofNat?

theorem isDigit_of_mem_digits {n : Nat} {c : Char} (h : c ∈ digits n) : c.isDigit = true :=
  Nat.isDigit_of_mem_toDigits (by decide) (by decide) h

@[simp] theorem number?_digits (n : Nat) : number? (digits n) = some n := by
  have h : (digits n).all Char.isDigit = true := List.all_eq_true.2 fun c hc => isDigit_of_mem_digits hc
  rw [number?, if_pos ⟨Nat.toDigits_ne_nil, h⟩, digits, Nat.ofDigitChars_ten_toDigits]

/-! ### Hexadecimal numbers -/

/-- The value of a hexadecimal digit in either case. -/
def hexValue? (c : Char) : Option Nat :=
  if '0' ≤ c ∧ c ≤ '9' then some (c.toNat - 48)
  else if 'a' ≤ c ∧ c ≤ 'f' then some (c.toNat - 87)
  else if 'A' ≤ c ∧ c ≤ 'F' then some (c.toNat - 55)
  else none

/-- The number that hexadecimal digits denote, behind the digits of `acc`. -/
def hexNumberFrom? (acc : Nat) : List Char → Option Nat
  | [] => some acc
  | c :: cs =>
    match hexValue? c with
    | some v => hexNumberFrom? (acc * 16 + v) cs
    | none => none

/-- The number that hexadecimal digits denote. -/
def hexNumber? (cs : List Char) : Option Nat := hexNumberFrom? 0 cs

/-- The last `n` lower-case hexadecimal digits of a number. -/
def hexDigits : Nat → Nat → List Char
  | 0, _ => []
  | n + 1, v => hexDigits n (v / 16) ++ [Nat.digitChar (v % 16)]

end SessionBroker.Text
