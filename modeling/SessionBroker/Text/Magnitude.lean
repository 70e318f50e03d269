/-!
# SessionBroker.Text.Magnitude — numbers too large for a double

* `Decimal`: the digits and the exponent that a decimal number is written with.
* `nearestDouble`: rounds a natural number to 53 significant bits.
* `Decimal.exceedsDouble`: whether a number rounds to infinity as a double, that is, whether it is not below the middle
  between the largest double `2 ^ 1024 - 2 ^ 971` and `2 ^ 1024`.
-/

namespace SessionBroker.Text

/-- A decimal number as it is written, without its sign. -/
structure Decimal where
  /-- The digits in front of the point. -/
  whole : List Char
  /-- The digits behind the point. -/
  fraction : List Char := []
  /-- The power of ten that the number is multiplied with. -/
  exponent : Int := 0
  deriving DecidableEq, Repr

namespace Decimal

/-- The exponent written behind the mark `e`. -/
def exponentOf : List Char → Int
  | [] => 0
  | '-' :: ds => -(Nat.ofDigitChars 10 ds 0 : Int)
  | '+' :: ds => Nat.ofDigitChars 10 ds 0
  | ds => Nat.ofDigitChars 10 ds 0

/-- The number that a decimal text writes. -/
def ofText (raw : List Char) : Decimal :=
  let unsigned := raw.dropWhile fun c => c == '-' || c == '+'
  let whole := unsigned.takeWhile Char.isDigit
  match unsigned.dropWhile Char.isDigit with
  | '.' :: rest =>
    { whole, fraction := rest.takeWhile Char.isDigit, exponent := exponentOf ((rest.dropWhile Char.isDigit).drop 1) }
  | rest => { whole, exponent := exponentOf (rest.drop 1) }

end Decimal

/-- The natural number with at most 53 significant bits that is nearest to `n`.  Of two that are equally near, it is the
one whose last significant bit is zero. -/
def nearestDouble (n : Nat) : Nat :=
  let unit := Nat.pow 2 (n.log2 + 1 - 53)
  let q := n / unit
  let r := n % unit
  if unit < 2 * r ∨ (unit = 2 * r ∧ q % 2 = 1) then (q + 1) * unit else q * unit

/-- The least number that rounds to infinity. -/
def doubleLimit : Nat := Nat.pow 2 1024 - Nat.pow 2 970

/-- Whether `m * 10 ^ e` is at least the limit.  The number of digits decides all but the close cases. -/
def atLeastLimit (m : Nat) (e : Int) : Bool :=
  if m = 0 then false
  else
    let places := (Nat.toDigits 10 m).length + e
    if places ≤ 308 then false
    else if 310 ≤ places then true
    else if 0 ≤ e then doubleLimit ≤ m * Nat.pow 10 e.toNat
    else doubleLimit * Nat.pow 10 (-e).toNat ≤ m

/-- Whether a number rounds to infinity. -/
def Decimal.exceedsDouble (d : Decimal) : Bool :=
  atLeastLimit (Nat.ofDigitChars 10 (d.whole ++ d.fraction) 0) (d.exponent - d.fraction.length)

end SessionBroker.Text
