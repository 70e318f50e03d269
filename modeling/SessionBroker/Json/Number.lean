import SessionBroker.Text.Magnitude

/-!
# SessionBroker.Json.Number — numbers taken in as doubles

A number that is no integer of 64 bits is taken in as the product of two doubles: one for its leading digits, and one
for a power of ten.  The product is rounded once more, so close to the largest double it may become infinite although
the number itself does not, or the other way round.

* `absorb`: the leading digits that fit in 64 bits.
* `factors`: the leading digits of a number and the power of ten they are multiplied with.
* `isFinite`: whether the product is finite.
-/

namespace SessionBroker.Json.Number

/-- Append digits to a number as long as it fits in 64 bits, and the digits that are left. -/
def absorb (m : Nat) : List Char → Nat × List Char
  | [] => (m, [])
  | c :: cs =>
    let next := 10 * m + (c.toNat - '0'.toNat)
    if next < 0x10000000000000000 then absorb next cs else (m, c :: cs)

/-- The leading digits of a number, and the exponent of the power of ten they are multiplied with.  Digits in front of
the point that do not fit raise the exponent, and digits behind the point that do fit lower it. -/
def factors (d : Text.Decimal) : Nat × Int :=
  let (m, left) := absorb 0 d.whole
  let (m, unused) := absorb m d.fraction
  (m, d.exponent + left.length - (d.fraction.length - unused.length))

/-- Whether the double that `m * 10 ^ e` is computed as is finite.  No division overflows, and `10 ^ 308` is the largest
power of ten that is one. -/
def isFiniteProduct (m : Nat) (e : Int) : Bool :=
  if m = 0 ∨ e < 0 then true
  else if 308 < e then false
  else Text.nearestDouble m * Text.nearestDouble (Nat.pow 10 e.toNat) < Text.doubleLimit

/-- Whether a number is finite as it is taken in. -/
def isFinite (raw : List Char) : Bool :=
  let (m, e) := factors (.ofText raw)
  isFiniteProduct m e

end SessionBroker.Json.Number
