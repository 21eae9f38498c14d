import HostFilter.Decimal.Numeral
import HostFilter.Json.Basic

/-!
# Numbers of JSON

A whole number is an integer if a word of 64 bits holds it, unsigned or with its sign.
Any other number is worked out in double arithmetic: as many of its digits as an
unsigned word holds, times or divided by a power of ten.  With many digits or large
powers the result can miss the nearest double by a little; a result that is not finite
is refused.
-/

namespace HostFilter
namespace Json

/-- The parts of a number as it is written. -/
structure Numeral where
  negative : Bool
  whole : List Char
  /-- The digits behind the point, if there is one. -/
  fraction : Option (List Char)
  /-- The power of ten, if it is given. -/
  exponent : Option Int

namespace Numeral

/-- Append digits to a number for as long as an unsigned word holds it; the number and
the digits that did not fit. -/
def fill (n : Nat) : List Char → Nat × List Char
  | [] => (n, [])
  | d :: ds =>
    let longer := Nat.ofDigitChars 10 [d] n
    if Decimal.fitsUnsigned longer then fill longer ds else (n, d :: ds)

/-- The double nearest to a power of ten. -/
def power (n : Nat) : Float :=
  Float.ofScientific 1 false n

/-- A double times `10 ^ exponent`, in one step of double arithmetic as far as there is
such a power and in two steps below; nothing if it grows beyond the doubles. -/
def scale (x : Float) (exponent : Int) : Option Float :=
  if 308 < exponent then
    if x == 0 then some x else none
  else if 0 ≤ exponent then
    let product := x * power exponent.toNat
    if product.isInf then none else some product
  else if -308 ≤ exponent then some (x / power (-exponent).toNat)
  else if -616 ≤ exponent then some (x / power 308 / power (-exponent - 308).toNat)
  else some 0

/-- A double with a sign. -/
def withSign (negative : Bool) (x : Float) : Float :=
  if negative then -x else x

/-- The double that a numeral stands for. -/
def toFloat? (n : Numeral) : Option Float :=
  let (front, beyond) := fill 0 n.whole
  let fraction := n.fraction.getD []
  let (significand, dropped) := fill front fraction
  let point : Int := beyond.length - (fraction.length - dropped.length : Nat)
  (scale significand.toUInt64.toFloat (point + n.exponent.getD 0)).map (withSign n.negative)

/-- The integer that a numeral stands for, if it is one and a word of 64 bits holds it.
A negative zero is none, since no integer has its sign. -/
def toInt? (n : Numeral) : Option Int :=
  if n.fraction.isSome || n.exponent.isSome then none
  else
    let size := Decimal.value n.whole
    let fits := if n.negative then 0 < size && Decimal.fitsWord (-size) else Decimal.fitsUnsigned size
    if fits then some (Decimal.signed n.negative size) else none

/-- The value of a numeral. -/
def toJson? (n : Numeral) : Option Json :=
  match n.toInt? with
  | some i => some (.int i)
  | none => n.toFloat?.map .float

end Numeral
end Json
end HostFilter
