import HostFilter.Decimal.Numeral

/-!
# Decimal literals

A literal `± digits · 10 ^ exponent` and the double nearest to it.  Two spellings
are read here: the fixed-point one, with digits on both sides of the point, and
the general one, with an optional point on either side and an optional exponent.
-/

namespace HostFilter
namespace Decimal

/-- The number `± digits · 10 ^ exponent`. -/
structure Literal where
  negative : Bool
  digits : Nat
  exponent : Int

namespace Literal

/-- A literal from its sign, its digits before and after the point and its exponent. -/
def ofParts (negative : Bool) (whole fraction : List Char) (exponent : Int) : Literal :=
  ⟨negative, value (whole ++ fraction), exponent - fraction.length⟩

/-- The nearest double to the magnitude, ties to even.  Magnitudes from `10 ^ 310`
on exceed every double and those below `10 ^ (-326)` round to zero, so neither
needs its power of ten worked out. -/
def magnitude (l : Literal) : Float :=
  let size : Int := (Nat.toDigits 10 l.digits).length + l.exponent
  if l.digits = 0 then 0
  else if 310 < size then 1 / 0
  else if size < -325 then 0
  else Float.ofScientific l.digits (l.exponent < 0) l.exponent.natAbs

/-- The nearest double; zero keeps the sign of the literal. -/
def toFloat (l : Literal) : Float :=
  if l.negative then -l.magnitude else l.magnitude

/-- Read an optional sign and digits on both sides of a point. -/
def fixedPoint? (cs : List Char) : Option Literal :=
  let (negative, body) := splitSign cs
  let whole := body.takeWhile Char.isDigit
  match body.dropWhile Char.isDigit with
  | '.' :: fraction =>
    if isNumeral whole && isNumeral fraction then some (ofParts negative whole fraction 0)
    else none
  | _ => none

/-- Read what may follow the digits of a general literal: nothing, or `e` in
either case and a numeral with an optional sign. -/
def exponent? : List Char → Option Int
  | [] => some 0
  | c :: cs => if c = 'e' || c = 'E' then integer? cs else none

/-- Read an optional sign, digits with at most one point before, among or after
them, and an optional exponent. -/
def general? (cs : List Char) : Option Literal :=
  let (negative, body) := splitSign cs
  let whole := body.takeWhile Char.isDigit
  let (fraction, rest) :=
    match body.dropWhile Char.isDigit with
    | '.' :: more => (more.takeWhile Char.isDigit, more.dropWhile Char.isDigit)
    | more => ([], more)
  if isNumeral (whole ++ fraction) then (exponent? rest).map (ofParts negative whole fraction)
  else none

end Literal

/-- Read a double: a general literal, or an infinity or NaN by its name in any
letter case, with an optional sign. -/
def float? (text : String) : Option Float :=
  let (negative, body) := splitSign text.toList
  let named : Option Float :=
    match String.ofList (body.map Char.toLower) with
    | "inf" | "infinity" => some (1 / 0)
    | "nan" => some (0 / 0)
    | _ => none
  match named with
  | some x => some (if negative then -x else x)
  | none => (Literal.general? text.toList).map Literal.toFloat

end Decimal
end HostFilter
