import HostFilter.Decimal.Numeral
import HostFilter.Decimal.Shortest

/-!
# Layouts of decimals

How the digits of a double become text.  Each format that writes doubles states
its decisions as one `Layout`; the digits are always the shortest ones.
-/

namespace HostFilter
namespace Decimal

/-- The decisions of a format that writes doubles. -/
structure Layout where
  /-- Which of two equally short and equally near decimals is written. -/
  tie : Tie
  /-- Is a number with this exponent of its leading digit written without an
  exponent? -/
  isPlain : Int → Bool
  /-- Does a whole number end in `.0`? -/
  pointZero : Bool
  /-- Does an exponent that is not negative carry a plus? -/
  plusSign : Bool

namespace Layout

/-- Digits followed by zeros, or with a point among or before them. -/
def plain (l : Layout) (digits : List Char) (exponent : Int) : List Char :=
  if 0 ≤ exponent then
    digits ++ List.replicate exponent.toNat '0' ++ (if l.pointZero then ['.', '0'] else [])
  else
    let places := (-exponent).toNat
    if places < digits.length then
      digits.take (digits.length - places) ++ '.' :: digits.drop (digits.length - places)
    else
      '0' :: '.' :: (List.replicate (places - digits.length) '0' ++ digits)

/-- The exponent that follows the mark `e`. -/
def exponentText (l : Layout) (exponent : Int) : List Char :=
  if l.plusSign && 0 ≤ exponent then '+' :: integerText exponent else integerText exponent

/-- One digit, a point with the other digits if there are any, and the exponent. -/
def scientific (l : Layout) (digits : List Char) (leading : Int) : List Char :=
  digits.take 1 ++ (if digits.length ≤ 1 then [] else '.' :: digits.drop 1)
    ++ 'e' :: l.exponentText leading

/-- The text of the magnitude of a finite double. -/
def magnitudeText (l : Layout) (x : Float) : List Char :=
  if x == 0 then l.plain ['0'] 0
  else
    let (d, exponent) := shortest l.tie x
    let digits := Nat.toDigits 10 d
    let leading := exponent + digits.length - 1
    if l.isPlain leading then l.plain digits exponent else l.scientific digits leading

/-- The text of a double: a zero keeps its sign, and what is no number has a name. -/
def text (l : Layout) (x : Float) : String :=
  if x.isNaN then "NaN"
  else
    let magnitude := if x.isFinite then l.magnitudeText x else ['i', 'n', 'f']
    String.ofList (if x.toBits.toNat / Nat.pow 2 63 = 1 then '-' :: magnitude else magnitude)

end Layout
end Decimal
end HostFilter
