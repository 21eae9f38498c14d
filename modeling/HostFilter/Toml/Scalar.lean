import HostFilter.Decimal.Literal
import HostFilter.Json.Basic
import HostFilter.Text.Affix
import HostFilter.Text.CodePoint
import HostFilter.Toml.Timestamp

/-!
# Unquoted values in TOML

Booleans, integers in four bases, doubles and timestamps.  Single underscores may
stand between digits, decimal numbers have no leading zeros, integers fit 64 bits and
only a named infinity is infinite.
-/

namespace HostFilter
namespace Toml

/-- Digits with single underscores between them, given without the underscores. -/
def ungrouped? (isDigit : Char → Bool) (cs : List Char) : Option (List Char) :=
  let groups := Text.cut ['_'] cs
  if groups.all fun g => !g.isEmpty && g.all isDigit then some groups.flatten else none

/-- The digits of a decimal number without leading zeros. -/
def decimalDigits? (cs : List Char) : Option (List Char) :=
  match ungrouped? Char.isDigit cs with
  | some ('0' :: _ :: _) => none
  | digits => digits

/-- A number to a base from two to sixteen. -/
def based? (base : Nat) (cs : List Char) : Option Nat := do
  let digits ← ungrouped? (fun c => (Text.hexValue? c).any (· < base)) cs
  digits.foldlM (fun n c => (Text.hexValue? c).map (base * n + ·)) 0

/-- An integer; only decimal ones carry a sign. -/
def integer? (cs : List Char) : Option Int :=
  match cs with
  | '0' :: 'x' :: ds => (based? 16 ds).map Int.ofNat
  | '0' :: 'o' :: ds => (based? 8 ds).map Int.ofNat
  | '0' :: 'b' :: ds => (based? 2 ds).map Int.ofNat
  | _ =>
    let (negative, body) := Decimal.splitSign cs
    (decimalDigits? body).map fun ds => Decimal.signed negative (Decimal.value ds)

/-- Does this character start an exponent? -/
def isExponentMark (c : Char) : Bool :=
  c = 'e' || c = 'E'

/-- The exponent behind its mark, in which leading zeros may stand. -/
def exponent? (cs : List Char) : Option Int :=
  let (negative, body) := Decimal.splitSign cs
  (ungrouped? Char.isDigit body).map fun ds => Decimal.signed negative (Decimal.value ds)

/-- A decimal with a fraction, an exponent, or both. -/
def literal? (cs : List Char) : Option Decimal.Literal := do
  let (negative, body) := Decimal.splitSign cs
  let (mantissa, power) := body.span fun c => !isExponentMark c
  let (whole, part) := mantissa.span (· ≠ '.')
  if part.isEmpty && power.isEmpty then none
  else
    let wholeDigits ← decimalDigits? whole
    let partDigits ← if part.isEmpty then some [] else ungrouped? Char.isDigit (part.drop 1)
    let exponent ← if power.isEmpty then some 0 else exponent? (power.drop 1)
    return .ofParts negative wholeDigits partDigits exponent

/-- A double, by its digits or by its name. -/
def float? (cs : List Char) : Option Float :=
  let (negative, body) := Decimal.splitSign cs
  let sign (x : Float) : Float := if negative then -x else x
  if body = ['i', 'n', 'f'] then some (sign (1 / 0))
  else if body = ['n', 'a', 'n'] then some (sign (0 / 0))
  else (literal? cs).bind fun l => if l.toFloat.isFinite then some l.toFloat else none

/-- The value that an unquoted text denotes. -/
def bareValue? (cs : List Char) : Option Json :=
  if cs = ['t', 'r', 'u', 'e'] then some (.bool true)
  else if cs = ['f', 'a', 'l', 's', 'e'] then some (.bool false)
  else
    match integer? cs with
    | some i => if Decimal.fitsWord i then some (.int i) else none
    | none =>
      match float? cs with
      | some x => some (.float x)
      | none =>
        match timestamp cs with
        | some (text, []) => some (.str (String.ofList text))
        | _ => none

end Toml
end HostFilter
