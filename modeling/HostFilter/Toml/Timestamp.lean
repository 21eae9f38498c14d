import HostFilter.Decimal.Numeral
import HostFilter.Text.Reader

/-!
# Timestamps in TOML

Dates, times of day and their combinations.  Settings have no use for them as such,
so a timestamp is read to its normal text: `T` between date and time, a fraction of
one to nine digits without needless zeros at its end, and `Z` or a signed offset.
Seconds may be left out, and then they stay out.
-/

namespace HostFilter
namespace Toml

open Text (Reader)

/-- Exactly `n` digits that denote a number within bounds. -/
def bounded (n low high : Nat) : Reader (List Char) := do
  let digits ← Reader.exactly n Char.isDigit
  let v := Decimal.value digits
  if low ≤ v && v ≤ high then return digits else failure

/-- The number of days of a month. -/
def daysIn (year month : Nat) : Nat :=
  if month = 2 then
    if (year % 4 = 0 && year % 100 ≠ 0) || year % 400 = 0 then 29 else 28
  else if [4, 6, 9, 11].contains month then 30
  else 31

/-- A calendar date. -/
def date : Reader (List Char) := do
  let year ← bounded 4 0 9999
  let _ ← Reader.char '-'
  let month ← bounded 2 1 12
  let _ ← Reader.char '-'
  let day ← bounded 2 1 (daysIn (Decimal.value year) (Decimal.value month))
  return year ++ '-' :: month ++ '-' :: day

/-- The fraction of a second, in at most nine digits and without zeros at its end; a
fraction of zero keeps one. -/
def fraction : Reader (List Char) := do
  let _ ← Reader.char '.'
  let digits ← Reader.takeWhile Char.isDigit
  if digits.isEmpty then failure
  else
    let kept := ((digits.take 9).reverse.dropWhile (· = '0')).reverse
    return '.' :: if kept.isEmpty then ['0'] else kept

/-- The seconds of a time, perhaps with a fraction. -/
def seconds : Reader (List Char) := do
  let _ ← Reader.char ':'
  let whole ← bounded 2 0 60
  let parts ← fraction <|> pure []
  return ':' :: whole ++ parts

/-- A time of day. -/
def time : Reader (List Char) := do
  let hour ← bounded 2 0 23
  let _ ← Reader.char ':'
  let minute ← bounded 2 0 59
  let rest ← seconds <|> pure []
  return hour ++ ':' :: minute ++ rest

/-- The distance from universal time; none is always written with a plus. -/
def offset : Reader (List Char) :=
  (do let _ ← Reader.char 'Z' <|> Reader.char 'z'; return ['Z'])
    <|> do
      let sign ← Reader.char '+' <|> Reader.char '-'
      let hour ← bounded 2 0 23
      let _ ← Reader.char ':'
      let minute ← bounded 2 0 59
      let isZero := Decimal.value (hour ++ minute) = 0
      return (if isZero then '+' else sign) :: hour ++ ':' :: minute

/-- A date, a time, or a date and a time with or without an offset. -/
def timestamp : Reader (List Char) :=
  (do
    let day ← date
    let clock ← (do
        let _ ← Reader.char 'T' <|> Reader.char 't' <|> Reader.char ' '
        let clock ← time
        let zone ← offset <|> pure []
        return 'T' :: clock ++ zone)
      <|> pure []
    return day ++ clock)
    <|> time

end Toml
end HostFilter
