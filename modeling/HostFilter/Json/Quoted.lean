/-!
# Quoted strings of JSON

A string is written between double quotes.  The quote, the backslash and the
controls below U+0020 are escaped, by a letter where JSON has one and by four hex
digits otherwise; every other character stands for itself.
-/

namespace HostFilter
namespace Json

/-- The last two hex digits of a code point below 256, in lower case. -/
def hexPair (n : Nat) : List Char :=
  [Nat.digitChar (n / 16), Nat.digitChar (n % 16)]

/-- A character as it stands in a quoted string. -/
def escaped (c : Char) : List Char :=
  if c = '"' then ['\\', '"']
  else if c = '\\' then ['\\', '\\']
  else if c = '\x08' then ['\\', 'b']
  else if c = '\x0c' then ['\\', 'f']
  else if c = '\n' then ['\\', 'n']
  else if c = '\r' then ['\\', 'r']
  else if c = '\t' then ['\\', 't']
  else if c.toNat < 0x20 then ['\\', 'u', '0', '0'] ++ hexPair c.toNat
  else [c]

/-- A string between double quotes, each character as `escaped`. -/
def quoted (text : String) : List Char :=
  '"' :: text.toList.flatMap escaped ++ ['"']

end Json
end HostFilter
