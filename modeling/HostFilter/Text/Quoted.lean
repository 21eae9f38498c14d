import HostFilter.Text.Unprintable

/-!
# Quoted text for display

A text between double quotes in which every character can be seen: the quote and
the backslash stand behind a backslash, four controls have a letter of their own,
and any other unprintable character is given by its code point in braces.
-/

namespace HostFilter
namespace Text

/-- A character as a quoted text shows it. -/
def shown (c : Char) : List Char :=
  if c = '"' then ['\\', '"']
  else if c = '\\' then ['\\', '\\']
  else if c = '\n' then ['\\', 'n']
  else if c = '\r' then ['\\', 'r']
  else if c = '\t' then ['\\', 't']
  else if c = '\x00' then ['\\', '0']
  else if isUnprintable c then ['\\', 'u', '\x7b'] ++ Nat.toDigits 16 c.toNat ++ ['\x7d']
  else [c]

/-- The text between double quotes, each character as `shown`. -/
def quoted (text : String) : String :=
  String.ofList ('"' :: text.toList.flatMap shown ++ ['"'])

end Text
end HostFilter
