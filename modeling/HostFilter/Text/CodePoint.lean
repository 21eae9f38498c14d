import HostFilter.Text.Reader

/-!
# Characters by their code points

Reading a code point in hex digits and turning it into a character.  Surrogates
and numbers beyond U+10FFFF are no characters.
-/

namespace HostFilter
namespace Text

/-- The value of a hex digit in either case. -/
def hexValue? (c : Char) : Option Nat :=
  if c.isDigit then some (c.toNat - '0'.toNat)
  else if 'a' ≤ c && c ≤ 'f' then some (c.toNat - 'a'.toNat + 10)
  else if 'A' ≤ c && c ≤ 'F' then some (c.toNat - 'A'.toNat + 10)
  else none

/-- The number that a list of hex digits denotes. -/
def hexNumber? (cs : List Char) : Option Nat :=
  cs.foldlM (fun n c => (hexValue? c).map (16 * n + ·)) 0

/-- Exactly `n` hex digits, read as a number. -/
def hexDigits (n : Nat) : Reader Nat := do
  let digits ← Reader.exactly n fun c => (hexValue? c).isSome
  hexNumber? digits

/-- The character with a code point, if there is one. -/
def codePoint? (n : Nat) : Option Char :=
  if h : n.isValidChar then some (Char.ofNatAux n h) else none

end Text
end HostFilter
