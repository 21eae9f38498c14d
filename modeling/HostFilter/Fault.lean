import HostFilter.Token.Basic

/-!
# Faults of a filter's spelling

Why a text is no filter, with the wording of each reason and the place that it
points at.  Only this module knows the words.
-/

namespace HostFilter

/-- What a filter lacks where it ends too early. -/
inductive Missing where
  | clause
  | equals
  | value
deriving DecidableEq

/-- What is missing, as a message names it. -/
def Missing.described : Missing → String
  | .clause => "a clause"
  | .equals => "'='"
  | .value => "a value"

/-- Why a text is no filter. -/
inductive SyntaxFault where
  /-- The quote at this offset has no partner. -/
  | openQuote (offset : Nat)
  /-- There are no tokens. -/
  | empty
  /-- The token fits nowhere. -/
  | unexpected (token : Token)
  /-- The key that starts at this offset is empty. -/
  | emptyKey (offset : Nat)
  /-- The filter ends where something is missing. -/
  | endsBefore (missing : Missing)
  /-- The parenthesis that opens at this offset is never closed. -/
  | unclosed (offset : Nat)
  /-- A group has no members. -/
  | emptyGroup
deriving DecidableEq

namespace SyntaxFault

/-- The wording of a fault. -/
def reason : SyntaxFault → String
  | .openQuote _ => "unterminated quoted value"
  | .empty => "empty filter"
  | .unexpected t =>
    "unexpected " ++ t.lexeme.described ++ " at offset " ++ String.ofList (Nat.toDigits 10 t.offset)
  | .emptyKey _ => "missing key"
  | .endsBefore m => "expected " ++ m.described ++ " but reached end of input"
  | .unclosed _ => "unbalanced parentheses"
  | .emptyGroup => "empty group"

/-- The byte of the filter that a fault points at, if it points at one. -/
def offset? (filter : String) : SyntaxFault → Option Nat
  | .openQuote offset => some offset
  | .empty => none
  | .unexpected t => some t.offset
  | .emptyKey offset => some offset
  | .endsBefore _ => some filter.utf8ByteSize
  | .unclosed offset => some offset
  | .emptyGroup => none

end SyntaxFault
end HostFilter
