import HostFilter.Connective

/-!
# Tokens

The pieces that a filter is written with: words, bare or quoted, the equals sign,
parentheses and the keywords of the two connectives.  A token also knows at which
byte of the filter it starts.
-/

namespace HostFilter

/-- A word of a filter; of a quoted word, the text between the quotes. -/
structure Word where
  text : String
  quoted : Bool
deriving DecidableEq

namespace Word

/-- The word without quotes around it. -/
def bare (text : String) : Word :=
  ⟨text, false⟩

/-- The word as a filter writes it, with its quotes. -/
def written (w : Word) : String :=
  if w.quoted then "\"" ++ w.text ++ "\"" else w.text

end Word

/-- What a token says. -/
inductive Lexeme where
  | word (w : Word)
  | equals
  | opening
  | closing
  | keyword (c : Connective)
deriving DecidableEq

namespace Lexeme

/-- The word that a lexeme is where a word is expected.  A keyword counts as the
bare word of its spelling there. -/
def asWord? : Lexeme → Option Word
  | .word w => some w
  | .keyword c => some (.bare c.keyword)
  | _ => none

/-- The lexeme as a filter writes it. -/
def written : Lexeme → String
  | .word w => w.written
  | .equals => "="
  | .opening => "("
  | .closing => ")"
  | .keyword c => c.keyword

/-- The lexeme as a message names it. -/
def described (l : Lexeme) : String :=
  "'" ++ l.written ++ "'"

end Lexeme

/-- A lexeme and the byte of the filter at which it starts. -/
structure Token where
  lexeme : Lexeme
  offset : Nat
deriving DecidableEq

end HostFilter
