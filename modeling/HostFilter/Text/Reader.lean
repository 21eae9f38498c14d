import HostFilter.Text.Affix

/-!
# Readers

A reader takes a value off the front of a text and leaves the rest, or refuses.
Readers are combined as state passers over a partial result; a choice `p <|> q`
tries `q` on the whole text when `p` refuses.
-/

namespace HostFilter
namespace Text

/-- A reader of values of type `α`. -/
abbrev Reader (α : Type) : Type :=
  StateT (List Char) Option α

namespace Reader

/-- Take one character that satisfies `p`. -/
def satisfy (p : Char → Bool) : Reader Char
  | [] => none
  | c :: cs => if p c then some (c, cs) else none

/-- Take the character `c`. -/
def char (c : Char) : Reader Char :=
  satisfy (· == c)

/-- Take the text `s`. -/
def word (s : String) : Reader Unit :=
  fun cs => (dropFront? s.toList cs).map ((), ·)

/-- The next character, which stays where it is. -/
def peek : Reader (Option Char) :=
  fun cs => some (cs.head?, cs)

/-- Take the longest run of characters that satisfy `p`. -/
def takeWhile (p : Char → Bool) : Reader (List Char) :=
  fun cs => some (cs.takeWhile p, cs.dropWhile p)

/-- Drop the longest run of characters that satisfy `p`. -/
def skipWhile (p : Char → Bool) : Reader Unit :=
  fun cs => some ((), cs.dropWhile p)

/-- Accept only the end of the text. -/
def finish : Reader Unit :=
  fun cs => if cs.isEmpty then some ((), cs) else none

/-- Repeat a reader for as long as it accepts and gets further. -/
def many {α : Type} (p : Reader α) (cs : List Char) : Option (List α × List Char) :=
  match p cs with
  | none => some ([], cs)
  | some (a, rest) =>
    if rest.length < cs.length then (many p rest).map fun (as, rest) => (a :: as, rest)
    else some ([], cs)
termination_by cs.length

/-- Items with a separator between them; at least one. -/
def separated {α : Type} (item : Reader α) (separator : Reader Unit) : Reader (List α) := do
  let first ← item
  let others ← many (do separator; item)
  return first :: others

/-- Exactly `n` characters that satisfy `p`. -/
def exactly (n : Nat) (p : Char → Bool) : Reader (List Char) :=
  fun cs =>
    let taken := cs.take n
    if taken.length = n && taken.all p then some (taken, cs.drop n) else none

/-- Run a reader on a whole text. -/
def run? {α : Type} (p : Reader α) (text : String) : Option α :=
  match p text.toList with
  | some (a, []) => some a
  | _ => none

end Reader
end Text
end HostFilter
