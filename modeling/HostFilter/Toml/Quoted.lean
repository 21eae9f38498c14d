import HostFilter.Text.CodePoint

/-!
# Quoted strings of TOML

Strings in double quotes know escapes, strings in single quotes do not; both exist on
one line and, in triple quotes, on several.  A line break right behind the opening
triple quote is dropped, and a backslash at the end of a line drops the break and the
blanks that follow.
-/

namespace HostFilter
namespace Toml

open Text (Reader)

/-- A blank within a line. -/
def isBlank (c : Char) : Bool :=
  c = ' ' || c = '\t'

/-- A character that may stand unescaped in strings and comments: no control but the
tab. -/
def isPlain (c : Char) : Bool :=
  c = '\t' || (0x20 ≤ c.toNat && c.toNat ≠ 0x7F)

/-- A line break, kept as it is written. -/
def newline : Reader (List Char) :=
  (do Reader.word "\n"; return ['\n']) <|> (do Reader.word "\r\n"; return ['\r', '\n'])

/-- The character that an escape stands for, the backslash already taken. -/
def escape : Reader Char := do
  match ← Reader.satisfy fun _ => true with
  | '"' => return '"'
  | '\\' => return '\\'
  | 'b' => return '\x08'
  | 'e' => return '\x1b'
  | 'f' => return '\x0c'
  | 'n' => return '\n'
  | 'r' => return '\r'
  | 't' => return '\t'
  | 'x' => Text.codePoint? (← Text.hexDigits 2)
  | 'u' => Text.codePoint? (← Text.hexDigits 4)
  | 'U' => Text.codePoint? (← Text.hexDigits 8)
  | _ => failure

/-- One character between double quotes. -/
def basicChar : Reader Char := do
  let c ← Reader.satisfy fun c => isPlain c && c ≠ '"'
  if c = '\\' then escape else return c

/-- A string in double quotes on one line. -/
def basic : Reader String := do
  let _ ← Reader.char '"'
  let cs ← Reader.many basicChar
  let _ ← Reader.char '"'
  return String.ofList cs

/-- A string in single quotes on one line. -/
def literal : Reader String := do
  let _ ← Reader.char '\''
  let cs ← Reader.takeWhile fun c => isPlain c && c ≠ '\''
  let _ ← Reader.char '\''
  return String.ofList cs

/-- A line break behind a backslash, with all blanks and line breaks that follow. -/
def continuation : Reader (List Char) := do
  let _ ← Reader.char '\\'
  Reader.skipWhile isBlank
  let _ ← newline
  let _ ← Reader.many (newline <|> (do return [← Reader.satisfy isBlank]))
  return []

/-- A quote that does not begin the closing triple quote. -/
def looseQuote (quote : Char) : Reader (List Char)
  | c :: cs =>
    if c = quote && !([quote, quote].isPrefixOf cs) then some ([quote], cs) else none
  | [] => none

/-- A string in triple quotes; up to two quotes right before the closing ones belong
to it. -/
def multiline (quote : Char) (part : Reader (List Char)) : Reader String := do
  let triple := String.ofList [quote, quote, quote]
  Reader.word triple
  let _ ← newline <|> pure []
  let parts ← Reader.many (newline <|> looseQuote quote <|> part)
  Reader.word triple
  let extra ← Reader.takeWhile (· = quote)
  if extra.length ≤ 2 then return String.ofList (parts.flatten ++ extra) else failure

/-- A string in triple double quotes. -/
def multilineBasic : Reader String :=
  multiline '"' (continuation <|> (do return [← basicChar]))

/-- A string in triple single quotes. -/
def multilineLiteral : Reader String :=
  multiline '\'' (do return [← Reader.satisfy fun c => isPlain c && c ≠ '\''])

/-- A string in any of the four forms. -/
def string : Reader String :=
  multilineBasic <|> multilineLiteral <|> basic <|> literal

end Toml
end HostFilter
