import HostFilter.Json.Number
import HostFilter.Text.CodePoint

/-!
# Reading JSON

A reader for JSON text.  Arrays and objects may be nested 127 deep, and of members
with equal keys the last counts.
-/

namespace HostFilter
namespace Json

open Text (Reader codePoint? hexDigits)

namespace Reading

/-- Blanks between the parts of a JSON text. -/
def blanks : Reader Unit :=
  Reader.skipWhile fun c => c = ' ' || c = '\t' || c = '\n' || c = '\r'

/-- The code point behind `\u`: four hex digits, or two such groups that form a
surrogate pair. -/
def unicodeEscape : Reader Char := do
  let unit ← hexDigits 4
  if 0xD800 ≤ unit && unit < 0xDC00 then
    Reader.word "\\u"
    let low ← hexDigits 4
    if 0xDC00 ≤ low && low < 0xE000 then
      codePoint? (0x10000 + (unit - 0xD800) * 0x400 + (low - 0xDC00))
    else
      failure
  else
    codePoint? unit

/-- The character that an escape stands for, the backslash already taken. -/
def escape : Reader Char := do
  match ← Reader.satisfy fun _ => true with
  | '"' => return '"'
  | '\\' => return '\\'
  | '/' => return '/'
  | 'b' => return '\x08'
  | 'f' => return '\x0c'
  | 'n' => return '\n'
  | 'r' => return '\r'
  | 't' => return '\t'
  | 'u' => unicodeEscape
  | _ => failure

/-- One character of a string. -/
def stringChar : Reader Char := do
  let c ← Reader.satisfy fun c => c ≠ '"' && 0x20 ≤ c.toNat
  if c = '\\' then escape else return c

/-- A quoted string. -/
def string : Reader String := do
  let _ ← Reader.char '"'
  let cs ← Reader.many stringChar
  let _ ← Reader.char '"'
  return String.ofList cs

/-- One or more digits. -/
def digits : Reader (List Char) := do
  let ds ← Reader.takeWhile Char.isDigit
  if ds.isEmpty then failure else return ds

/-- The exponent of a number. -/
def exponent : Reader Int := do
  let _ ← Reader.char 'e' <|> Reader.char 'E'
  let negative ← (do let _ ← Reader.char '-'; return true)
    <|> (do let _ ← Reader.char '+'; return false) <|> pure false
  return Decimal.signed negative (Decimal.value (← digits))

/-- A number: no leading zeros, and digits on both sides of a point. -/
def number : Reader Json := do
  let negative ← (do let _ ← Reader.char '-'; return true) <|> pure false
  let whole ← (do let _ ← Reader.char '0'; return ['0']) <|> digits
  let fraction ← (do let _ ← Reader.char '.'; some <$> digits) <|> pure none
  let power ← some <$> exponent <|> pure none
  (Numeral.mk negative whole fraction power).toJson?

/-- A value that is no array and no object. -/
def scalar : Reader Json :=
  (do Reader.word "null"; return .null)
    <|> (do Reader.word "true"; return .bool true)
    <|> (do Reader.word "false"; return .bool false)
    <|> .str <$> string
    <|> number

/-- A value in which arrays and objects are nested at most `depth` deep. -/
def nested : Nat → Reader Json
  | 0 => scalar
  | depth + 1 => do
    let item : Reader Json := do
      blanks
      let j ← nested depth
      blanks
      return j
    let member : Reader (String × Json) := do
      blanks
      let key ← string
      blanks
      let _ ← Reader.char ':'
      return (key, ← item)
    let comma : Reader Unit := do
      let _ ← Reader.char ','
    match ← Reader.peek with
    | some '[' =>
      let _ ← Reader.char '['
      let items ← Reader.separated item comma <|> (do blanks; return [])
      let _ ← Reader.char ']'
      return .arr items
    | some '\x7b' =>
      let _ ← Reader.char '\x7b'
      let members ← Reader.separated member comma <|> (do blanks; return [])
      let _ ← Reader.char '\x7d'
      return object members
    | _ => scalar

/-- A value with blanks around it. -/
def document : Reader Json := do
  blanks
  let j ← nested 127
  blanks
  return j

end Reading

/-- Read a whole text as one value. -/
def read? (text : String) : Option Json :=
  Reader.run? Reading.document text

end Json
end HostFilter
