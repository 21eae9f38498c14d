import HostFilter.Toml.Assembly
import HostFilter.Toml.Quoted
import HostFilter.Toml.Scalar

/-!
# Reading TOML

A text is a list of assignments, followed by sections that each begin with a header.
Arrays and inline tables may be nested 80 deep, and a key has at most 80 parts.
-/

namespace HostFilter
namespace Toml

open Text (Reader)

/-- Blanks within a line. -/
def blanks : Reader Unit :=
  Reader.skipWhile isBlank

/-- A comment up to the end of its line. -/
def comment : Reader Unit := do
  let _ ← Reader.char '#'
  Reader.skipWhile isPlain

/-- Blanks and perhaps a comment before a line break. -/
def restOfLine : Reader Unit := do
  blanks
  comment <|> pure ()
  let _ ← newline

/-- Lines without content, and the blanks of the line after them. -/
def gap : Reader Unit := do
  let _ ← Reader.many restOfLine
  blanks

/-- One part of a key, bare or quoted. -/
def keyPart : Reader String :=
  (do
    let cs ← Reader.takeWhile fun c => c.isAlphanum || c = '_' || c = '-'
    if cs.isEmpty then failure else return String.ofList cs)
    <|> basic <|> literal

/-- The point between two parts of a key. -/
def keyPoint : Reader Unit := do
  blanks
  let _ ← Reader.char '.'
  blanks

/-- The greatest nesting of values, and the greatest number of parts of a key. -/
def depthLimit : Nat :=
  80

/-- A key of one or more parts. -/
def key : Reader Key := do
  let parts ← Reader.separated keyPart keyPoint
  match parts.getLast? with
  | some name => if parts.length ≤ depthLimit then return ⟨parts.dropLast, name⟩ else failure
  | none => failure

/-- A character of an unquoted value. -/
def isBareChar (c : Char) : Bool :=
  c.isAlphanum || c = '_' || c = '+' || c = '-' || c = '.' || c = ':'

/-- An unquoted value.  A blank may stand between a date and a time. -/
def bareValue : Reader Json := do
  let first ← Reader.takeWhile isBareChar
  let second ← (do
      let _ ← Reader.char ' '
      let cs ← Reader.takeWhile isBareChar
      if first.length = 10 && (cs.head?.any Char.isDigit) then return ' ' :: cs else failure)
    <|> pure []
  bareValue? (first ++ second)

/-- A key, an equals sign and a value, with `space` around the equals sign. -/
def assignment (space : Reader Unit) (value : Reader Json) : Reader (Key × Json) := do
  let k ← key
  space
  let _ ← Reader.char '='
  space
  return (k, ← value)

/-- Items with commas between them and an optional comma at the end, on any number of
lines. -/
def listed {α : Type} (opening closing : Char) (item : Reader α) : Reader (List α) := do
  let comma : Reader Unit := do
    gap
    let _ ← Reader.char ','
    gap
  let _ ← Reader.char opening
  gap
  let items ← Reader.separated item comma <|> pure []
  if items.isEmpty then pure () else comma <|> pure ()
  gap
  let _ ← Reader.char closing
  return items

/-- Values between brackets. -/
def array (item : Reader Json) : Reader Json := do
  return .arr (← listed '[' ']' item)

/-- Assignments between braces. -/
def inlineTable (value : Reader Json) : Reader Json := do
  let assignments ← listed '\x7b' '\x7d' (assignment gap value)
  let entries ← Node.assignAll assignments []
  return .obj (Node.toMembers entries)

/-- A value in which arrays and inline tables are nested at most `depth` deep. -/
def value : Nat → Reader Json
  | 0 => .str <$> string <|> bareValue
  | depth + 1 =>
    .str <$> string <|> array (value depth) <|> inlineTable (value depth) <|> bareValue

/-- An assignment on a line of its own. -/
def assignmentLine : Reader (Key × Json) := do
  gap
  let a ← assignment blanks (value depthLimit)
  restOfLine <|> (do blanks; comment <|> pure (); Reader.finish)
  return a

/-- The header of a section. -/
structure Header where
  key : Key
  /-- Does the section append to an array of tables? -/
  appends : Bool

/-- A header on a line of its own. -/
def headerLine : Reader Header := do
  gap
  let between (opening closing : String) : Reader Key := do
    Reader.word opening
    blanks
    let k ← key
    blanks
    Reader.word closing
    return k
  let header : Header ←
    (do return ⟨← between "[[" "]]", true⟩) <|> (do return ⟨← between "[" "]", false⟩)
  restOfLine <|> (do blanks; comment <|> pure (); Reader.finish)
  return header

/-- A text: assignments, then sections with theirs. -/
def text : Reader (List (Key × Json) × List (Header × List (Key × Json))) := do
  let _ ← some <$> Reader.char '\uFEFF' <|> pure none
  let front ← Reader.many assignmentLine
  let sections ← Reader.many (do return (← headerLine, ← Reader.many assignmentLine))
  gap
  comment <|> pure ()
  Reader.finish
  return (front, sections)

/-- Add a section to the tables read so far. -/
def addSection (entries : Entries Node) (header : Header) (assignments : List (Key × Json)) :
    Option (Entries Node) :=
  let fill := if header.appends then Node.appendTable else Node.openTable
  Node.descend (fill assignments header.key.name) header.key.path entries

/-- Read a whole text as a table. -/
def read? (toml : String) : Option (Entries Json) := do
  let (front, sections) ← Reader.run? text toml
  let top ← Node.assignAll front []
  let entries ← sections.foldlM (fun entries (header, body) => addSection entries header body) top
  return Node.toMembers entries

end Toml
end HostFilter
