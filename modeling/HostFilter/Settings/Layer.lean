import HostFilter.Decimal.Numeral
import HostFilter.Json.Basic
import HostFilter.Text.Reader

/-!
# Layers of settings

Settings come in layers, each a table of values; a later layer overrides an earlier
one.  Tables are merged key by key, every other value is replaced.  A key of the form
`a.b[2].c` at the top of a layer leads into tables and lists; keys inside tables are
taken as they are.
-/

namespace HostFilter
namespace Settings

open Text (Reader)

/-! ## Places -/

/-- One step to a place in nested tables and lists. -/
inductive PlaceStep where
  | key (name : String)
  /-- An element of a list; negative positions count from its end. -/
  | position (i : Int)
deriving DecidableEq

namespace PlaceStep

/-- A plain name: ASCII letters, digits, underscores and hyphens. -/
def name : Reader String := do
  let cs ← Reader.takeWhile fun c => c.isAlphanum || c = '_' || c = '-'
  if cs.isEmpty then failure else return String.ofList cs

/-- Blanks inside brackets. -/
def blanks : Reader Unit :=
  Reader.skipWhile fun c => c = ' ' || c = '\t'

/-- A position that a signed word of 64 bits holds, with an optional minus. -/
def index : Reader Int := do
  let negative ← (do let _ ← Reader.char '-'; return true) <|> pure false
  let n ← Decimal.natural? (← Reader.takeWhile Char.isDigit)
  let i := Decimal.signed negative n
  if Decimal.fitsWord i then return i else failure

/-- A name behind a point, or a position in brackets. -/
def further : Reader PlaceStep :=
  (do
    let _ ← Reader.char '.'
    return .key (← name))
    <|> do
      let _ ← Reader.char '['
      blanks
      let i ← index
      blanks
      let _ ← Reader.char ']'
      return .position i

/-- A name with any number of further steps. -/
def path : Reader (List PlaceStep) := do
  let first ← name
  let others ← Reader.many further
  return .key first :: others

end PlaceStep

/-- The place that a top-level key leads to; a key that spells no path is one step. -/
def placeOf (key : String) : List PlaceStep :=
  (Reader.run? PlaceStep.path key).getD [.key key]

/-! ## Merging -/

/-- The table that a value is, or the empty one. -/
def tableOf : Option Json → Entries Json
  | some (.obj members) => members
  | _ => []

/-- The list that a value is, or the empty one. -/
def listOf : Option Json → List Json
  | some (.arr items) => items
  | _ => []

mutual

/-- What a place holds after a value was laid over what it held before. -/
def overlay (old : Option Json) : Json → Json
  | .obj members => .obj (overlayMembers (tableOf old) members)
  | value => value

/-- A table with members laid over it one after another. -/
def overlayMembers (table : Entries Json) : List (String × Json) → Entries Json
  | [] => table
  | (key, value) :: members =>
    overlayMembers (table.insert key (overlay (table.find? key) value)) members

end

/-- Nulls that make room for a position: behind the items for one past their end, in
front of them for one before their start. -/
def withRoom (items : List Json) (i : Int) : List Json :=
  if 0 ≤ i then items ++ List.replicate (i.toNat + 1 - items.length) .null
  else List.replicate ((-i).toNat - items.length) .null ++ items

/-- Where a position lies among items that have room for it. -/
def positionIn (items : List Json) (i : Int) : Nat :=
  if 0 ≤ i then i.toNat else items.length - (-i).toNat

/-- A value with another laid over the place that the steps lead to, through tables and
lists made where there are none. -/
def put (value : Json) : List PlaceStep → Option Json → Json
  | [], old => overlay old value
  | .key name :: steps, old =>
    let table := tableOf old
    .obj (table.insert name (put value steps (table.find? name)))
  | .position i :: steps, old =>
    let items := withRoom (listOf old) i
    let n := positionIn items i
    .arr (items.set n (put value steps items[n]?))

/-- Lay a layer over a table. -/
def addLayer (table layer : Entries Json) : Entries Json :=
  layer.foldl (fun table (key, value) => tableOf (put value (placeOf key) (some (.obj table)))) table

/-- The table of all layers, the first one lowest. -/
def merge (layers : List (Entries Json)) : Entries Json :=
  layers.foldl addLayer []

end Settings
end HostFilter
