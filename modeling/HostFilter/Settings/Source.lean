import HostFilter.Decimal.Literal
import HostFilter.Json.Reader
import HostFilter.Settings.Conversion
import HostFilter.Settings.Layer
import HostFilter.Toml.Reader

/-!
# Sources of settings

Settings are loaded from an optional file and, over it, from the variables of the
environment.
All layers are merged before anything is converted or checked, so a bad value that a
later layer overrides does no harm.
Files may be in several formats.  TOML and JSON are read here; the readers of the others
are parameters.
-/

namespace HostFilter
namespace Settings

/-! ## Environment -/

/-- The lower-case form of a letter of a variable's name; beside the ASCII capitals,
the Kelvin sign has one in ASCII. -/
def lowerName (c : Char) : Char :=
  if c = '\u212A' then 'k' else c.toLower

/-- The front of the names of variables that count, in lower case. -/
def variableFront : String :=
  "smartfilter_"

/-- The setting that a variable is for, if any. -/
def variableKey? (name : String) : Option String :=
  Text.after? variableFront (String.ofList (name.toList.map lowerName))

/-- The value that the text of a variable denotes: a boolean, an integer within 64
bits or a double, else the text itself. -/
def variableValue (text : String) : Json :=
  let lower := String.ofList (text.toList.map Char.toLower)
  if lower = "true" then .bool true
  else if lower = "false" then .bool false
  else
    match (Decimal.integer? text.toList).filter fun i => Decimal.fitsWord i with
    | some i => .int i
    | none =>
      match Decimal.float? text with
      | some x => .float x
      | none => .str text

/-- The layer of the environment's variables. -/
def environmentLayer (environment : List (String × String)) : Entries Json :=
  Entries.ofList (environment.filterMap fun (name, text) =>
    (variableKey? name).map (·, variableValue text))

/-! ## Files -/

/-- The formats of settings files that other libraries read. -/
inductive ForeignFormat where
  | yaml
  | ini
  | ron
  | json5
deriving DecidableEq

/-- How other libraries read their formats: the entries of the table that a text describes, in
any order.  A format without a reader is not known. -/
abbrev ForeignReaders : Type :=
  ForeignFormat → Option (String → Option (List (String × Json)))

/-- The formats of settings files. -/
inductive FileFormat where
  | toml
  | json
  | foreign (format : ForeignFormat)
deriving DecidableEq

namespace FileFormat

/-- Is there a reader for the format? -/
def isKnown (readers : ForeignReaders) : FileFormat → Bool
  | .toml => true
  | .json => true
  | .foreign format => (readers format).isSome

/-- The known formats with the extensions of their files, in the order in which they are
tried. -/
def known (readers : ForeignReaders) : List (FileFormat × String) :=
  [(.toml, "toml"), (.json, "json"), (.foreign .yaml, "yaml"), (.foreign .yaml, "yml"),
    (.foreign .ini, "ini"), (.foreign .ron, "ron"), (.foreign .json5, "json5")].filter
      fun (format, _) => format.isKnown readers

/-- The extension of a file's name: what follows its last point, if a point stands
anywhere but in front. -/
def extension? (path : String) : Option String :=
  match (Text.pieces "/" path).getLast?.map (Text.pieces ".") with
  | some [] | some [_] | some ["", _] | none => none
  | some parts => parts.getLast?

/-- The known format that the extension of a file names. -/
def ofPath? (readers : ForeignReaders) (path : String) : Option FileFormat := do
  let extension ← extension? path
  let (format, _) ← (known readers).find? fun (_, other) => other = extension
  return format

/-- The table that a text in the format describes. -/
def read? (readers : ForeignReaders) (format : FileFormat) (text : String) :
    Option (Entries Json) :=
  match format with
  | .toml => Toml.read? text
  | .json =>
    match Json.read? text with
    | some (.obj members) => some members
    | _ => none
  | .foreign format => do
    let reader ← readers format
    let entries ← reader text
    return Entries.ofList entries

end FileFormat

/-- The file that a path names, in a directory given by the contents of its files: the
file of exactly that name, which must have a known format, or the first of those with the
extension of a known format added.  The empty path names none. -/
def locate? (readers : ForeignReaders) (directory : String → Option String) (path : String) :
    Option (FileFormat × String) :=
  if path.isEmpty then none
  else
    match directory path with
    | some content => (FileFormat.ofPath? readers path).map (·, content)
    | none =>
      (FileFormat.known readers).findSome? fun (format, extension) =>
        (directory (path ++ "." ++ extension)).map (format, ·)

/-- A text without the byte order mark that it may begin with. -/
def withoutMark (text : String) : String :=
  (Text.after? "\uFEFF" text).getD text

/-- The layer of the file that a path names; a missing file sets nothing. -/
def fileLayer (readers : ForeignReaders) (directory : String → Option String) (path : String) :
    Except ConfigFault (Entries Json) :=
  match locate? readers directory path with
  | none => .ok []
  | some (format, content) =>
    match format.read? readers (withoutMark content) with
    | some table => .ok table
    | none => .error .unreadable

/-! ## Loading -/

/-- The settings that layers describe together. -/
def ofLayers (layers : List (Entries Json)) : Except FilterError Settings :=
  match ofTable (merge layers) with
  | .error fault => .error (.config fault)
  | .ok s => (validate s).mapError .config

/-- The settings of an optional file with the environment over it.  Unless readers of other
formats are given, files are in TOML or JSON. -/
def load (directory : String → Option String) (path : Option String)
    (environment : List (String × String)) (readers : ForeignReaders := fun _ => none) :
    Except FilterError Settings :=
  match path with
  | none => ofLayers [environmentLayer environment]
  | some p =>
    match fileLayer readers directory p with
    | .error fault => .error (.config fault)
    | .ok layer => ofLayers [layer, environmentLayer environment]

/-- The settings that a TOML text describes. -/
def ofToml (text : String) : Except FilterError Settings :=
  match Toml.read? text with
  | none => .error (.config .unreadable)
  | some table => ofLayers [table]

end Settings
end HostFilter
