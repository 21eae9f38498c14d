import HostFilter.Error
import HostFilter.Json.Basic
import HostFilter.Settings.Basic
import HostFilter.Text.Affix

/-!
# Paths into the fact document

A path names one step after another; a step that ends in `[]` stands for an element
of a list.  A path with a value at its end spells a document of nested objects that a
host's facts are asked to contain.  The last step may be the lookup `exact`, which
adds nothing; other lookups have no meaning there.
-/

namespace HostFilter

/-- One step of a path into the fact document. -/
structure Step where
  name : String
  /-- Does the step lead to an element of a list? -/
  isList : Bool
deriving DecidableEq

namespace Step

/-- What marks a step to an element of a list. -/
def listMark : String :=
  "[]"

/-- Read one segment of the path that `key` spells: one list mark is taken off, and a
name must remain. -/
def read (key segment : String) : Except FilterError Step :=
  let step : Step :=
    match Text.before? listMark segment with
    | some name => ⟨name, true⟩
    | none => ⟨segment, false⟩
  if step.name = "" then .error (.emptySegment key) else .ok step

/-- A value one step deeper. -/
def wrap (step : Step) (inner : Json) : Json :=
  .obj [(step.name, if step.isList then .arr [inner] else inner)]

end Step

namespace FactPath

/-- The lookups that fields know and the fact document does not. -/
def unsupportedLookups : List String :=
  ["iexact", "contains", "icontains", "in", "gt", "gte", "lt", "lte", "startswith",
   "istartswith", "endswith", "iendswith", "range", "isnull", "regex", "iregex",
   "has_key", "has_keys", "has_any_keys", "contained_by"]

/-- The segments of a path without a lookup at the end.  A path of a single segment
has no lookup. -/
def withoutLookup (settings : Settings) (segments : List String) :
    Except FilterError (List String) :=
  match segments.getLast? with
  | some lookup =>
    if segments.length ≤ 1 then .ok segments
    else if lookup = "exact" then .ok segments.dropLast
    else if unsupportedLookups.contains lookup then
      .error (.unsupportedLookup settings.factKey lookup)
    else .ok segments
  | none => .ok segments

/-- Read all segments, from left to right. -/
def readSteps (key : String) : List String → Except FilterError (List Step)
  | [] => .ok []
  | segment :: segments =>
    match Step.read key segment with
    | .error e => .error e
    | .ok step => (readSteps key segments).map (step :: ·)

/-- The value at the end of a path, wrapped step by step. -/
def document (steps : List Step) (leaf : Json) : Json :=
  steps.foldr Step.wrap leaf

/-- The document that a path spells with a value at its end. -/
def spell (settings : Settings) (key path : String) (leaf : Json) : Except FilterError Json :=
  match withoutLookup settings (Text.pieces settings.separator path) with
  | .error e => .error e
  | .ok segments => (readSteps key segments).map (document · leaf)

/-- The path of the document column with its lookup. -/
def column (settings : Settings) : String :=
  settings.factKey ++ settings.separator ++ "contains"

end FactPath
end HostFilter
