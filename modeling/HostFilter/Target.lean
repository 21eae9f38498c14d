import HostFilter.Settings.Basic
import HostFilter.Text.Affix

/-!
# Targets of keys

What the key of a clause leads to: the fact document, a search, or a field.  The
fact document comes first, so a key below it is never a search.
-/

namespace HostFilter

/-- What a key leads to. -/
inductive Target where
  /-- A field, possibly of a related model. -/
  | field (path : String)
  /-- A place in the fact document. -/
  | facts (path : String)
  /-- A search of the root model, or of the model that a relation leads to. -/
  | search (relation : Option String)
deriving DecidableEq

namespace Target

/-- The key of a search, and its last step when a relation stands in front. -/
def searchKey : String :=
  "search"

/-- The path of a key below the fact document, if it lies there. -/
def factPath? (settings : Settings) (key : String) : Option String :=
  if key = settings.factKey then some ""
  else (Text.after? settings.factKey key).bind (Text.after? settings.separator)

/-- The relation of a search key, if it is one. -/
def relation? (settings : Settings) (key : String) : Option (Option String) :=
  if key = searchKey then some none
  else ((Text.before? searchKey key).bind (Text.before? settings.separator)).map some

/-- What a key leads to. -/
def ofKey (settings : Settings) (key : String) : Target :=
  match factPath? settings key with
  | some path => .facts path
  | none =>
    match relation? settings key with
    | some relation => .search relation
    | none => .field key

end Target
end HostFilter
