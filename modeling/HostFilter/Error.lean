import HostFilter.Fault

/-!
# Errors

Everything that can go wrong, one constructor for each cause, and the message that a
user sees.  A bad configuration is the fault of the installation; all else is the
fault of the filter.
-/

namespace HostFilter

/-- What a limit is set on. -/
inductive Limited where
  | length
  | nesting
deriving DecidableEq

/-- The name of what is limited. -/
def Limited.name : Limited → String
  | .length => "length"
  | .nesting => "nesting depth"

/-- Why a configuration is refused. -/
inductive ConfigFault where
  | emptySeparator
  | emptyNamespace
  /-- A settings file has no readable table. -/
  | unreadable
  /-- The value under a key does not fit it. -/
  | badValue (key : String)
deriving DecidableEq

/-- The wording of a configuration fault. -/
def ConfigFault.reason : ConfigFault → String
  | .emptySeparator => "separator must not be empty"
  | .emptyNamespace => "namespace must not be empty"
  | .unreadable => "settings file is not readable"
  | .badValue key => "invalid value for " ++ key

/-- Why a filter or a configuration is refused. -/
inductive FilterError where
  /-- The text is no filter. -/
  | malformed (filter : String) (fault : SyntaxFault)
  /-- A step of the path that this key spells is empty. -/
  | emptySegment (key : String)
  /-- No model has this name. -/
  | unknownRelation (model : String)
  /-- The fact document does not support this lookup. -/
  | unsupportedLookup (factKey lookup : String)
  /-- The model has no searchable fields. -/
  | noSearchFields (model : String)
  /-- The filter is larger than a limit. -/
  | limitExceeded (what : Limited) (max : Nat)
  /-- The configuration is refused. -/
  | config (fault : ConfigFault)
deriving DecidableEq

namespace FilterError

/-- The reason why a path is refused. -/
def emptySegmentReason : String :=
  "empty path segment"

/-- The message of an error. -/
def message : FilterError → String
  | .malformed filter fault => "Invalid query " ++ filter ++ ": " ++ fault.reason
  | .emptySegment key => "Malformed path '" ++ key ++ "': " ++ emptySegmentReason
  | .unknownRelation model => "No related field named " ++ model
  | .unsupportedLookup factKey lookup =>
    factKey ++ " does not support searching with __" ++ lookup
  | .noSearchFields model => "No searchable fields for " ++ model
  | .limitExceeded what max =>
    "Filter exceeds " ++ what.name ++ " limit of " ++ String.ofList (Nat.toDigits 10 max)
  | .config fault => "Config error: " ++ fault.reason

/-- Is the filter at fault, and not the installation? -/
def isUserError : FilterError → Bool
  | .config _ => false
  | _ => true

end FilterError
end HostFilter
