import HostFilter.Decimal.Layout
import HostFilter.Error
import HostFilter.Json.Basic
import HostFilter.Settings.Basic

/-!
# From a table to settings

Values are converted to what each setting needs, generously: numbers and booleans
serve as text, and text and booleans as counts.  What is not set keeps its default,
unknown keys are ignored, and the result must have a separator and a fact key.
-/

namespace HostFilter
namespace Settings

/-- A double as the text of a setting: all its digits without an exponent, and no point
in a whole number. -/
def floatLayout : Decimal.Layout where
  tie := .up
  isPlain _ := true
  pointZero := false
  plusSign := false

/-- A value as text. -/
def text? : Json → Option String
  | .str s => some s
  | .bool b => some (if b then "true" else "false")
  | .int i => some (String.ofList (Decimal.integerText i))
  | .float x => some (floatLayout.text x)
  | _ => none

/-- Text as a count: a word for yes or no in any letter case, or digits with an
optional plus that 64 bits hold. -/
def countOfText? (text : String) : Option Nat :=
  let lower := String.ofList (text.toList.map Char.toLower)
  if ["true", "on", "yes"].contains lower then some 1
  else if ["false", "off", "no"].contains lower then some 0
  else
    let digits :=
      match text.toList with
      | '+' :: cs => cs
      | cs => cs
    (Decimal.natural? digits).filter Decimal.fitsUnsigned

/-- A value as an optional count.  A double is rounded, halves away from zero, and
brought into the range of 64 bits; `null` stands for none. -/
def count? : Json → Option (Option Nat)
  | .null => some none
  | .bool b => some (some (if b then 1 else 0))
  | .int (.ofNat n) => some (some n)
  | .float x => some (some x.round.toUInt64.toNat)
  | .str s => (countOfText? s).map some
  | _ => none

/-- A value as a list of texts. -/
def texts? : Json → Option (List String)
  | .arr items => items.mapM text?
  | _ => none

/-- A value as a table of lists of texts. -/
def fieldTable? : Json → Option (Entries (List String))
  | .obj members => members.mapM fun (model, fields) => (texts? fields).map (model, ·)
  | _ => none

/-- What a table sets under a key, or the default. -/
def setting {α : Type} (table : Entries Json) (key : String) (default : α)
    (convert? : Json → Option α) : Except ConfigFault α :=
  match table.find? key with
  | none => .ok default
  | some value =>
    match convert? value with
    | some a => .ok a
    | none => .error (.badValue key)

/-- The settings that a table describes. -/
def ofTable (table : Entries Json) : Except ConfigFault Settings := do
  let defaults : Settings := {}
  return {
    factKey := ← setting table "namespace" defaults.factKey text?
    separator := ← setting table "separator" defaults.separator text?
    rootModel := ← setting table "root_model" defaults.rootModel text?
    maxLength := ← setting table "max_length" defaults.maxLength count?
    maxDepth := ← setting table "max_depth" defaults.maxDepth count?
    searchFields := ← setting table "search_fields" defaults.searchFields fieldTable? }

/-- Settings without a separator or a fact key are refused. -/
def validate (s : Settings) : Except ConfigFault Settings :=
  if s.separator = "" then .error .emptySeparator
  else if s.factKey = "" then .error .emptyNamespace
  else .ok s

end Settings
end HostFilter
