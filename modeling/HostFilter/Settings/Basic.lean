import HostFilter.Entries

/-!
# Settings

What can be configured: how keys are divided and which of them lead into the fact
document, the model that a plain search looks at, limits on a filter's size, and the
searchable fields of each model.
-/

namespace HostFilter

/-- The settings of the filter language. -/
structure Settings where
  /-- The key under which the fact document lies. -/
  factKey : String := "ansible_facts"
  /-- What divides the steps of a key. -/
  separator : String := "__"
  /-- The model whose fields a plain search looks at. -/
  rootModel : String := "host"
  /-- The greatest number of characters of a filter. -/
  maxLength : Option Nat := none
  /-- The greatest nesting depth of parentheses. -/
  maxDepth : Option Nat := none
  /-- The searchable fields of each model. -/
  searchFields : Entries (List String) := []

end HostFilter
