import HostFilter.Condition.Basic
import HostFilter.Json.Printer

/-!
# Texts of conditions

Two texts: one for display, and a JSON form that identifies the condition and is
handed to query engines.
-/

namespace HostFilter

namespace FieldTest

/-- A comparison for display.  A lookup other than equality follows the path behind
two underscores, whatever separator the filter was read with. -/
def text (t : FieldTest) : String :=
  match t.lookup with
  | .exact => t.path ++ "=" ++ t.value.display
  | .contains => t.path ++ "__" ++ t.lookup.name ++ "=" ++ t.value.display

/-- A comparison as a JSON value. -/
def toJson (t : FieldTest) : Json :=
  .obj [("path", .str t.path), ("lookup", .str t.lookup.name), ("value", t.value.toJson)]

end FieldTest

namespace FactTest

/-- A containment for display, the document in compact form. -/
def text (t : FactTest) : String :=
  t.path ++ "=" ++ t.document.text

/-- A containment as a JSON value. -/
def toJson (t : FactTest) : Json :=
  .obj [("path", .str t.path), ("value", t.document)]

end FactTest

namespace Condition

/-- Parts in parentheses with a connective between them. -/
def joinedText (op : Connective) (parts : List String) : String :=
  "(" ++ (" " ++ op.label ++ " ").intercalate parts ++ ")"

mutual

/-- A condition for display. -/
def text : Condition → String
  | .field t => t.text
  | .facts t => t.text
  | .search tests => joinedText .or (tests.map FieldTest.text)
  | .join op members => joinedText op (textAll members)

/-- The texts of a list of conditions. -/
def textAll : List Condition → List String
  | [] => []
  | c :: cs => c.text :: textAll cs

end

/-- A JSON value under the name of its kind. -/
def tagged (kind : String) (content : Json) : Json :=
  .obj [("type", .str kind), ("predicate", content)]

mutual

/-- A condition as a JSON value. -/
def toJson : Condition → Json
  | .field t => tagged "field" t.toJson
  | .facts t => tagged "containment" t.toJson
  | .search tests => tagged "or_group" (.arr (tests.map FieldTest.toJson))
  | .join op members => tagged op.keyword (.arr (toJsonAll members))

/-- The JSON values of a list of conditions. -/
def toJsonAll : List Condition → List Json
  | [] => []
  | c :: cs => c.toJson :: toJsonAll cs

end

end Condition
end HostFilter
