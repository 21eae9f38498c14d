import HostFilter.Decimal.Layout
import HostFilter.Json.Basic
import HostFilter.Json.Quoted

/-!
# The compact text of JSON values

Values are written without blanks, members in the order in which the object lists
them.  A double that is not finite has no JSON form and is written `null`.
-/

namespace HostFilter
namespace Json

/-- Doubles from `10 ^ (-5)` up to `10 ^ 16` are written without an exponent and
always with a point; other exponents carry their sign, and of two equally near
decimals the even one is taken. -/
def floatLayout : Decimal.Layout where
  tie := .toEven
  isPlain e := -5 ≤ e && e < 16
  pointZero := true
  plusSign := true

/-- The text of a double. -/
def floatText (x : Float) : List Char :=
  if x.isFinite then (floatLayout.text x).toList else ['n', 'u', 'l', 'l']

mutual

/-- The characters of the compact text. -/
def render : Json → List Char
  | .null => ['n', 'u', 'l', 'l']
  | .bool true => ['t', 'r', 'u', 'e']
  | .bool false => ['f', 'a', 'l', 's', 'e']
  | .int i => Decimal.integerText i
  | .float x => floatText x
  | .str s => quoted s
  | .arr items => '[' :: [','].intercalate (renderItems items) ++ [']']
  | .obj members => '\x7b' :: [','].intercalate (renderMembers members) ++ ['\x7d']

/-- The texts of the items of an array. -/
def renderItems : List Json → List (List Char)
  | [] => []
  | item :: items => item.render :: renderItems items

/-- The texts of the members of an object: the quoted key, a colon and the value. -/
def renderMembers : List (String × Json) → List (List Char)
  | [] => []
  | (key, value) :: members => (quoted key ++ ':' :: value.render) :: renderMembers members

end

/-- The compact text of a value. -/
def text (j : Json) : String :=
  String.ofList j.render

end Json
end HostFilter
