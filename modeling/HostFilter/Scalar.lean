import HostFilter.Decimal.Layout
import HostFilter.Decimal.Literal
import HostFilter.Json.Basic
import HostFilter.Text.Quoted
import HostFilter.Token.Basic

/-!
# Scalars

The values that a filter compares with.  A text is read as a boolean, an integer or
a decimal if it is spelled like one, and stays text otherwise; so do integers beyond
64 bits and decimals beyond the range of doubles.
-/

namespace HostFilter

/-- A value to compare with. -/
inductive Scalar where
  | bool (b : Bool)
  | int (i : Int)
  | float (x : Float)
  | text (s : String)

namespace Scalar

/-- The scalar that a text spells. -/
def ofText (text : String) : Scalar :=
  if text = "true" then .bool true
  else if text = "false" then .bool false
  else
    match Decimal.integer? text.toList with
    | some i => if Decimal.fitsWord i then .int i else .text text
    | none =>
      match Decimal.Literal.fixedPoint? text.toList with
      | some l => if l.toFloat.isFinite then .float l.toFloat else .text text
      | none => .text text

/-- The value that a word spells in a comparison of a field: quotes do not matter. -/
def ofFieldWord (w : Word) : Scalar :=
  ofText w.text

/-- The value that a word spells inside a fact document.  A quoted `null` keeps its
quotes, which tells it from the bare word; other quotes do not matter. -/
def ofFactWord (w : Word) : Scalar :=
  if w.quoted && w.text = "null" then ofText w.written else ofText w.text

/-- The scalar as a JSON value; what is no finite number becomes `null`. -/
def toJson : Scalar → Json
  | .bool b => .bool b
  | .int i => .int i
  | .float x => if x.isFinite then .float x else .null
  | .text s => .str s

/-- The text of a scalar that is text. -/
def asText? : Scalar → Option String
  | .text s => some s
  | _ => none

/-- Doubles from `10 ^ (-4)` up to `10 ^ 16` are shown without an exponent and always
with a point; of two equally near decimals the greater one is taken. -/
def floatLayout : Decimal.Layout where
  tie := .up
  isPlain e := -4 ≤ e && e < 16
  pointZero := true
  plusSign := false

/-- The scalar for display, text between quotes. -/
def display : Scalar → String
  | .bool true => "true"
  | .bool false => "false"
  | .int i => String.ofList (Decimal.integerText i)
  | .float x => floatLayout.text x
  | .text s => Text.quoted s

/-- Equality of scalars: of one kind and equal, doubles as numbers. -/
def beq : Scalar → Scalar → Bool
  | .bool a, .bool b => a == b
  | .int a, .int b => a == b
  | .float a, .float b => a == b
  | .text a, .text b => a == b
  | _, _ => false

instance : BEq Scalar := ⟨beq⟩

end Scalar
end HostFilter
