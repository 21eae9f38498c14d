import HostFilter.Entries

/-!
# JSON values

Structured values as they occur in fact documents and in settings files.  Integers
and doubles are kept apart, and an object lists its members in the order in which
they are written; `Json.object` sorts them by key.
-/

namespace HostFilter

/-- A structured value. -/
inductive Json where
  | null
  | bool (b : Bool)
  | int (i : Int)
  | float (x : Float)
  | str (s : String)
  | arr (items : List Json)
  | obj (members : List (String × Json))

namespace Json

/-- The object with the given members, sorted by key; of equal keys the last counts. -/
def object (members : List (String × Json)) : Json :=
  .obj (Entries.ofList members)

mutual

/-- Equality of values.  Doubles compare as numbers, so a NaN differs from itself
and the two zeros are equal; an integer never equals a double. -/
def beq : Json → Json → Bool
  | .null, .null => true
  | .bool a, .bool b => a == b
  | .int a, .int b => a == b
  | .float a, .float b => a == b
  | .str a, .str b => a == b
  | .arr a, .arr b => beqItems a b
  | .obj a, .obj b => beqMembers a b
  | _, _ => false

/-- Equality of lists of values, item by item. -/
def beqItems : List Json → List Json → Bool
  | [], [] => true
  | a :: as, b :: bs => a.beq b && beqItems as bs
  | _, _ => false

/-- Equality of lists of members, in order, by key and value. -/
def beqMembers : List (String × Json) → List (String × Json) → Bool
  | [], [] => true
  | (k, a) :: as, (l, b) :: bs => k == l && a.beq b && beqMembers as bs
  | _, _ => false

end

instance : BEq Json := ⟨beq⟩

end Json
end HostFilter
