import HostFilter.Json.Basic

/-!
# Assembling TOML tables

A TOML text fills its tables bit by bit: headers open tables or append to arrays of
tables, and dotted keys create tables on the way.  Every table may be defined in only
one of these ways, and every key once; what breaks these rules is refused.
-/

namespace HostFilter
namespace Toml

/-- How a table came into being. -/
inductive Origin where
  /-- As the way to a table that a header names. -/
  | implied
  /-- As the way to a value that a dotted key names. -/
  | dotted
  /-- By a header of its own. -/
  | header
deriving DecidableEq

/-- What a key holds while a text is being read. -/
inductive Node where
  | leaf (value : Json)
  | table (origin : Origin) (entries : List (String × Node))
  | tables (front : List (List (String × Node))) (last : List (String × Node))

/-- A key with the keys of the tables that lead to it. -/
structure Key where
  path : List String
  name : String

namespace Node

/-- Set a value behind a dotted key.  The tables on the way must not have a header of
their own; implied ones count as dotted from then on.  The last table of an array may
be passed through, but does not take the value itself. -/
def assign (name : String) (value : Json) : List String → Entries Node → Option (Entries Node)
  | [], entries =>
    match entries.find? name with
    | none => some (entries.insert name (.leaf value))
    | some _ => none
  | key :: path, entries =>
    match entries.find? key with
    | none => do return entries.insert key (.table .dotted (← assign name value path []))
    | some (.table .header _) => none
    | some (.table _ inner) => do
      return entries.insert key (.table .dotted (← assign name value path inner))
    | some (.tables front last) =>
      if path.isEmpty then none
      else do return entries.insert key (.tables front (← assign name value path last))
    | some (.leaf _) => none

/-- Assign values one after another. -/
def assignAll (assignments : List (Key × Json)) (entries : Entries Node) :
    Option (Entries Node) :=
  assignments.foldlM (fun entries (key, value) => assign key.name value key.path entries) entries

/-- Change the table that the keys of a header lead to; of an array of tables, the
last one counts. -/
def descend (change : Entries Node → Option (Entries Node)) :
    List String → Entries Node → Option (Entries Node)
  | [], entries => change entries
  | key :: path, entries =>
    match entries.find? key with
    | none => do return entries.insert key (.table .implied (← descend change path []))
    | some (.table origin inner) => do
      return entries.insert key (.table origin (← descend change path inner))
    | some (.tables front last) => do
      return entries.insert key (.tables front (← descend change path last))
    | some (.leaf _) => none

/-- Open a table under a header and fill it.  Only a table that other headers imply
may be there before. -/
def openTable (assignments : List (Key × Json)) (name : String) (entries : Entries Node) :
    Option (Entries Node) :=
  match entries.find? name with
  | none => do return entries.insert name (.table .header (← assignAll assignments []))
  | some (.table .implied inner) => do
    return entries.insert name (.table .header (← assignAll assignments inner))
  | some _ => none

/-- Append a table to an array of tables and fill it. -/
def appendTable (assignments : List (Key × Json)) (name : String) (entries : Entries Node) :
    Option (Entries Node) := do
  let filled ← assignAll assignments []
  match entries.find? name with
  | none => return entries.insert name (.tables [] filled)
  | some (.tables front last) => return entries.insert name (.tables (front ++ [last]) filled)
  | some _ => none

mutual

/-- The finished value of a node. -/
def toJson : Node → Json
  | .leaf value => value
  | .table _ entries => .obj (toMembers entries)
  | .tables front last => .arr (toObjects front ++ [.obj (toMembers last)])

/-- The finished members of a table. -/
def toMembers : List (String × Node) → List (String × Json)
  | [] => []
  | (key, node) :: entries => (key, node.toJson) :: toMembers entries

/-- The finished tables of an array. -/
def toObjects : List (List (String × Node)) → List Json
  | [] => []
  | entries :: others => .obj (toMembers entries) :: toObjects others

end

end Node
end Toml
end HostFilter
