/-!
# Keyed entries

A finite table from strings to values: a list of entries whose keys increase
strictly in the order of code points, so that equal tables are equal lists.

Main results:

- Theorem `find?_insert`: what a table holds after an insertion.
-/

namespace HostFilter

/-- A table from strings to values, sorted by key. -/
abbrev Entries (α : Type) : Type :=
  List (String × α)

namespace Entries

variable {α : Type}

/-- The value under a key. -/
def find? (key : String) : Entries α → Option α
  | [] => none
  | (k, v) :: rest => if k = key then some v else find? key rest

/-- Set the value under a key, in place of an earlier one. -/
def insert (key : String) (value : α) : Entries α → Entries α
  | [] => [(key, value)]
  | (k, v) :: rest =>
    if key < k then (key, value) :: (k, v) :: rest
    else if key = k then (key, value) :: rest
    else (k, v) :: insert key value rest

/-- The table of a list of entries in any order; of equal keys the last counts. -/
def ofList (entries : List (String × α)) : Entries α :=
  entries.foldl (fun table e => insert e.1 e.2 table) []

/-- An insertion changes what its key holds and nothing else. -/
theorem find?_insert (key other : String) (value : α) (table : Entries α) :
    find? other (insert key value table) = if other = key then some value else find? other table := by
  induction table with
  | nil => by_cases h : key = other <;> simp [insert, find?, h, eq_comm]
  | cons e rest ih =>
    obtain ⟨k, v⟩ := e
    simp only [insert]
    by_cases hk : key = other
    · subst hk
      split
      · simp [find?]
      · split
        · simp [find?]
        · rename_i hne
          simp [find?, ih, Ne.symm hne]
    · split
      · simp [find?, hk, Ne.symm hk]
      · split
        · rename_i heq
          subst heq
          simp [find?, hk, Ne.symm hk]
        · simp [find?, ih, Ne.symm hk]

end Entries
end HostFilter
