/-!
# Affixes and pieces

Removing a given beginning or end from a text, and cutting a text at every
occurrence of a separator, leftmost first.

Main results:

- Theorem `dropFront?_eq_some_iff`: removing a beginning undoes putting it there.
- Theorem `dropBack?_eq_some_iff`: removing an end undoes putting it there.
-/

namespace HostFilter
namespace Text

/-- What follows `front`, if the characters begin with it. -/
def dropFront? : List Char → List Char → Option (List Char)
  | [], cs => some cs
  | _ :: _, [] => none
  | f :: front, c :: cs => if f = c then dropFront? front cs else none

/-- What precedes `back`, if the characters end with it. -/
def dropBack? (back cs : List Char) : Option (List Char) :=
  (dropFront? back.reverse cs.reverse).map List.reverse

/-- What follows `front` in `text`, if `text` begins with it. -/
def after? (front text : String) : Option String :=
  (dropFront? front.toList text.toList).map String.ofList

/-- What precedes `back` in `text`, if `text` ends with it. -/
def before? (back text : String) : Option String :=
  (dropBack? back.toList text.toList).map String.ofList

/-- Removing a beginning undoes putting it there. -/
theorem dropFront?_eq_some_iff {front cs rest : List Char} :
    dropFront? front cs = some rest ↔ cs = front ++ rest := by
  induction front generalizing cs with
  | nil => simp [dropFront?, eq_comm]
  | cons f front ih =>
    cases cs with
    | nil => simp [dropFront?]
    | cons c cs =>
      by_cases h : f = c
      · simp [dropFront?, h, ih]
      · simp [dropFront?, h, Ne.symm h]

/-- Removing an end undoes putting it there. -/
theorem dropBack?_eq_some_iff {back cs rest : List Char} :
    dropBack? back cs = some rest ↔ cs = rest ++ back := by
  simp only [dropBack?, Option.map_eq_some_iff, dropFront?_eq_some_iff]
  constructor
  · rintro ⟨kept, hcs, rfl⟩
    rw [← List.reverse_reverse cs, hcs, List.reverse_append, List.reverse_reverse]
  · rintro rfl
    exact ⟨rest.reverse, List.reverse_append, List.reverse_reverse rest⟩

/-- Put a character in front of the first piece. -/
def growFirst (c : Char) : List (List Char) → List (List Char)
  | [] => [[c]]
  | piece :: pieces => (c :: piece) :: pieces

/-- Cut a list of characters at every occurrence of the separator `s :: ss`,
leftmost first. -/
def cutAt (s : Char) (ss : List Char) (cs : List Char) : List (List Char) :=
  match cs with
  | [] => [[]]
  | c :: cs =>
    match _h : dropFront? (s :: ss) (c :: cs) with
    | some rest => [] :: cutAt s ss rest
    | none => growFirst c (cutAt s ss cs)
termination_by cs.length
decreasing_by
  · rw [dropFront?_eq_some_iff.mp _h, List.length_append, List.length_cons]
    omega
  · simp

/-- The pieces of a list of characters between the occurrences of a separator.
The empty separator occurs around every character, so it gives the single
characters with an empty piece on either side. -/
def cut (separator cs : List Char) : List (List Char) :=
  match separator with
  | [] => [] :: (cs.map fun c => [c]) ++ [[]]
  | s :: ss => cutAt s ss cs

/-- The pieces of a text between the occurrences of a separator. -/
def pieces (separator text : String) : List String :=
  (cut separator.toList text.toList).map String.ofList

end Text
end HostFilter
