import HostFilter.FactPath
import Mathlib.Data.List.Forall2
import Mathlib.Tactic.SplitIfs

/-!
# The steps of a path

A path is read into steps before the value at its end plays any part: whether it is refused
depends on the path alone.  What is not refused has a step, however the separator cuts the
path, and every step has a name.  The steps then carry any value to the document that the path
spells, from which the value can be told.

Main results:

- Theorem `FactPath.spell_eq_map_steps`: a path is read into steps first, and the value is
  wrapped afterwards.
- Theorem `FactPath.readSteps_eq_ok_iff`: segments are read one by one.
- Theorem `FactPath.steps_eq_ok`: the steps of a path are not none, and all have names.
- Theorem `FactPath.alike_of_document`: values at the end of one path are told from the
  documents.
-/

namespace HostFilter

/-! ## Pieces of a text -/

namespace Text

/-- However a text is cut, there is a piece. -/
theorem cutAt_ne_nil (s : Char) (ss cs : List Char) : cutAt s ss cs ≠ [] := by
  unfold cutAt
  split
  · simp
  · split
    · simp
    · unfold growFirst
      split <;> simp

theorem pieces_ne_nil (separator text : String) : pieces separator text ≠ [] := by
  unfold pieces cut
  split
  · simp
  · simp [cutAt_ne_nil]

end Text

/-! ## Reading a path -/

/-- A step that is read has a name. -/
theorem Step.name_ne_of_read {key segment : String} {step : Step}
    (h : read key segment = .ok step) : step.name ≠ "" := by
  simp only [read] at h
  split_ifs at h with hname
  cases h
  exact hname

namespace FactPath

variable {settings : Settings} {key path : String}

/-- The steps that a path spells. -/
def steps (settings : Settings) (key path : String) : Except FilterError (List Step) :=
  match withoutLookup settings (Text.pieces settings.separator path) with
  | .error e => .error e
  | .ok segments => readSteps key segments

/-- A path is read into steps first, and the value at its end is wrapped afterwards. -/
theorem spell_eq_map_steps (settings : Settings) (key path : String) (leaf : Json) :
    spell settings key path leaf = (steps settings key path).map (document · leaf) := by
  rw [spell, steps]
  cases withoutLookup settings (Text.pieces settings.separator path) with
  | error e => rfl
  | ok segments => rfl

/-- Segments are read one by one. -/
theorem readSteps_eq_ok_iff {segments : List String} {ss : List Step} :
    readSteps key segments = .ok ss ↔
      List.Forall₂ (fun segment step => Step.read key segment = .ok step) segments ss := by
  induction segments generalizing ss with
  | nil => cases ss <;> simp [readSteps]
  | cons segment segments ih =>
    cases hread : Step.read key segment with
    | error e => cases ss <;> simp [readSteps, hread]
    | ok step =>
      cases hrest : readSteps key segments with
      | error e => cases ss <;> simp [readSteps, hread, hrest, Except.map, ← ih]
      | ok others => cases ss <;> simp [readSteps, hread, hrest, Except.map, ← ih]

/-- Taking a lookup off leaves a segment. -/
theorem withoutLookup_ne_nil {segments rest : List String} (hne : segments ≠ [])
    (h : withoutLookup settings segments = .ok rest) : rest ≠ [] := by
  unfold withoutLookup at h
  split at h
  · split_ifs at h with hone hexact hunsupported
    · cases h
      exact hne
    · cases h
      intro hdrop
      have hlength := congrArg List.length hdrop
      simp only [List.length_dropLast, List.length_nil] at hlength
      omega
    · cases h
      exact hne
  · cases h
    exact hne

/-- Every step that is read has a name. -/
theorem name_ne_of_readSteps {segments : List String} {ss : List Step}
    (h : readSteps key segments = .ok ss) : ∀ step ∈ ss, step.name ≠ "" := by
  have hread := readSteps_eq_ok_iff.mp h
  clear h
  induction hread with
  | nil => simp
  | cons hstep _ ih => exact List.forall_mem_cons.mpr ⟨Step.name_ne_of_read hstep, ih⟩

/-- A path that is not refused has a step, and each of its steps has a name. -/
theorem steps_eq_ok {ss : List Step} (h : steps settings key path = .ok ss) :
    ss ≠ [] ∧ ∀ step ∈ ss, step.name ≠ "" := by
  unfold steps at h
  split at h
  · cases h
  · rename_i segments hsegments
    refine ⟨?_, name_ne_of_readSteps h⟩
    rintro rfl
    have hnil : segments = [] := List.forall₂_nil_right_iff.mp (readSteps_eq_ok_iff.mp h)
    exact withoutLookup_ne_nil (Text.pieces_ne_nil _ _) hsegments hnil

end FactPath

/-! ## Documents -/

/-- Two values are alike if they are equal, as they stand or by `==`, which compares doubles
as numbers. -/
def Alike {α : Type} [BEq α] (a b : α) : Prop :=
  a = b ∨ (a == b) = true

/-- Strings are alike only if they are one. -/
theorem Json.eq_of_alike_str {s t : String} (h : Alike (Json.str s) (Json.str t)) : s = t := by
  rcases h with h | h
  · exact Json.str.inj h
  · exact eq_of_beq h

/-- Values are told from what one step makes of them. -/
theorem Step.alike_of_wrap {step : Step} {a b : Json} (h : Alike (step.wrap a) (step.wrap b)) :
    Alike a b := by
  rcases h with h | h
  · left
    cases hlist : step.isList <;> simpa [wrap, hlist] using h
  · right
    cases hlist : step.isList <;>
      simpa [wrap, hlist, BEq.beq, Json.beq, Json.beqMembers, Json.beqItems] using h

/-- Values at the end of one path are told from the documents. -/
theorem FactPath.alike_of_document {ss : List Step} {a b : Json}
    (h : Alike (document ss a) (document ss b)) : Alike a b := by
  induction ss with
  | nil => exact h
  | cons step ss ih => exact ih (Step.alike_of_wrap h)

end HostFilter
