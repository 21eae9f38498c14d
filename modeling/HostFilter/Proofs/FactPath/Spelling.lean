import HostFilter.Proofs.Compilation.Leaves
import HostFilter.Proofs.Text.Pieces

/-!
# The document that a key spells

A key below the fact key spells a document by the segments of its path, whatever they are: the
key is never taken for a search.  The last of several segments may be a lookup.  One that the
document does not support is refused before any segment is looked at; `exact` is dropped.  Then
a segment without a name is refused, with the whole key.  What is left is a document that
follows the segments from its root, with the value at its end.

Main results:

- Theorem `Target.ofKey_below`: a key below the fact key leads to a place in the fact document.
- Theorem `Step.read_marked`, `Step.read_plain`: what a segment is read as.
- Theorem `FactPath.withoutLookup_of_unsupported`, `FactPath.withoutLookup_of_supported`: which
  lookup is refused, and which is dropped.
- Theorem `FactPath.readSteps_eq_error`, `FactPath.exists_readSteps`: which segments are refused.
- Theorem `FactPath.nests_document`: the document follows the segments.
- Theorem `Clause.interpret_below`: what a key below the fact key spells.
-/

namespace HostFilter

/-! ## Keys below the fact key -/

/-- A key below the fact key leads to a place in the fact document, whatever its path. -/
theorem Target.ofKey_below {settings : Settings} (hsep : settings.separator ≠ "")
    (path : String) :
    ofKey settings (settings.factKey ++ settings.separator ++ path) = .facts path := by
  have hne : settings.factKey ++ settings.separator ++ path ≠ settings.factKey := by
    intro h
    have hlength := congrArg String.length h
    have hpos : settings.separator.length ≠ 0 := by simpa using hsep
    simp only [String.length_append] at hlength
    omega
  have hbelow : Text.after? settings.factKey (settings.factKey ++ settings.separator ++ path) =
      some (settings.separator ++ path) := Text.after?_eq_some_iff.mpr (String.append_assoc ..)
  have hpath : Text.after? settings.separator (settings.separator ++ path) = some path :=
    Text.after?_eq_some_iff.mpr rfl
  simp [ofKey, factPath?, hne, hbelow, hpath]

/-! ## Segments -/

namespace Step

/-- A segment with a list mark is a step to an element of a list, named by what precedes the
mark. -/
theorem read_marked (key name : String) :
    read key (name ++ "[]") =
      if name = "" then .error (.emptySegment key) else .ok ⟨name, true⟩ := by
  have hmark : Text.before? listMark (name ++ "[]") = some name :=
    Text.before?_eq_some_iff.mpr rfl
  simp [read, hmark]

/-- Any other segment is the name of its step. -/
theorem read_plain (key : String) {segment : String} (hplain : ∀ name, segment ≠ name ++ "[]") :
    read key segment =
      if segment = "" then .error (.emptySegment key) else .ok ⟨segment, false⟩ := by
  have hmark : Text.before? listMark segment = none := by
    cases h : Text.before? listMark segment with
    | none => rfl
    | some name => exact absurd (Text.before?_eq_some_iff.mp h) (hplain name)
  simp [read, hmark]

/-- What a segment can be read as: the mark at its end tells whether the step leads to an
element of a list. -/
theorem read_eq_ok {key segment : String} {step : Step} (h : read key segment = .ok step) :
    (∃ name, segment = name ++ "[]" ∧ step = ⟨name, true⟩) ∨
      (∀ name, segment ≠ name ++ "[]") ∧ step = ⟨segment, false⟩ := by
  by_cases hmarked : ∃ name, segment = name ++ "[]"
  · rcases hmarked with ⟨name, rfl⟩
    rw [read_marked] at h
    split_ifs at h
    cases h
    exact .inl ⟨name, rfl, rfl⟩
  · rw [not_exists] at hmarked
    rw [read_plain key hmarked] at h
    split_ifs at h
    cases h
    exact .inr ⟨hmarked, rfl⟩

/-- A segment is refused exactly if nothing but perhaps a list mark stands in it. -/
theorem read_cases (key segment : String) :
    ((segment = "" ∨ segment = "[]") ∧ read key segment = .error (.emptySegment key)) ∨
      (segment ≠ "" ∧ segment ≠ "[]" ∧ ∃ step, read key segment = .ok step) := by
  by_cases hmarked : ∃ name, segment = name ++ "[]"
  · rcases hmarked with ⟨name, rfl⟩
    rw [read_marked]
    by_cases hname : name = ""
    · simp [hname]
    · right
      simp [hname]
  · rw [not_exists] at hmarked
    rw [read_plain key hmarked]
    by_cases hsegment : segment = ""
    · simp [hsegment]
    · right
      refine ⟨hsegment, hmarked "", ?_⟩
      simp [hsegment]

end Step

namespace FactPath

variable {settings : Settings} {key : String}

/-! ## Lookups at the end -/

/-- The segments are several and end in a lookup that the fact document does not support. -/
def EndsUnsupported (segments : List String) (lookup : String) : Prop :=
  1 < segments.length ∧ segments.getLast? = some lookup ∧ lookup ∈ unsupportedLookups

/-- The segments that name steps: all of them, less an `exact` at the end of several. -/
def naming (segments : List String) : List String :=
  if 1 < segments.length ∧ segments.getLast? = some "exact" then segments.dropLast else segments

/-- The segments are those that name steps, or those and an `exact`. -/
theorem naming_cases (segments : List String) :
    segments = naming segments ∨ segments = naming segments ++ ["exact"] := by
  unfold naming
  split_ifs with hexact
  · right
    exact (List.dropLast_append_getLast? "exact" hexact.2).symm
  · exact .inl rfl

/-- An unsupported lookup is refused. -/
theorem withoutLookup_of_unsupported {segments : List String} {lookup : String}
    (h : EndsUnsupported segments lookup) :
    withoutLookup settings segments = .error (.unsupportedLookup settings.factKey lookup) := by
  rcases h with ⟨hmany, hlast, hlookup⟩
  have hexact : lookup ≠ "exact" := by
    rintro rfl
    exact absurd hlookup (by decide)
  simp [withoutLookup, hlast, hmany, hexact, hlookup]

/-- Without one, the segments that name steps are left. -/
theorem withoutLookup_of_supported {segments : List String}
    (h : ∀ lookup, ¬ EndsUnsupported segments lookup) :
    withoutLookup settings segments = .ok (naming segments) := by
  unfold withoutLookup naming
  cases hlast : segments.getLast? with
  | none => simp
  | some lookup =>
    by_cases hmany : 1 < segments.length
    · have hlookup : lookup ∉ unsupportedLookups := fun hmem => h lookup ⟨hmany, hlast, hmem⟩
      by_cases hexact : lookup = "exact"
      · simp [hmany, hexact]
      · simp [hmany, hexact, hlookup]
    · simp [hmany, Nat.le_of_not_lt hmany]

/-! ## Reading the segments -/

theorem readSteps_eq_error {segments : List String}
    (h : ∃ segment ∈ segments, segment = "" ∨ segment = "[]") :
    readSteps key segments = .error (.emptySegment key) := by
  rcases h with ⟨segment, hmem, hempty⟩
  induction segments with
  | nil => cases hmem
  | cons first segments ih =>
    rcases Step.read_cases key first with ⟨-, hread⟩ | ⟨hne, hne', step, hread⟩
    · rw [readSteps, hread]
    · have hrest : segment ∈ segments := by
        rcases List.mem_cons.mp hmem with rfl | hrest
        · rcases hempty with hempty | hempty
          · exact absurd hempty hne
          · exact absurd hempty hne'
        · exact hrest
      rw [readSteps, hread, ih hrest]
      rfl

theorem exists_readSteps {segments : List String}
    (h : ∀ segment ∈ segments, segment ≠ "" ∧ segment ≠ "[]") :
    ∃ ss, readSteps key segments = .ok ss := by
  induction segments with
  | nil => exact ⟨[], rfl⟩
  | cons segment segments ih =>
    rcases List.forall_mem_cons.mp h with ⟨⟨hne, hne'⟩, hrest⟩
    rcases ih hrest with ⟨ss, hss⟩
    rcases Step.read_cases key segment with ⟨hempty | hempty, -⟩ | ⟨-, -, step, hread⟩
    · exact absurd hempty hne
    · exact absurd hempty hne'
    · refine ⟨step :: ss, ?_⟩
      rw [readSteps, hread, hss]
      rfl

/-! ## The document -/

/-- Read from its root, the document follows the segments down to the value: each segment is
the only key of an object.  A list mark at the end of a segment is no part of the key, and says
that what the key holds is alone in a list. -/
inductive Nests (value : Json) : List String → Json → Prop where
  | here : Nests value [] value
  | plain {segment : String} {segments : List String} {inner : Json}
      (hplain : ∀ name, segment ≠ name ++ "[]") (hinner : Nests value segments inner) :
      Nests value (segment :: segments) (.obj [(segment, inner)])
  | marked {name : String} {segments : List String} {inner : Json}
      (hinner : Nests value segments inner) :
      Nests value ((name ++ "[]") :: segments) (.obj [(name, .arr [inner])])

/-- The document of the steps follows the segments that the steps were read from. -/
theorem nests_document {segments : List String} {ss : List Step} (value : Json)
    (h : readSteps key segments = .ok ss) : Nests value segments (document ss value) := by
  have hread := readSteps_eq_ok_iff.mp h
  clear h
  induction hread with
  | nil => exact .here
  | @cons segment step segments ss hstep _ ih =>
    rcases Step.read_eq_ok hstep with ⟨name, rfl, rfl⟩ | ⟨hplain, rfl⟩
    · exact .marked ih
    · exact .plain hplain ih

end FactPath

/-! ## Clauses -/

/-- What a key below the fact key spells.  Its path is split at the separator in one way,
leftmost first.  An unsupported lookup behind other segments is refused, whatever these are;
else a segment without a name is refused; else the condition is the containment of the document
that follows the segments down to the value.  The provider is not asked. -/
theorem Clause.interpret_below (settings : Settings) (provider : Provider) (path : String)
    (c : Clause) (hsep : settings.separator ≠ "")
    (hkey : c.key.text = settings.factKey ++ settings.separator ++ path) :
    ∃ segments, Text.SplitsInto settings.separator path segments ∧
      (∀ others, Text.SplitsInto settings.separator path others → others = segments) ∧
      settings.separator.intercalate segments = path ∧
      (∀ lookup, FactPath.EndsUnsupported segments lookup →
        c.interpret settings provider =
          .lift (.error (.unsupportedLookup settings.factKey lookup))) ∧
      ((∀ lookup, ¬ FactPath.EndsUnsupported segments lookup) →
        ((∃ segment ∈ FactPath.naming segments, segment = "" ∨ segment = "[]") →
          c.interpret settings provider = .lift (.error (.emptySegment c.key.text))) ∧
        ((∀ segment ∈ FactPath.naming segments, segment ≠ "" ∧ segment ≠ "[]") →
          ∃ document,
            FactPath.Nests (Scalar.ofFactWord c.value).toJson (FactPath.naming segments) document ∧
            c.interpret settings provider = .lift (.ok (.facts
              ⟨settings.factKey ++ settings.separator ++ "contains", document⟩)))) := by
  have htarget : Target.ofKey settings c.key.text = .facts path := by
    rw [hkey]
    exact Target.ofKey_below hsep path
  have hinterpret : c.interpret settings provider = .lift
      ((FactPath.spell settings c.key.text path (Scalar.ofFactWord c.value).toJson).map
        fun document => .facts ⟨FactPath.column settings, document⟩) := by
    rw [interpret, htarget]
  refine ⟨Text.pieces settings.separator path, (Text.splitsInto_iff hsep).mpr rfl,
    fun others => (Text.splitsInto_iff hsep).mp, Text.intercalate_pieces .., ?_, ?_⟩
  · intro lookup hunsupported
    rw [hinterpret, FactPath.spell, FactPath.withoutLookup_of_unsupported hunsupported]
    rfl
  · intro hsupported
    constructor
    · intro hempty
      rw [hinterpret, FactPath.spell, FactPath.withoutLookup_of_supported hsupported]
      simp only [FactPath.readSteps_eq_error hempty]
      rfl
    · intro hnamed
      obtain ⟨ss, hss⟩ : ∃ ss, FactPath.readSteps c.key.text _ = .ok ss :=
        FactPath.exists_readSteps hnamed
      refine ⟨_, FactPath.nests_document _ hss, ?_⟩
      rw [hinterpret, FactPath.spell, FactPath.withoutLookup_of_supported hsupported]
      simp only [hss]
      rfl

/-- Below the fact key, `search` is a step like any other and `exact` none at all; and in the
second key the unsupported lookup is refused, not the empty segment in front of it. -/
theorem Clause.interpret_below_search :
    (∃ document, FactPath.Nests (.str "\"null\"") ["a[]", "search"] document ∧
      Clause.interpret { factKey := "f" } (fun _ => none)
          ⟨.bare "f__a[]__search__exact", ⟨"null", true⟩⟩ =
        .lift (.ok (.facts ⟨"f__contains", document⟩))) ∧
      Clause.interpret { factKey := "f" } (fun _ => none) ⟨.bare "f____in", .bare "1"⟩ =
        .lift (.error (.unsupportedLookup "f" "in")) := by
  constructor
  · rcases Clause.interpret_below { factKey := "f" } (fun _ => none) "a[]__search__exact"
      ⟨.bare "f__a[]__search__exact", ⟨"null", true⟩⟩ (by decide) (by cbv) with
      ⟨segments, -, hunique, -, -, hsupported⟩
    obtain rfl : ["a[]", "search", "exact"] = segments :=
      hunique _ ((Text.splitsInto_iff (by decide)).mpr (by cbv))
    have hlookup : ∀ lookup, ¬ FactPath.EndsUnsupported ["a[]", "search", "exact"] lookup := by
      rintro lookup ⟨-, hlast, hmem⟩
      cases hlast
      exact absurd hmem (by decide)
    exact (hsupported hlookup).2 (by decide)
  · rcases Clause.interpret_below { factKey := "f" } (fun _ => none) "__in"
      ⟨.bare "f____in", .bare "1"⟩ (by decide) (by cbv) with ⟨segments, -, hunique, -, hrefused, -⟩
    obtain rfl : ["", "in"] = segments :=
      hunique _ ((Text.splitsInto_iff (by decide)).mpr (by cbv))
    exact hrefused "in" ⟨by decide, rfl, by decide⟩

end HostFilter
