import HostFilter.Proofs.Condition.Substance
import HostFilter.Proofs.FactPath.Spelling

/-!
# Telling a path from its document

A document tells the path that spelled it and the value at its end: each object has one key, the
name of a step, a list of one item marks a step into a list, and what stands at the end is
neither an object nor a list.  The steps tell the segments and, with the separator between them,
the path.  Only an `exact` at the end leaves no trace.  So two keys that ask for one containment
are the same key, with or without that lookup.

Main results:

- Theorem `FactPath.document_told`: a document tells its steps and the value at its end.
- Theorem `FactPath.path_of_steps`: the steps tell the path, up to an `exact` at its end.
- Theorem `Clause.facts_told`: no two paths are taken for each other.
-/

namespace HostFilter

/-! ## Relations that look into documents -/

namespace Json

/-- A relation of values of one kind that looks into objects and lists of a single item. -/
structure LooksInto (R : Json → Json → Prop) : Prop where
  kind : ∀ {a b : Json}, R a b → a.kind = b.kind
  member : ∀ {k l : String} {a b : Json}, R (.obj [(k, a)]) (.obj [(l, b)]) → k = l ∧ R a b
  item : ∀ {a b : Json}, R (.arr [a]) (.arr [b]) → R a b

theorem looksInto_eq : LooksInto (· = ·) where
  kind h := congrArg Json.kind h
  member h := by simpa using h
  item h := by simpa using h

/-- Equality of values, doubles as numbers, looks into them as well. -/
theorem looksInto_beq : LooksInto fun a b => (a == b) = true where
  kind {a b} h := by
    cases a with
    | bool a =>
      cases b with
      | bool b => exact congrArg Kind.bool (eq_of_beq h)
      | _ => cases h
    | _ => cases b <;> first | rfl | cases h
  member h := by simpa [BEq.beq, beq, beqMembers] using h
  item h := by simpa [BEq.beq, beq, beqItems] using h

/-- A scalar is neither a list nor an object. -/
theorem IsScalar.kind_ne {j : Json} (h : j.IsScalar) : j.kind ≠ .array ∧ j.kind ≠ .object := by
  cases h <;> simp [kind]

end Json

/-! ## Steps -/

/-- A key that leads to the fact document is the fact key or lies below it. -/
theorem Target.ofKey_eq_facts {settings : Settings} {key path : String}
    (h : ofKey settings key = .facts path) :
    (key = settings.factKey ∧ path = "") ∨
      key = settings.factKey ++ settings.separator ++ path := by
  unfold ofKey at h
  split at h
  · rename_i path' hpath
    cases h
    unfold factPath? at hpath
    split_ifs at hpath with hkey
    · cases hpath
      exact .inl ⟨hkey, rfl⟩
    · right
      rcases Option.bind_eq_some_iff.mp hpath with ⟨below, hbelow, hpath⟩
      rw [Text.after?_eq_some_iff.mp hbelow, Text.after?_eq_some_iff.mp hpath,
        String.append_assoc]
  · split at h <;> cases h

namespace Step

/-- The segment that a step is read from. -/
def segment (step : Step) : String :=
  if step.isList then step.name ++ "[]" else step.name

theorem segment_of_read {key segment : String} {step : Step}
    (h : read key segment = .ok step) : step.segment = segment := by
  rcases read_eq_ok h with ⟨name, rfl, rfl⟩ | ⟨-, rfl⟩ <;> simp [Step.segment]

theorem segment_ne {step : Step} (h : step.name ≠ "") : step.segment ≠ "" := by
  unfold segment
  split_ifs <;> simp [h]

/-- A step and what it wraps are told from the result, if what it wraps is no list. -/
theorem wrap_told {R : Json → Json → Prop} (hR : Json.LooksInto R) {s t : Step} {a b : Json}
    (ha : a.kind ≠ .array) (hb : b.kind ≠ .array) (h : R (s.wrap a) (t.wrap b)) :
    s = t ∧ R a b := by
  rcases s with ⟨name, isList⟩
  rcases t with ⟨name', isList'⟩
  rcases hR.member h with ⟨rfl, hmember⟩
  cases isList with
  | true =>
    cases isList' with
    | true => exact ⟨rfl, hR.item hmember⟩
    | false => exact absurd (hR.kind hmember).symm hb
  | false =>
    cases isList' with
    | true => exact absurd (hR.kind hmember) ha
    | false => exact ⟨rfl, hmember⟩

end Step

namespace FactPath

/-! ## Documents -/

/-- A document with a scalar at its end is no list. -/
theorem kind_document_ne {a : Json} (ha : a.IsScalar) (ss : List Step) :
    (document ss a).kind ≠ .array := by
  cases ss with
  | nil => exact ha.kind_ne.1
  | cons step ss => simp [document, Step.wrap, Json.kind]

/-- A document tells its steps and the scalar at its end. -/
theorem document_told {R : Json → Json → Prop} (hR : Json.LooksInto R) {ss tt : List Step}
    {a b : Json} (ha : a.IsScalar) (hb : b.IsScalar) (h : R (document ss a) (document tt b)) :
    ss = tt ∧ R a b := by
  induction ss generalizing tt with
  | nil =>
    cases tt with
    | nil => exact ⟨rfl, h⟩
    | cons t tt => exact absurd (hR.kind h) ha.kind_ne.2
  | cons s ss ih =>
    cases tt with
    | nil => exact absurd (hR.kind h).symm hb.kind_ne.2
    | cons t tt =>
      rcases Step.wrap_told hR (kind_document_ne ha ss) (kind_document_ne hb tt) h with
        ⟨rfl, hinner⟩
      rcases ih hinner with ⟨rfl, hleaf⟩
      exact ⟨rfl, hleaf⟩

/-! ## Paths -/

/-- The steps tell the segments that they are read from. -/
theorem segments_of_readSteps {key : String} {segments : List String} {ss : List Step}
    (h : readSteps key segments = .ok ss) : ss.map Step.segment = segments := by
  have hread := readSteps_eq_ok_iff.mp h
  clear h
  induction hread with
  | nil => rfl
  | cons hstep _ ih => rw [List.map_cons, Step.segment_of_read hstep, ih]

/-- The steps of a path are read from the segments that name steps. -/
theorem readSteps_of_steps {settings : Settings} {key path : String} {ss : List Step}
    (h : steps settings key path = .ok ss) :
    readSteps key (naming (Text.pieces settings.separator path)) = .ok ss := by
  unfold steps at h
  by_cases hunsupported : ∃ lookup, EndsUnsupported (Text.pieces settings.separator path) lookup
  · rcases hunsupported with ⟨lookup, hlookup⟩
    rw [withoutLookup_of_unsupported hlookup] at h
    cases h
  · rw [not_exists] at hunsupported
    rwa [withoutLookup_of_supported hunsupported] at h

/-- The steps of a path tell the path, up to an `exact` at its end. -/
theorem path_of_steps {settings : Settings} {key path : String} {ss : List Step}
    (h : steps settings key path = .ok ss) :
    path = settings.separator.intercalate (ss.map Step.segment) ∨
      path = settings.separator.intercalate (ss.map Step.segment) ++ settings.separator ++
        "exact" := by
  have hpath := Text.intercalate_pieces settings.separator path
  have hne : ss.map Step.segment ≠ [] := by simpa using (steps_eq_ok h).1
  have hnaming := segments_of_readSteps (readSteps_of_steps h)
  rcases naming_cases (Text.pieces settings.separator path) with hpieces | hpieces
  · left
    rw [hnaming, ← hpieces, hpath]
  · right
    rw [hpieces, ← hnaming, String.intercalate_append_of_ne_nil hne (by simp)] at hpath
    simpa using hpath.symm

/-- The key of a path that is not refused is the path below the fact key: the fact key alone
has a segment without a name. -/
theorem key_of_steps {settings : Settings} {key path : String} {ss : List Step}
    (htarget : Target.ofKey settings key = .facts path) (h : steps settings key path = .ok ss) :
    key = settings.factKey ++ settings.separator ++ path := by
  rcases Target.ofKey_eq_facts htarget with ⟨-, rfl⟩ | hkey
  · rcases steps_eq_ok h with ⟨hne, hnames⟩
    obtain ⟨step, ss, rfl⟩ : ∃ step ss', ss = step :: ss' := List.exists_cons_of_ne_nil hne
    have hsegment : step.segment ≠ "" := Step.segment_ne (hnames step (by simp))
    -- Nothing that starts with a segment is the empty path.
    rcases path_of_steps h with hpath | hpath
    · refine absurd hpath.symm ?_
      cases ss <;> simp [hsegment]
    · exact absurd hpath.symm (by simp)
  · exact hkey

end FactPath

/-! ## Clauses -/

/-- No two paths are taken for each other: clauses that stand for one containment have one value
at their ends, and their keys are the same but for an `exact` at the end of one.  This holds of
containments that are the same, and of those that are equal with doubles as numbers. -/
theorem Clause.facts_told {settings : Settings} {provider provider' : Provider} {c d : Clause}
    {s t : FactTest} (hc : (c.interpret settings provider).outcome = .ok (.facts s))
    (hd : (d.interpret settings provider').outcome = .ok (.facts t))
    (h : Alike (Condition.facts s) (Condition.facts t)) :
    (Condition.facts s = Condition.facts t →
      (Scalar.ofFactWord c.value).toJson = (Scalar.ofFactWord d.value).toJson) ∧
    ((Condition.facts s == Condition.facts t) = true →
      ((Scalar.ofFactWord c.value).toJson == (Scalar.ofFactWord d.value).toJson) = true) ∧
    (c.key.text = d.key.text ∨ c.key.text = d.key.text ++ settings.separator ++ "exact" ∨
      d.key.text = c.key.text ++ settings.separator ++ "exact") := by
  obtain @⟨⟩ | @⟨path, ss, htarget, hsteps⟩ | @⟨⟩ := interpret_eq_ok_iff.mp hc
  obtain @⟨⟩ | @⟨path', tt, htarget', hsteps'⟩ | @⟨⟩ := interpret_eq_ok_iff.mp hd
  have hleaf := (Scalar.isFinite_ofFactWord c.value).isScalar_toJson
  have hleaf' := (Scalar.isFinite_ofFactWord d.value).isScalar_toJson
  have hsame (hst : Condition.facts ⟨FactPath.column settings, FactPath.document ss _⟩ =
      Condition.facts ⟨FactPath.column settings, FactPath.document tt _⟩) :=
    FactPath.document_told Json.looksInto_eq hleaf hleaf' (by simpa using hst)
  have hequal (hst : (Condition.facts ⟨FactPath.column settings, FactPath.document ss _⟩ ==
      Condition.facts ⟨FactPath.column settings, FactPath.document tt _⟩) = true) :=
    FactPath.document_told Json.looksInto_beq hleaf hleaf' (Bool.and_eq_true_iff.mp hst).2
  refine ⟨fun hst => (hsame hst).2, fun hst => (hequal hst).2, ?_⟩
  obtain rfl : ss = tt := h.elim (fun hst => (hsame hst).1) fun hst => (hequal hst).1
  rw [FactPath.key_of_steps htarget hsteps, FactPath.key_of_steps htarget' hsteps']
  rcases FactPath.path_of_steps hsteps with hpath | hpath <;>
    rcases FactPath.path_of_steps hsteps' with hpath' | hpath' <;>
      simp [hpath, hpath', String.append_assoc]

/-- With a separator that overlaps itself, a mark that is part of a name, and numbers that are
spelled in two ways. -/
theorem Clause.facts_told_overlapping :
    ((Scalar.ofFactWord (.bare "+1")).toJson = (Scalar.ofFactWord ⟨"1", true⟩).toJson) ∧
      ("f___a[][]" = "f___a[][]__exact" ∨
        "f___a[][]" = "f___a[][]__exact" ++ "__" ++ "exact" ∨
          "f___a[][]__exact" = "f___a[][]" ++ "__" ++ "exact") := by
  have hc : (Clause.interpret { factKey := "f" } (fun _ => none)
      ⟨.bare "f___a[][]", .bare "+1"⟩).outcome =
        .ok (.facts ⟨"f__contains", .obj [("_a[]", .arr [.int 1])]⟩) := by
    cbv
  have hd : (Clause.interpret { factKey := "f" } (fun _ => none)
      ⟨.bare "f___a[][]__exact", ⟨"1", true⟩⟩).outcome =
        .ok (.facts ⟨"f__contains", .obj [("_a[]", .arr [.int 1])]⟩) := by
    cbv
  have htold := Clause.facts_told hc hd (.inl rfl)
  exact ⟨htold.1 rfl, htold.2.2⟩

end HostFilter
