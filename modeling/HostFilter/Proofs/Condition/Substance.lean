import HostFilter.Proofs.Compilation.Leaves
import HostFilter.Proofs.Condition.Identity
import HostFilter.Proofs.Condition.Normal

/-!
# What stands in a compiled condition

Whatever the settings, and be it an empty fact key or an empty separator, a filter compiles to
a condition with nothing hollow in it.  A value is never an infinite double, for such decimals
stay text.  A document is a chain of objects with one member each, under a key that is not
empty, down to one scalar.  So the JSON form of the condition has no `null`, no empty list and
no empty object anywhere.

Main results:

- Theorem `FactPath.isChain_document`: named steps with a scalar at their end spell a chain.
- Theorem `Clause.Means.substantial`: a clause stands for a leaf with nothing hollow in it.
- Theorem `Condition.Normal.nowhereEmpty_toJson`: the JSON form of a condition of such leaves
  is nowhere empty.
- Theorem `compileFilter_substantial`: so is the JSON form of every compiled condition.
-/

namespace HostFilter

/-! ## Scalars -/

/-- The scalar is no double, or a finite one. -/
def Scalar.IsFinite : Scalar → Prop
  | .float x => x.isFinite = true
  | _ => True

/-- A text never spells an infinite double. -/
theorem Scalar.isFinite_ofText (text : String) : (ofText text).IsFinite := by
  unfold ofText
  split_ifs
  · trivial
  · trivial
  · split
    · split_ifs <;> trivial
    · split
      · split_ifs with hfinite
        · exact hfinite
        · trivial
      · trivial

theorem Scalar.isFinite_ofFactWord (w : Word) : (ofFactWord w).IsFinite := by
  unfold ofFactWord
  split_ifs <;> exact isFinite_ofText _

namespace Json

/-- A boolean, a number or a string; a double that is not finite is no number. -/
inductive IsScalar : Json → Prop where
  | bool (b : Bool) : IsScalar (.bool b)
  | int (i : Int) : IsScalar (.int i)
  | float {x : Float} (hx : x.isFinite = true) : IsScalar (.float x)
  | str (s : String) : IsScalar (.str s)

/-- A chain of objects with one member each, under a key that is not empty.  What a member
holds, alone or in a list of its own, is the next object or, at the end, a scalar. -/
inductive IsChain : Json → Prop where
  | last {key : String} {value : Json} (hkey : key ≠ "") (hvalue : value.IsScalar) :
      IsChain (.obj [(key, value)])
  | lastInList {key : String} {value : Json} (hkey : key ≠ "") (hvalue : value.IsScalar) :
      IsChain (.obj [(key, .arr [value])])
  | next {key : String} {inner : Json} (hkey : key ≠ "") (hinner : IsChain inner) :
      IsChain (.obj [(key, inner)])
  | nextInList {key : String} {inner : Json} (hkey : key ≠ "") (hinner : IsChain inner) :
      IsChain (.obj [(key, .arr [inner])])

/-- Nowhere in the value is a `null`, an empty list or an empty object, nor a double that would
be written as `null`. -/
inductive NowhereEmpty : Json → Prop where
  | bool (b : Bool) : NowhereEmpty (.bool b)
  | int (i : Int) : NowhereEmpty (.int i)
  | float {x : Float} (hx : x.isFinite = true) : NowhereEmpty (.float x)
  | str (s : String) : NowhereEmpty (.str s)
  | arr {items : List Json} (hne : items ≠ []) (hitems : ∀ j ∈ items, NowhereEmpty j) :
      NowhereEmpty (.arr items)
  | obj {members : List (String × Json)} (hne : members ≠ [])
      (hmembers : ∀ m ∈ members, NowhereEmpty m.2) : NowhereEmpty (.obj members)

theorem IsScalar.nowhereEmpty {j : Json} (hj : j.IsScalar) : j.NowhereEmpty := by
  cases hj with
  | bool b => exact .bool b
  | int i => exact .int i
  | float hx => exact .float hx
  | str s => exact .str s

/-- An object with one member is nowhere empty if the member is not. -/
theorem NowhereEmpty.member {key : String} {value : Json} (h : value.NowhereEmpty) :
    (Json.obj [(key, value)]).NowhereEmpty :=
  .obj (by simp) (by simpa using h)

/-- So is a list with one item. -/
theorem NowhereEmpty.item {j : Json} (h : j.NowhereEmpty) : (Json.arr [j]).NowhereEmpty :=
  .arr (by simp) (by simpa using h)

theorem IsChain.nowhereEmpty {j : Json} (hj : j.IsChain) : j.NowhereEmpty := by
  induction hj with
  | last _ hvalue => exact hvalue.nowhereEmpty.member
  | lastInList _ hvalue => exact hvalue.nowhereEmpty.item.member
  | next _ _ ih => exact ih.member
  | nextInList _ _ ih => exact ih.item.member

end Json

/-- A finite scalar becomes a scalar of JSON. -/
theorem Scalar.IsFinite.isScalar_toJson {x : Scalar} (hx : x.IsFinite) : x.toJson.IsScalar := by
  cases x with
  | bool b => exact .bool b
  | int i => exact .int i
  | float y =>
    have hy : y.isFinite = true := hx
    rw [Scalar.toJson, if_pos hy]
    exact .float hy
  | text s => exact .str s

/-! ## Documents -/

namespace Step

variable {step : Step} {j : Json}

/-- A step with a name makes a scalar the end of a chain. -/
theorem isChain_wrap_of_isScalar (hname : step.name ≠ "") (hj : j.IsScalar) :
    (step.wrap j).IsChain := by
  unfold wrap
  split_ifs
  · exact .lastInList hname hj
  · exact .last hname hj

/-- A step with a name makes a chain longer. -/
theorem isChain_wrap (hname : step.name ≠ "") (hj : j.IsChain) : (step.wrap j).IsChain := by
  unfold wrap
  split_ifs
  · exact .nextInList hname hj
  · exact .next hname hj

end Step

/-- Named steps with a scalar at their end spell a chain. -/
theorem FactPath.isChain_document {ss : List Step} {leaf : Json} (hne : ss ≠ [])
    (hnames : ∀ step ∈ ss, step.name ≠ "") (hleaf : leaf.IsScalar) :
    (document ss leaf).IsChain := by
  induction ss with
  | nil => exact absurd rfl hne
  | cons step ss ih =>
    rcases List.forall_mem_cons.mp hnames with ⟨hstep, hss⟩
    cases ss with
    | nil => exact Step.isChain_wrap_of_isScalar hstep hleaf
    | cons next ss => exact Step.isChain_wrap hstep (ih (List.cons_ne_nil next ss) hss)

/-! ## Conditions -/

/-- Leaves with nothing hollow in them: finite values, documents that are chains, and searches
in some fields. -/
def LeafRule.substantial : LeafRule where
  field test := test.value.IsFinite
  facts test := test.document.IsChain
  search tests := tests ≠ [] ∧ ∀ t ∈ tests, t.value.IsFinite

/-- A clause stands for a leaf with nothing hollow in it. -/
theorem Clause.Means.substantial {settings : Settings} {provider : Provider} {cl : Clause}
    {c : Condition} (h : Means settings provider cl c) : c.Normal .substantial := by
  cases h with
  | field => exact .field (Scalar.isFinite_ofText _)
  | facts _ hsteps =>
    rcases FactPath.steps_eq_ok hsteps with ⟨hne, hnames⟩
    exact .facts (FactPath.isChain_document hne hnames
      (Scalar.isFinite_ofFactWord _).isScalar_toJson)
  | search _ _ hne =>
    refine .search ⟨by simpa using hne, ?_⟩
    intro t ht
    rcases List.mem_map.mp ht with ⟨field, _, rfl⟩
    exact Scalar.isFinite_ofText _

theorem FieldTest.nowhereEmpty_toJson {t : FieldTest} (ht : t.value.IsFinite) :
    t.toJson.NowhereEmpty := by
  refine .obj (by simp) ?_
  simp only [List.forall_mem_cons]
  exact ⟨.str _, .str _, ht.isScalar_toJson.nowhereEmpty, by simp⟩

namespace Condition

theorem nowhereEmpty_tagged {kind : String} {content : Json} (h : content.NowhereEmpty) :
    (tagged kind content).NowhereEmpty := by
  refine .obj (by simp) ?_
  simp only [List.forall_mem_cons]
  exact ⟨.str _, h, by simp⟩

/-- The JSON form of a normal condition is nowhere empty if nothing in its leaves is hollow. -/
theorem Normal.nowhereEmpty_toJson {c : Condition} (hc : c.Normal .substantial) :
    c.toJson.NowhereEmpty := by
  induction hc with
  | field h => exact nowhereEmpty_tagged (FieldTest.nowhereEmpty_toJson h)
  | @facts test h =>
    refine nowhereEmpty_tagged (.obj (by simp) ?_)
    simp only [List.forall_mem_cons]
    exact ⟨.str _, h.nowhereEmpty, by simp⟩
  | search h =>
    refine nowhereEmpty_tagged (.arr (by simpa using h.1) ?_)
    intro j hj
    rcases List.mem_map.mp hj with ⟨t, ht, rfl⟩
    exact FieldTest.nowhereEmpty_toJson (h.2 t ht)
  | @join op members htwo _ _ ih =>
    rw [toJson, toJsonAll_eq_map]
    refine nowhereEmpty_tagged (.arr ?_ ?_)
    · intro hnil
      rw [List.map_eq_nil_iff.mp hnil] at htwo
      simp at htwo
    · intro j hj
      rcases List.mem_map.mp hj with ⟨c, hc, rfl⟩
      exact ih c hc

end Condition

/-- Filters compile to conditions with nothing hollow in them, under all settings: at every
depth a value is no infinite double, a document is a chain of objects with one member each down
to one scalar, and the JSON form has no `null`, empty list or empty object. -/
theorem compileFilter_substantial (settings : Settings) (provider : Provider) (filter : String)
    (c : Condition) (h : (compileFilter settings provider filter).outcome = .ok c) :
    c.Normal .substantial ∧ c.toJson.NowhereEmpty := by
  have hnormal : c.Normal .substantial := by
    unfold compileFilter at h
    split at h
    · cases h
    · exact Formula.compile_normal
        (fun _ _ _ hd => (Clause.interpret_eq_ok_iff.mp hd).substantial) h
  exact ⟨hnormal, hnormal.nowhereEmpty_toJson⟩

/-- A list in the path, a lookup at its end and a `null` in quotes give a chain; an integer
beyond 64 bits stays text. -/
theorem compileFilter_substantial_list :
    (compileFilter { separator := "." } (fun _ => some ["name"])
        "ansible_facts.a[].b.exact=\"null\" and (search=+7 or c=9223372036854775808)").outcome =
        .ok (.join .and [.facts ⟨"ansible_facts.contains",
            .obj [("a", .arr [.obj [("b", .str "\"null\"")]])]⟩,
          .join .or [.search [⟨"name", .contains, .int 7⟩],
            .field ⟨"c", .exact, .text "9223372036854775808"⟩]]) ∧
      (Condition.join .and [.facts ⟨"ansible_facts.contains",
            .obj [("a", .arr [.obj [("b", .str "\"null\"")]])]⟩,
          .join .or [.search [⟨"name", .contains, .int 7⟩],
            .field ⟨"c", .exact, .text "9223372036854775808"⟩]]).toJson.NowhereEmpty := by
  have h : (compileFilter { separator := "." } (fun _ => some ["name"])
      "ansible_facts.a[].b.exact=\"null\" and (search=+7 or c=9223372036854775808)").outcome =
        .ok (.join .and [.facts ⟨"ansible_facts.contains",
            .obj [("a", .arr [.obj [("b", .str "\"null\"")]])]⟩,
          .join .or [.search [⟨"name", .contains, .int 7⟩],
            .field ⟨"c", .exact, .text "9223372036854775808"⟩]]) := by
    cbv
  exact ⟨h, (compileFilter_substantial _ _ _ _ h).2⟩

end HostFilter
