import HostFilter.Condition.Printer
import HostFilter.Proofs.Json.Decoding

/-!
# The JSON form identifies a condition

Conditions in which no double occurs are told apart by the compact text of their JSON form.
The text gives back the JSON value, and the value gives back the condition: the name of its
kind stands beside every condition but the members of a search, which are all comparisons,
and scalars, which have no such name, become values of different kinds.

Main results:

- Theorem `Scalar.toJson_inj`, `FieldTest.toJson_inj`: scalars and comparisons are told from
  their values.
- Theorem `Condition.toJson_inj`: so are conditions.
- Theorem `Condition.toJson_text_inj`: conditions whose JSON forms have one text are equal.
-/

namespace HostFilter

/-! ## Scalars and comparisons -/

namespace Scalar

/-- The scalar is no double. -/
def FloatFree : Scalar → Prop
  | .float _ => False
  | _ => True

theorem FloatFree.toJson {x : Scalar} (hx : x.FloatFree) : x.toJson.FloatFree := by
  cases x with
  | bool b => exact .bool b
  | int i => exact .int i
  | float y => exact hx.elim
  | text s => exact .str s

/-- Scalars that are no doubles are told from their values. -/
theorem toJson_inj {x y : Scalar} (hx : x.FloatFree) (hy : y.FloatFree)
    (h : x.toJson = y.toJson) : x = y := by
  cases x with
  | float a => exact hx.elim
  | _ =>
    cases y with
    | float b => exact hy.elim
    | _ => simp_all [Scalar.toJson]

end Scalar

namespace FieldTest

theorem floatFree_toJson {t : FieldTest} (ht : t.value.FloatFree) : t.toJson.FloatFree := by
  refine .obj ?_
  simp only [List.forall_mem_cons]
  exact ⟨.str _, .str _, ht.toJson, by simp⟩

/-- Comparisons with scalars that are no doubles are told from their values. -/
theorem toJson_inj {t u : FieldTest} (ht : t.value.FloatFree) (hu : u.value.FloatFree)
    (h : t.toJson = u.toJson) : t = u := by
  rcases t with ⟨path, lookup, value⟩
  rcases u with ⟨path', lookup', value'⟩
  simp only [FieldTest.toJson, Json.obj.injEq, List.cons.injEq, Prod.mk.injEq, Json.str.injEq,
    true_and, and_true] at h
  rcases h with ⟨rfl, hlookup, hvalue⟩
  obtain rfl : value = value' := Scalar.toJson_inj ht hu hvalue
  obtain rfl : lookup = lookup' := by
    cases lookup <;> cases lookup' <;> first | rfl | exact absurd hlookup (by decide)
  rfl

end FieldTest

/-! ## Conditions -/

/-- Lists are told from the lists of their images if their items are told from theirs. -/
theorem map_inj_of_mem {α β : Type} {f : α → β} {xs ys : List α}
    (hinj : ∀ x ∈ xs, ∀ y ∈ ys, f x = f y → x = y) (h : xs.map f = ys.map f) : xs = ys := by
  induction xs generalizing ys with
  | nil => exact (List.map_eq_nil_iff.mp h.symm).symm
  | cons x xs ih =>
    rcases List.map_eq_cons_iff.mp h.symm with ⟨y, ys', rfl, hy, hys⟩
    rw [hinj x (by simp) y (by simp) hy.symm,
      ih (fun x' hx y' hy' => hinj x' (by simp [hx]) y' (by simp [hy'])) hys.symm]

namespace Condition

/-- No double occurs in the condition. -/
inductive FloatFree : Condition → Prop where
  | field {test : FieldTest} (h : test.value.FloatFree) : FloatFree (.field test)
  | facts {test : FactTest} (h : test.document.FloatFree) : FloatFree (.facts test)
  | search {tests : List FieldTest} (h : ∀ t ∈ tests, t.value.FloatFree) :
      FloatFree (.search tests)
  | join {op : Connective} {members : List Condition} (h : ∀ c ∈ members, FloatFree c) :
      FloatFree (.join op members)

@[simp]
theorem toJsonAll_eq_map (cs : List Condition) : toJsonAll cs = cs.map toJson := by
  induction cs with
  | nil => rfl
  | cons c cs ih => simp [toJsonAll, ih]

theorem floatFree_tagged {kind : String} {content : Json} (h : content.FloatFree) :
    (tagged kind content).FloatFree := by
  refine .obj ?_
  simp only [List.forall_mem_cons]
  exact ⟨.str _, h, by simp⟩

/-- The JSON form of a condition without doubles has none. -/
theorem FloatFree.toJson {c : Condition} (hc : c.FloatFree) : c.toJson.FloatFree := by
  induction hc with
  | field h => exact floatFree_tagged (FieldTest.floatFree_toJson h)
  | @facts test h =>
    refine floatFree_tagged (.obj ?_)
    simp only [List.forall_mem_cons]
    exact ⟨.str _, h, by simp⟩
  | search h =>
    refine floatFree_tagged (.arr ?_)
    intro j hj
    rcases List.mem_map.mp hj with ⟨t, ht, rfl⟩
    exact FieldTest.floatFree_toJson (h t ht)
  | join _ ih =>
    refine floatFree_tagged (.arr ?_)
    intro j hj
    rw [toJsonAll_eq_map] at hj
    rcases List.mem_map.mp hj with ⟨c, hc, rfl⟩
    exact ih c hc

/-- The name of the kind and the content are told from a value that has both. -/
theorem tagged_inj {kind kind' : String} {content content' : Json}
    (h : tagged kind content = tagged kind' content') : kind = kind' ∧ content = content' := by
  simpa [tagged] using h

/-- The kinds of conditions that their JSON forms name. -/
inductive Kind where
  | field
  | facts
  | search
  | join (op : Connective)

/-- The name of a kind. -/
def Kind.name : Kind → String
  | .field => "field"
  | .facts => "containment"
  | .search => "or_group"
  | .join op => op.keyword

/-- The kind of a condition. -/
def kind : Condition → Kind
  | .field _ => .field
  | .facts _ => .facts
  | .search _ => .search
  | .join op _ => .join op

/-- No two kinds have one name. -/
theorem Kind.name_injective : Function.Injective name := by
  intro a b h
  rcases a with _ | _ | _ | _ | _ <;> rcases b with _ | _ | _ | _ | _ <;>
    first | rfl | exact absurd h (by decide)

/-- Conditions with one JSON form are of one kind. -/
theorem kind_eq {c d : Condition} (h : c.toJson = d.toJson) : c.kind = d.kind := by
  have hname (e : Condition) : ∃ content, e.toJson = tagged e.kind.name content := by
    cases e <;> exact ⟨_, rfl⟩
  rcases hname c with ⟨content, hc⟩
  rcases hname d with ⟨content', hd⟩
  rw [hc, hd] at h
  exact Kind.name_injective (tagged_inj h).1

/-- Conditions without doubles are told from their JSON forms. -/
theorem toJson_inj {c d : Condition} (hc : c.FloatFree) (hd : d.FloatFree)
    (h : c.toJson = d.toJson) : c = d := by
  have hkind : c.kind = d.kind := kind_eq h
  -- As with values, the kinds rule out all conditions of the other constructors.
  induction hc generalizing d with
  | field ht =>
    cases hd with
    | field hu => rw [FieldTest.toJson_inj ht hu (tagged_inj h).2]
    | _ => cases hkind
  | @facts t ht =>
    cases hd with
    | @facts u hu =>
      rcases t with ⟨path, document⟩
      rcases u with ⟨path', document'⟩
      have hcontent := (tagged_inj h).2
      simp only [FactTest.toJson, Json.obj.injEq, List.cons.injEq, Prod.mk.injEq,
        Json.str.injEq, true_and, and_true] at hcontent
      rcases hcontent with ⟨rfl, rfl⟩
      rfl
    | _ => cases hkind
  | search ht =>
    cases hd with
    | search hu =>
      have htests := Json.arr.inj (tagged_inj h).2
      rw [map_inj_of_mem (fun t htmem u humem => FieldTest.toJson_inj (ht t htmem) (hu u humem))
        htests]
    | _ => cases hkind
  | join _ ih =>
    cases hd with
    | join hd =>
      cases hkind
      have hmembers := Json.arr.inj (tagged_inj h).2
      rw [toJsonAll_eq_map, toJsonAll_eq_map] at hmembers
      rw [map_inj_of_mem (fun c hcmem d hdmem heq => ih c hcmem (hd d hdmem) heq (kind_eq heq))
        hmembers]
    | _ => cases hkind

/-- The compact text of the JSON form identifies a condition: conditions in which no double
occurs, whatever their shape, are equal if their texts are. -/
theorem toJson_text_inj (c d : Condition) (hc : c.FloatFree) (hd : d.FloatFree)
    (h : c.toJson.text = d.toJson.text) : c = d :=
  toJson_inj hc hd (hc.toJson.text_inj hd.toJson h)

/-- A search and a document with a bracket in a string, once joined and once put together by
hand: they have one text and are one condition.  A path that imitates what stands behind a
path does not give the text of the condition that it imitates. -/
theorem toJson_text_inj_imitated :
    combine .or (.search [⟨"n", .contains, .int 1⟩])
        (.facts ⟨"f__contains", .obj [("k\n", .arr [.null, .str "]"])]⟩) =
        .join .or [.search [⟨"n", .contains, .int 1⟩],
          .facts ⟨"f__contains", .obj [("k\n", .arr [.null, .str "]"])]⟩] ∧
      (Condition.field ⟨"a\",\"lookup\":\"exact", .exact, .text "1"⟩).toJson.text ≠
        (Condition.field ⟨"a", .exact, .text "1"⟩).toJson.text := by
  have hsearch : (Condition.search [⟨"n", .contains, .int 1⟩]).FloatFree :=
    .search (List.forall_mem_singleton.mpr trivial)
  have hitems : (Json.arr [.null, .str "]"]).FloatFree :=
    .arr (by simp [Json.FloatFree.null, Json.FloatFree.str])
  have hfacts :
      (Condition.facts ⟨"f__contains", .obj [("k\n", .arr [.null, .str "]"])]⟩).FloatFree :=
    .facts (.obj (List.forall_mem_singleton.mpr hitems))
  have hfield (path : String) : (Condition.field ⟨path, .exact, .text "1"⟩).FloatFree :=
    .field trivial
  constructor
  · refine toJson_text_inj _ _ (.join ?_) (.join ?_) rfl
    · simp [operands, hsearch, hfacts]
    · simp [hsearch, hfacts]
  · intro h
    have heq := toJson_text_inj _ _ (hfield _) (hfield _) h
    simp at heq

end Condition
end HostFilter
