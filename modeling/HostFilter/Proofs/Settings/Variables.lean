import HostFilter.Proofs.Decimal.Numerals
import HostFilter.Settings.Source
import Mathlib

/-!
# Text settings from variables

A variable of the environment denotes a boolean, an integer or a double if it is spelled like
one, and its own text otherwise.  A setting that is text takes the plain text of that value.
So a variable and a file set the same text unless the text spells a value in another way than
its plain text does: `007` in a variable sets `7`.

Main results:

- Theorem `Decimal.Layout.text_ne_empty`: the text of a double is not empty.
- Theorem `Settings.denotes_variableValue`, `Settings.Denotes.unique`: a variable denotes one
  value.
- Theorem `Settings.ofLayers_single`: the settings of one layer that sets one text.
- Theorem `Settings.load_variable`: what a text setting is after a variable has set it.
-/

namespace HostFilter

/-! ## Texts of doubles -/

namespace Decimal.Layout

theorem plain_ne_nil (l : Layout) {digits : List Char} (hdigits : digits ≠ []) (exponent : Int) :
    l.plain digits exponent ≠ [] := by
  simp only [plain]
  split_ifs <;> simp [hdigits]

theorem scientific_ne_nil (l : Layout) (digits : List Char) (leading : Int) :
    l.scientific digits leading ≠ [] := by
  simp [scientific]

theorem magnitudeText_ne_nil (l : Layout) (x : Float) : l.magnitudeText x ≠ [] := by
  simp only [magnitudeText]
  split_ifs
  · exact l.plain_ne_nil (by simp) 0
  · rcases exists_toDigits_eq_cons (shortest l.tie x).1 with ⟨c, cs, hcons, _⟩
    exact l.plain_ne_nil (by simp [hcons]) _
  · exact l.scientific_ne_nil _ _

/-- The text of a double is not empty. -/
theorem text_ne_empty (l : Layout) (x : Float) : l.text x ≠ "" := by
  have hfinite := l.magnitudeText_ne_nil x
  simp only [text]
  split_ifs <;> simp [hfinite]

end Decimal.Layout

namespace Settings

/-! ## What a variable denotes -/

/-- The text spells a truth value, in any letter case. -/
def SpellsBool (s : String) (b : Bool) : Prop :=
  String.ofList (s.toList.map Char.toLower) = if b then "true" else "false"

/-- The text is a numeral of an integer of 64 bits, with an optional sign. -/
def SpellsInt (s : String) (i : Int) : Prop :=
  Decimal.integer? s.toList = some i ∧ Decimal.fitsWord i = true

/-- The value that the text of a variable denotes; the first reading that applies counts. -/
inductive Denotes (s : String) : Json → Prop where
  | bool {b : Bool} (h : SpellsBool s b) : Denotes s (.bool b)
  | int {i : Int} (hbool : ∀ b, ¬ SpellsBool s b) (h : SpellsInt s i) : Denotes s (.int i)
  | float {x : Float} (hbool : ∀ b, ¬ SpellsBool s b) (hint : ∀ i, ¬ SpellsInt s i)
      (h : Decimal.float? s = some x) : Denotes s (.float x)
  | text (hbool : ∀ b, ¬ SpellsBool s b) (hint : ∀ i, ¬ SpellsInt s i)
      (hfloat : Decimal.float? s = none) : Denotes s (.str s)

theorem denotes_variableValue (s : String) : Denotes s (variableValue s) := by
  simp only [variableValue]
  split_ifs with htrue hfalse
  · exact .bool htrue
  · exact .bool hfalse
  · have hbool : ∀ b, ¬ SpellsBool s b := by
      intro b
      cases b with
      | true => exact htrue
      | false => exact hfalse
    split
    · rename_i i hi
      rcases Option.filter_eq_some_iff.mp hi with ⟨hinteger, hfits⟩
      exact .int hbool ⟨hinteger, hfits⟩
    · rename_i hnone
      have hint : ∀ i, ¬ SpellsInt s i := by
        rintro i ⟨hinteger, hfits⟩
        simp [hinteger, hfits] at hnone
      split
      · rename_i x hx
        exact .float hbool hint hx
      · rename_i hx
        exact .text hbool hint hx

/-- A text spells one truth value at most. -/
theorem SpellsBool.unique {s : String} {b b' : Bool} (h : SpellsBool s b)
    (h' : SpellsBool s b') : b = b' := by
  have heq : (if b then "true" else "false") = if b' then "true" else "false" := h.symm.trans h'
  cases b <;> cases b' <;> first | rfl | exact absurd heq (by decide)

/-- A text denotes one value at most. -/
theorem Denotes.unique {s : String} {v w : Json} (hv : Denotes s v) (hw : Denotes s w) :
    v = w := by
  cases hv with
  | bool h =>
    cases hw with
    | bool h' => rw [h.unique h']
    | int hbool | float hbool | text hbool => exact absurd h (hbool _)
  | int hbool h =>
    cases hw with
    | bool h' => exact absurd h' (hbool _)
    | int _ h' => rw [Option.some.inj (h.1.symm.trans h'.1)]
    | float _ hint | text _ hint => exact absurd h (hint _)
  | float hbool hint h =>
    cases hw with
    | bool h' => exact absurd h' (hbool _)
    | int _ h' => exact absurd h' (hint _)
    | float _ _ h' => rw [Option.some.inj (h.symm.trans h')]
    | text _ _ hfloat => rw [h] at hfloat; cases hfloat
  | text hbool hint hfloat =>
    cases hw with
    | bool h' => exact absurd h' (hbool _)
    | int _ h' => exact absurd h' (hint _)
    | float _ _ h => rw [h] at hfloat; cases hfloat
    | text => rfl

/-- What a text denotes has a plain text, which is not empty if the text is not. -/
theorem Denotes.exists_text? {s : String} {v : Json} (hs : s ≠ "") (h : Denotes s v) :
    ∃ text, text? v = some text ∧ text ≠ "" := by
  cases h with
  | @bool b =>
    refine ⟨_, rfl, ?_⟩
    cases b <;> decide
  | @int i =>
    rcases Decimal.exists_integerText_eq_cons i with ⟨c, cs, hcons, _⟩
    exact ⟨_, rfl, by simp [hcons]⟩
  | @float x => exact ⟨_, rfl, floatLayout.text_ne_empty x⟩
  | text => exact ⟨_, rfl, hs⟩

/-! ## Settings of one layer -/

/-- The settings that are text. -/
inductive TextSetting where
  | factKey
  | separator
  | rootModel

namespace TextSetting

/-- The key of a text setting in a table. -/
def key : TextSetting → String
  | .factKey => "namespace"
  | .separator => "separator"
  | .rootModel => "root_model"

/-- The variable of a text setting. -/
def variableName : TextSetting → String
  | .factKey => "SMARTFILTER_NAMESPACE"
  | .separator => "SMARTFILTER_SEPARATOR"
  | .rootModel => "SMARTFILTER_ROOT_MODEL"

/-- Settings with another text for a text setting. -/
def set (t : TextSetting) (text : String) (settings : Settings) : Settings :=
  match t with
  | .factKey => { settings with factKey := text }
  | .separator => { settings with separator := text }
  | .rootModel => { settings with rootModel := text }

/-- Another text makes other settings. -/
theorem set_injective (t : TextSetting) {text text' : String} {settings : Settings}
    (h : t.set text settings = t.set text' settings) : text = text' := by
  cases t with
  | factKey => exact congrArg Settings.factKey h
  | separator => exact congrArg Settings.separator h
  | rootModel => exact congrArg Settings.rootModel h

theorem variableKey?_variableName (t : TextSetting) :
    variableKey? t.variableName = some t.key := by
  cases t <;> cbv

/-- The key of a text setting is a place of its own. -/
theorem placeOf_key (t : TextSetting) : placeOf t.key = [.key t.key] := by
  cases t <;> cbv

end TextSetting

/-- The value serves neither as text nor as a count. -/
def Unfit (v : Json) : Prop :=
  text? v = none ∧ count? v = none

/-- A value that serves as text or as a count replaces what it is laid over. -/
theorem overlay_of_fit {v : Json} (h : ¬ Unfit v) (old : Option Json) : overlay old v = v := by
  cases v with
  | obj members => exact absurd ⟨rfl, rfl⟩ h
  | _ => rfl

/-- A layer with one value under the key of a text setting, alone. -/
theorem merge_single (t : TextSetting) {v : Json} {text : String} (h : text? v = some text) :
    merge [[(t.key, v)]] = [(t.key, v)] := by
  have hfit : ¬ Unfit v := by simp [Unfit, h]
  simp [merge, addLayer, t.placeOf_key, put, tableOf, Entries.find?, Entries.insert,
    overlay_of_fit hfit]

/-- The settings of one layer that gives one text setting: all others keep their defaults. -/
theorem ofLayers_single (t : TextSetting) {v : Json} {text : String} (h : text? v = some text)
    (hne : text ≠ "") : ofLayers [[(t.key, v)]] = .ok (t.set text {}) := by
  have htable : ofTable [(t.key, v)] = .ok (t.set text {}) := by
    cases t <;> simp [ofTable, setting, Entries.find?, TextSetting.key, TextSetting.set, h] <;> rfl
  have hvalid : validate (t.set text {}) = .ok (t.set text {}) := by
    cases t <;> simp [validate, TextSetting.set, hne]
  rw [ofLayers, merge_single t h, htable]
  simp [hvalid, Except.mapError]

/-! ## Loading -/

/-- The layer of an environment with one variable. -/
theorem environmentLayer_single (t : TextSetting) (s : String) :
    environmentLayer [(t.variableName, s)] = [(t.key, variableValue s)] := by
  simp [environmentLayer, t.variableKey?_variableName, Entries.ofList, Entries.insert]

/-- A file that gives a text setting a text, with nothing over it, sets this text. -/
theorem load_file (t : TextSetting) {readers : ForeignReaders}
    {directory : String → Option String} {path s : String} (hs : s ≠ "")
    (hfile : fileLayer readers directory path = .ok [(t.key, .str s)]) :
    load directory (some path) [] readers = .ok (t.set s {}) := by
  have hlayers : merge [[(t.key, .str s)], environmentLayer []] = merge [[(t.key, .str s)]] := rfl
  rw [load, hfile]
  simp only [ofLayers, hlayers]
  exact ofLayers_single t rfl hs

/-- A text setting that one variable sets, and nothing else: it takes the plain text of the
value that the variable denotes, and all other settings keep their defaults.  The text of the
variable comes out as it went in exactly if it is the plain text of what it denotes, as it is
when it spells no boolean, integer or double.  A file that gives the text always sets it, in
whatever format it does. -/
theorem load_variable (readers : ForeignReaders) (directory : String → Option String)
    (t : TextSetting) (s : String) (hs : s ≠ "") :
    (∃ v text, Denotes s v ∧ text? v = some text ∧
      load directory none [(t.variableName, s)] readers = .ok (t.set text {})) ∧
    (load directory none [(t.variableName, s)] readers = .ok (t.set s {}) ↔
      ∃ v, Denotes s v ∧ text? v = some s) ∧
    ∀ path, fileLayer readers directory path = .ok [(t.key, .str s)] →
      load directory (some path) [] readers = .ok (t.set s {}) := by
  rcases (denotes_variableValue s).exists_text? hs with ⟨text, htext, hne⟩
  have hload : load directory none [(t.variableName, s)] readers = .ok (t.set text {}) := by
    rw [load, environmentLayer_single]
    exact ofLayers_single t htext hne
  refine ⟨⟨_, text, denotes_variableValue s, htext, hload⟩, ?_, fun path => load_file t hs⟩
  constructor
  · intro hsame
    obtain rfl : text = s := t.set_injective (Except.ok.inj (hload.symm.trans hsame))
    exact ⟨_, denotes_variableValue text, htext⟩
  · rintro ⟨v, hv, hplain⟩
    rw [hv.unique (denotes_variableValue s), htext] at hplain
    rw [hload, Option.some.inj hplain]

/-- A separator that only looks like a number comes out of a variable as out of a file, here one
in another format that is found by its extension. -/
theorem load_variable_literal :
    ∃ (readers : ForeignReaders) (directory : String → Option String),
      directory "f.yaml" = some "separator: -1-" ∧
        load directory none [("SMARTFILTER_SEPARATOR", "-1-")] readers =
          .ok { separator := "-1-" } ∧
        load directory (some "f") [] readers = .ok { separator := "-1-" } := by
  let readers : ForeignReaders := fun format =>
    if format = .yaml then
      some fun text =>
        if text = "separator: -1-" then some [("separator", .str "-1-")] else none
    else none
  let directory : String → Option String := fun name =>
    if name = "f.yaml" then some "separator: -1-" else none
  have hdenotes : Denotes "-1-" (.str "-1-") := by
    have h : variableValue "-1-" = .str "-1-" := by
      cbv
    exact h ▸ denotes_variableValue "-1-"
  have hfile : fileLayer readers directory "f" = .ok [("separator", .str "-1-")] := by
    cbv
  have h := load_variable readers directory .separator "-1-" (by decide)
  exact ⟨readers, directory, rfl, h.2.1.mpr ⟨_, hdenotes, rfl⟩, h.2.2 "f" hfile⟩

/-- A root model with leading zeros loses them in a variable and keeps them in a file. -/
theorem load_variable_ne_load_file :
    load (fun name => if name = "f.json" then some "\x7b\"root_model\":\"007\"\x7d" else none)
        none [("SMARTFILTER_ROOT_MODEL", "007")] = .ok { rootModel := "7" } ∧
      load (fun name => if name = "f.json" then some "\x7b\"root_model\":\"007\"\x7d" else none)
        (some "f.json") [] = .ok { rootModel := "007" } ∧
      load (fun name => if name = "f.json" then some "\x7b\"root_model\":\"007\"\x7d" else none)
        none [("SMARTFILTER_ROOT_MODEL", "007")] ≠ .ok { rootModel := "007" } := by
  have hvariable :
      load (fun name => if name = "f.json" then some "\x7b\"root_model\":\"007\"\x7d" else none)
        none [("SMARTFILTER_ROOT_MODEL", "007")] = .ok { rootModel := "7" } := by
    cbv
  refine ⟨hvariable, by cbv, ?_⟩
  rw [hvariable]
  simp

end Settings
end HostFilter
