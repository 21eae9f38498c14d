import HostFilter.Proofs.Settings.Layers

/-!
# Loading settings

Settings are converted and checked once all layers are merged.  So what a file gives a setting
that a variable of the environment sets plays no part, be it empty or of the wrong kind.  A
setting that no variable sets takes what the file gives it, and one that neither sets has its
default.  What is loaded has a separator and a fact key.

Main results:

- Theorem `Settings.ofTable_eq_ok_iff`: the settings of a table.
- Theorem `Settings.follows_of_ofLayers`, `Settings.Follows.ofLayers_eq_ok`: which layer each
  setting is taken from.
- Theorem `Settings.ofLayers_eq_of_overridden`: what the environment sets is not asked of the file.
- Theorem `Settings.load_key_by_key`: files that differ where variables override them give the
  same settings, and what is loaded follows the environment, the file and the defaults, in this
  order.
-/

namespace HostFilter
namespace Settings

/-! ## Settings with a plain value -/

/-- The settings whose value is a text or a count. -/
inductive PlainSetting where
  | text (t : TextSetting)
  | maxLength
  | maxDepth

namespace PlainSetting

/-- The key of a setting in a table. -/
def key : PlainSetting → String
  | .text t => t.key
  | .maxLength => "max_length"
  | .maxDepth => "max_depth"

/-- The setting has its default. -/
def IsDefault (p : PlainSetting) (s : Settings) : Prop :=
  match p with
  | .text .factKey => s.factKey = ({} : Settings).factKey
  | .text .separator => s.separator = ({} : Settings).separator
  | .text .rootModel => s.rootModel = ({} : Settings).rootModel
  | .maxLength => s.maxLength = ({} : Settings).maxLength
  | .maxDepth => s.maxDepth = ({} : Settings).maxDepth

/-- The setting has what the value converts to. -/
def Takes (p : PlainSetting) (value : Json) (s : Settings) : Prop :=
  match p with
  | .text .factKey => text? value = some s.factKey
  | .text .separator => text? value = some s.separator
  | .text .rootModel => text? value = some s.rootModel
  | .maxLength => count? value = some s.maxLength
  | .maxDepth => count? value = some s.maxDepth

/-- A variable of the environment sets the setting. -/
def SetIn (p : PlainSetting) (environment : List (String × String)) : Prop :=
  ∃ name text, (name, text) ∈ environment ∧ variableKey? name = some p.key

/-- The setting has what the value under its key converts to, or its default if there is no
value. -/
def SetBy (p : PlainSetting) (table : Entries Json) (s : Settings) : Prop :=
  (∃ value, table.find? p.key = some value ∧ p.Takes value s) ∨
    table.find? p.key = none ∧ p.IsDefault s

/-- A value that a setting has serves as text or as a count. -/
theorem Takes.fit {p : PlainSetting} {value : Json} {s : Settings} (h : p.Takes value s) :
    ¬ Unfit value := by
  rintro ⟨htext, hcount⟩
  rcases p with (_ | _ | _) | _ | _ <;> simp [Takes, htext, hcount] at h

/-- The key of a setting is a place of its own. -/
theorem placeOf_plainKey (p : PlainSetting) : placeOf p.key = [.key p.key] := by
  cases p with
  | text t => exact t.placeOf_key
  | maxLength => cbv
  | maxDepth => cbv

/-- The searchable fields are under another key. -/
theorem key_ne_search (p : PlainSetting) : p.key ≠ "search_fields" := by
  rcases p with (_ | _ | _) | _ | _ <;> decide

end PlainSetting

/-- A layer of such settings leads to no place but their keys. -/
theorem plain_of_settings {layer : Entries Json}
    (h : ∀ e ∈ layer, ∃ p : PlainSetting, p.key = e.1) : ∀ e ∈ layer, placeOf e.1 = [.key e.1] := by
  intro e he
  rcases h e he with ⟨p, hp⟩
  rw [← hp]
  exact p.placeOf_plainKey

/-! ## The layer of the environment -/

/-- A variable denotes no table, so it replaces whatever was there. -/
theorem overlay_variableValue (text : String) (old : Option Json) :
    overlay old (variableValue text) = variableValue text := by
  have hdenotes := denotes_variableValue text
  generalize variableValue text = value at hdenotes
  cases hdenotes <;> rfl

theorem environmentLayer_eq (environment : List (String × String)) :
    environmentLayer environment = Entries.ofList (environment.filterMap fun v =>
      (variableKey? v.1).map (·, variableValue v.2)) :=
  rfl

theorem mem_environmentLayer {environment : List (String × String)} {key : String} {value : Json}
    (h : (environmentLayer environment).find? key = some value) :
    (key, value) ∈ environmentLayer environment :=
  (Entries.sorted_ofList _).mem_iff.mpr h

/-- An entry of the layer is what a variable denotes. -/
theorem exists_variable {environment : List (String × String)} {e : String × Json}
    (h : e ∈ environmentLayer environment) :
    ∃ name text, (name, text) ∈ environment ∧ variableKey? name = some e.1 ∧
      e.2 = variableValue text := by
  rw [environmentLayer_eq] at h
  rcases List.mem_filterMap.mp (Entries.mem_of_mem_ofList h) with ⟨⟨name, text⟩, hmem, hvariable⟩
  rcases Option.map_eq_some_iff.mp hvariable with ⟨key, hkey, rfl⟩
  exact ⟨name, text, hmem, hkey, rfl⟩

/-- What the layer holds replaces what it is laid over. -/
theorem overlay_environmentLayer {environment : List (String × String)} {e : String × Json}
    (h : e ∈ environmentLayer environment) (old : Option Json) : overlay old e.2 = e.2 := by
  rcases exists_variable h with ⟨-, text, -, -, htext⟩
  rw [htext, overlay_variableValue]

/-- Among the variables for a setting there is a last one. -/
theorem PlainSetting.SetIn.exists_last {p : PlainSetting} {environment : List (String × String)}
    (h : p.SetIn environment) :
    ∃ before after name text, environment = before ++ (name, text) :: after ∧
      variableKey? name = some p.key ∧ ∀ v ∈ after, variableKey? v.1 ≠ some p.key := by
  induction environment with
  | nil =>
    rcases h with ⟨name, text, hmem, -⟩
    cases hmem
  | cons v environment ih =>
    by_cases hlater : p.SetIn environment
    · rcases ih hlater with ⟨before, after, name, text, rfl, hkey, hafter⟩
      exact ⟨v :: before, after, name, text, rfl, hkey, hafter⟩
    · have hafter : ∀ w ∈ environment, variableKey? w.1 ≠ some p.key :=
        fun w hw hkey => hlater ⟨w.1, w.2, hw, hkey⟩
      rcases h with ⟨name, text, hmem, hkey⟩
      rcases List.mem_cons.mp hmem with rfl | hmem
      · exact ⟨[], environment, name, text, rfl, hkey, hafter⟩
      · exact absurd hkey (hafter (name, text) hmem)

/-- Of several variables for a setting the last one counts. -/
theorem find?_environmentLayer_last {environment before after : List (String × String)}
    {key name text : String} (henvironment : environment = before ++ (name, text) :: after)
    (hkey : variableKey? name = some key) (hafter : ∀ v ∈ after, variableKey? v.1 ≠ some key) :
    (environmentLayer environment).find? key = some (variableValue text) := by
  rw [environmentLayer_eq, henvironment, List.filterMap_append,
    List.filterMap_cons_some (b := (key, variableValue text)) (by simp [hkey])]
  refine Entries.find?_ofList_last ?_
  intro e he hekey
  rcases List.mem_filterMap.mp he with ⟨v, hv, hentry⟩
  rcases Option.map_eq_some_iff.mp hentry with ⟨k, hk, rfl⟩
  exact hafter v hv (hk.trans (congrArg some hekey))

/-- The layer of the environment has an entry for exactly the settings that variables set. -/
theorem find?_environmentLayer (p : PlainSetting) (environment : List (String × String)) :
    (environmentLayer environment).find? p.key = none ↔ ¬ p.SetIn environment := by
  constructor
  · intro hnone hset
    rcases hset.exists_last with ⟨before, after, name, text, heq, hkey, hafter⟩
    rw [find?_environmentLayer_last heq hkey hafter] at hnone
    cases hnone
  · intro hset
    by_contra hsome
    rcases Option.ne_none_iff_exists'.mp hsome with ⟨value, hvalue⟩
    rcases exists_variable (mem_environmentLayer hvalue) with ⟨name, text, hmem, hkey, -⟩
    exact hset ⟨name, text, hmem, hkey⟩

/-! ## Conversion -/

/-- The settings of a table depend on nothing but what it holds under each key. -/
theorem ofTable_congr {table table' : Entries Json}
    (h : ∀ key, table.find? key = table'.find? key) : ofTable table = ofTable table' := by
  simp only [ofTable, setting, h]

/-- A setting is what its value converts to, or the default if there is no value. -/
theorem setting_eq_ok_iff {α : Type} {table : Entries Json} {key : String} {default a : α}
    {convert? : Json → Option α} :
    setting table key default convert? = .ok a ↔
      (∃ value, table.find? key = some value ∧ convert? value = some a) ∨
        table.find? key = none ∧ a = default := by
  unfold setting
  cases table.find? key with
  | none => simp [eq_comm]
  | some value => cases hconvert : convert? value <;> simp [hconvert]

theorem bind_eq_ok {ε α β : Type} {x : Except ε α} {f : α → Except ε β} {b : β} :
    (x >>= f) = .ok b ↔ ∃ a, x = .ok a ∧ f a = .ok b := by
  cases x <;> simp [bind, Except.bind]

/-- The settings of a table: each has what the table sets it to. -/
theorem ofTable_eq_ok_iff {table : Entries Json} {s : Settings} :
    ofTable table = .ok s ↔ (∀ p : PlainSetting, p.SetBy table s) ∧
      setting table "search_fields" [] fieldTable? = .ok s.searchFields := by
  simp only [ofTable, bind_eq_ok]
  constructor
  · rintro ⟨factKey, hfactKey, separator, hseparator, rootModel, hrootModel, maxLength,
      hmaxLength, maxDepth, hmaxDepth, searchFields, hsearchFields, ⟨⟩⟩
    refine ⟨fun p => ?_, hsearchFields⟩
    cases p with
    | text t =>
      cases t with
      | factKey => exact setting_eq_ok_iff.mp hfactKey
      | separator => exact setting_eq_ok_iff.mp hseparator
      | rootModel => exact setting_eq_ok_iff.mp hrootModel
    | maxLength => exact setting_eq_ok_iff.mp hmaxLength
    | maxDepth => exact setting_eq_ok_iff.mp hmaxDepth
  · rintro ⟨hset, hsearchFields⟩
    exact ⟨s.factKey, setting_eq_ok_iff.mpr (hset (.text .factKey)),
      s.separator, setting_eq_ok_iff.mpr (hset (.text .separator)),
      s.rootModel, setting_eq_ok_iff.mpr (hset (.text .rootModel)),
      s.maxLength, setting_eq_ok_iff.mpr (hset .maxLength),
      s.maxDepth, setting_eq_ok_iff.mpr (hset .maxDepth), s.searchFields, hsearchFields, rfl⟩

/-- A setting that the table does not set has its default. -/
theorem isDefault_of_unset {table : Entries Json} {s : Settings} (h : ofTable table = .ok s)
    {p : PlainSetting} (hunset : Unset p.key table) : p.IsDefault s := by
  rcases (ofTable_eq_ok_iff.mp h).1 p with ⟨value, hvalue, htakes⟩ | ⟨-, hdefault⟩
  · exact absurd (hunset value hvalue) htakes.fit
  · exact hdefault

/-- A setting takes the value that the table gives its key. -/
theorem takes_of_gives {table : Entries Json} {s : Settings} (h : ofTable table = .ok s)
    {p : PlainSetting} {value : Json} (hgives : Gives table p.key value) : p.Takes value s := by
  rcases hgives with ⟨held, hheld, hcases⟩
  rcases (ofTable_eq_ok_iff.mp h).1 p with ⟨value', hvalue', htakes⟩ | ⟨hnone, -⟩
  · obtain rfl : held = value' := Option.some.inj (hheld.symm.trans hvalue')
    rcases hcases with rfl | hunfit
    · exact htakes
    · exact absurd hunfit htakes.fit
  · rw [hheld] at hnone
    cases hnone

/-- Settings that are accepted are those of the merged table, and valid. -/
theorem ofLayers_eq_ok_iff {layers : List (Entries Json)} {s : Settings} :
    ofLayers layers = .ok s ↔
      ofTable (merge layers) = .ok s ∧ s.separator ≠ "" ∧ s.factKey ≠ "" := by
  unfold ofLayers
  cases ofTable (merge layers) with
  | error fault => simp
  | ok s' =>
    simp only [validate]
    split_ifs with hseparator hfactKey
    · simp only [Except.mapError, reduceCtorEq, Except.ok.injEq, false_iff]
      rintro ⟨rfl, hne, -⟩
      exact hne hseparator
    · simp only [Except.mapError, reduceCtorEq, Except.ok.injEq, false_iff]
      rintro ⟨rfl, -, hne⟩
      exact hne hfactKey
    · simp only [Except.mapError, Except.ok.injEq]
      constructor
      · rintro rfl
        exact ⟨rfl, hseparator, hfactKey⟩
      · exact And.left

/-- Layers are refused only as a bad configuration. -/
theorem ofLayers_cases (layers : List (Entries Json)) :
    (∃ s, ofLayers layers = .ok s) ∨ ∃ fault, ofLayers layers = .error (.config fault) := by
  unfold ofLayers
  split
  · exact .inr ⟨_, rfl⟩
  · rename_i s _
    cases validate s with
    | ok s => exact .inl ⟨s, rfl⟩
    | error fault => exact .inr ⟨fault, rfl⟩

/-! ## Which layer counts -/

/-- The settings are what the environment and, below it, a table set.  Each takes what the last
variable for it denotes, else what the table gives it, else its default, and there are a
separator and a fact key. -/
structure Follows (environment : List (String × String)) (table : Entries Json) (s : Settings) :
    Prop where
  separator_ne : s.separator ≠ ""
  factKey_ne : s.factKey ≠ ""
  takes_variable : ∀ (p : PlainSetting) (before after : List (String × String))
    (name text : String), environment = before ++ (name, text) :: after →
      variableKey? name = some p.key → (∀ v ∈ after, variableKey? v.1 ≠ some p.key) →
        p.Takes (variableValue text) s
  takes_table : ∀ (p : PlainSetting) (value : Json), ¬ p.SetIn environment →
    table.find? p.key = some value → p.Takes value s
  isDefault : ∀ p : PlainSetting, ¬ p.SetIn environment → table.find? p.key = none →
    p.IsDefault s

/-- What is loaded from a table with the environment over it follows them. -/
theorem follows_of_ofLayers {table : Entries Json} {environment : List (String × String)}
    {s : Settings} (hsorted : table.Sorted)
    (h : ofLayers [table, environmentLayer environment] = .ok s) :
    Follows environment table s := by
  rcases ofLayers_eq_ok_iff.mp h with ⟨hmerged, hseparator, hfactKey⟩
  have hkeys {p : PlainSetting} (hset : ¬ p.SetIn environment) :
      ∀ e ∈ environmentLayer environment, e.1 ≠ p.key :=
    Entries.find?_eq_none_iff.mp ((find?_environmentLayer p environment).mpr hset)
  exact {
    separator_ne := hseparator
    factKey_ne := hfactKey
    takes_variable := by
      intro p before after name text henvironment hkey hafter
      have hentry := find?_environmentLayer_last henvironment hkey hafter
      exact takes_of_gives hmerged
        (gives_addLayer p.placeOf_plainKey (Entries.sorted_ofList _) hentry _)
    takes_table := by
      intro p value hset hvalue
      have hgives := gives_addLayer p.placeOf_plainKey hsorted hvalue []
      exact takes_of_gives hmerged
        (hgives.addLayer fun e he hkey => absurd hkey (hkeys hset e he))
    isDefault := by
      intro p hset hnone
      have hunset : Unset p.key [] := by
        rintro value ⟨⟩
      exact isDefault_of_unset hmerged
        ((hunset.addLayer (Entries.find?_eq_none_iff.mp hnone)).addLayer (hkeys hset)) }

/-- If all keys are places of their own, what the environment sets counts, and else what the table
below it does. -/
theorem find?_merge {table : Entries Json} {environment : List (String × String)}
    (hsorted : table.Sorted) (htable : ∀ e ∈ table, placeOf e.1 = [.key e.1])
    (henvironment : ∀ e ∈ environmentLayer environment, placeOf e.1 = [.key e.1]) (key : String) :
    (merge [table, environmentLayer environment]).find? key =
      ((environmentLayer environment).find? key).or ((table.find? key).map (overlay none)) := by
  have hlower := find?_addLayer htable hsorted [] key
  have hupper := find?_addLayer henvironment (Entries.sorted_ofList _) (addLayer [] table) key
  change (addLayer (addLayer [] table) (environmentLayer environment)).find? key = _
  rw [hupper, hlower]
  cases hentry : (environmentLayer environment).find? key with
  | some value => simp [overlay_environmentLayer (mem_environmentLayer hentry)]
  | none => cases table.find? key <;> rfl

/-- If the layers set no more than texts and counts, settings that follow them are loaded. -/
theorem Follows.ofLayers_eq_ok {table : Entries Json} {environment : List (String × String)}
    {s : Settings} (h : Follows environment table s) (hsorted : table.Sorted)
    (hfile : ∀ e ∈ table, ∃ p : PlainSetting, p.key = e.1)
    (hvariables : ∀ v ∈ environment, ∀ key, variableKey? v.1 = some key →
      ∃ p : PlainSetting, p.key = key) (hsearch : s.searchFields = []) :
    ofLayers [table, environmentLayer environment] = .ok s := by
  have hentries : ∀ e ∈ environmentLayer environment, ∃ p : PlainSetting, p.key = e.1 := by
    intro e he
    rcases exists_variable he with ⟨name, text, hmem, hkey, -⟩
    exact hvariables (name, text) hmem e.1 hkey
  have hfind := find?_merge hsorted (plain_of_settings hfile) (plain_of_settings hentries)
  refine ofLayers_eq_ok_iff.mpr ⟨ofTable_eq_ok_iff.mpr ⟨fun p => ?_, ?_⟩, h.separator_ne,
    h.factKey_ne⟩
  · rw [PlainSetting.SetBy, hfind]
    by_cases hset : p.SetIn environment
    · rcases hset.exists_last with ⟨before, after, name, text, heq, hkey, hafter⟩
      rw [find?_environmentLayer_last heq hkey hafter]
      exact .inl ⟨_, rfl, h.takes_variable p before after name text heq hkey hafter⟩
    · rw [(find?_environmentLayer p environment).mpr hset, Option.none_or]
      cases hvalue : table.find? p.key with
      | none => exact .inr ⟨rfl, h.isDefault p hset hvalue⟩
      | some value =>
        have htakes := h.takes_table p value hset hvalue
        exact .inl ⟨value, by rw [Option.map_some, overlay_of_fit htakes.fit], htakes⟩
  · have hnone (layer : Entries Json) (hlayer : ∀ e ∈ layer, ∃ p : PlainSetting, p.key = e.1) :
        layer.find? "search_fields" = none := by
      refine Entries.find?_eq_none_iff.mpr fun e he heq => ?_
      rcases hlayer e he with ⟨p, hp⟩
      exact p.key_ne_search (hp.trans heq)
    refine setting_eq_ok_iff.mpr (.inr ⟨?_, hsearch⟩)
    rw [hfind, hnone _ hentries, hnone _ hfile]
    rfl

/-! ## Overridden files -/

/-- Files that hold the same under all keys but those of settings that variables set give the
same settings with the environment over them. -/
theorem ofLayers_eq_of_overridden {table table' : Entries Json} (h : table.Sorted)
    (h' : table'.Sorted) {environment : List (String × String)}
    (hdiffer : ∀ key, table.find? key ≠ table'.find? key →
      ∃ p : PlainSetting, p.key = key ∧ p.SetIn environment) :
    ofLayers [table, environmentLayer environment] =
      ofLayers [table', environmentLayer environment] := by
  classical
  let keys : Set String := {key | ∃ p : PlainSetting, p.key = key ∧ p.SetIn environment}
  have hplain : ∀ key ∈ keys, placeOf key = [.key key] := by
    rintro _ ⟨p, rfl, -⟩
    exact p.placeOf_plainKey
  -- The two files are one file off the keys, so they agree there as the lowest layer.
  have hfilter : table.filter (fun e => e.1 ∉ keys) = table'.filter fun e => e.1 ∉ keys := by
    refine h.filter_eq h' (fun key => key ∉ keys) fun key hkey => ?_
    by_contra hne
    exact of_decide_eq_true hkey (hdiffer key hne)
  have hfiles : AgreeOff keys (addLayer [] table) (addLayer [] table') := by
    have hleft := AgreeOff.addLayer_filter hplain table (.refl keys [])
    have hright := AgreeOff.addLayer_filter hplain table' (.refl keys [])
    rw [hfilter] at hleft
    exact hleft.trans hright.symm
  -- The environment sets every one of the keys.
  have hmerged := hfiles.override hplain fun e => @overlay_environmentLayer environment e
  have hagree : ∀ key, (merge [table, environmentLayer environment]).find? key =
      (merge [table', environmentLayer environment]).find? key := by
    intro key
    refine hmerged key ?_
    rintro ⟨⟨p, rfl, hset⟩, hnone⟩
    exact (find?_environmentLayer p environment).mp (Entries.find?_eq_none_iff.mpr hnone) hset
  rw [ofLayers, ofTable_congr hagree]
  rfl

/-! ## Loading -/

section

variable {readers : ForeignReaders} {directory : String → Option String} {path : Option String}

/-- The table of an optional file; without a file it is empty. -/
def fileTable (readers : ForeignReaders) (directory : String → Option String) :
    Option String → Except ConfigFault (Entries Json)
  | none => .ok []
  | some path => fileLayer readers directory path

theorem load_of_fileTable {table : Entries Json}
    (h : fileTable readers directory path = .ok table) (environment : List (String × String)) :
    load directory path environment readers =
      ofLayers [table, environmentLayer environment] := by
  cases path with
  | none =>
    cases h
    rfl
  | some path =>
    rw [fileTable] at h
    rw [load, h]

theorem sorted_fileTable {table : Entries Json}
    (h : fileTable readers directory path = .ok table) : table.Sorted := by
  cases path with
  | none =>
    cases h
    exact .nil
  | some path => exact sorted_fileLayer h

/-- Settings are loaded only if the file has a table. -/
theorem exists_fileTable {environment : List (String × String)} {s : Settings}
    (h : load directory path environment readers = .ok s) :
    ∃ table, fileTable readers directory path = .ok table := by
  cases path with
  | none => exact ⟨[], rfl⟩
  | some path =>
    rw [load] at h
    split at h
    · cases h
    · exact ⟨_, ‹_›⟩

end

/-- Layers of settings override key by key.  Two files whose tables differ only in settings that
variables of the environment set are loaded with the same outcome, settings or a refused
configuration.  Whatever is loaded, from a file in any format and the environment or from a TOML
text, follows the layers: a setting takes what a variable for it denotes, else what the file
gives it, and what nothing sets has its default.  If the layers set no more than texts and counts,
settings that follow them are loaded. -/
theorem load_key_by_key :
    (∀ (readers : ForeignReaders) (directory directory' : String → Option String)
        (path path' : Option String) (table table' : Entries Json)
        (environment : List (String × String)),
      fileTable readers directory path = .ok table →
      fileTable readers directory' path' = .ok table' →
      (∀ key, table.find? key ≠ table'.find? key →
        ∃ p : PlainSetting, p.key = key ∧ p.SetIn environment) →
      load directory path environment readers = load directory' path' environment readers ∧
        ((∃ s, load directory path environment readers = .ok s) ∨
          ∃ fault, load directory path environment readers = .error (.config fault))) ∧
    (∀ (readers : ForeignReaders) (directory : String → Option String) (path : Option String)
        (environment : List (String × String)) (s : Settings),
      load directory path environment readers = .ok s →
      ∃ table, fileTable readers directory path = .ok table ∧ Follows environment table s) ∧
    (∀ (readers : ForeignReaders) (directory : String → Option String) (path : Option String)
        (table : Entries Json) (environment : List (String × String)) (s : Settings),
      fileTable readers directory path = .ok table →
      (∀ e ∈ table, ∃ p : PlainSetting, p.key = e.1) →
      (∀ v ∈ environment, ∀ key, variableKey? v.1 = some key → ∃ p : PlainSetting, p.key = key) →
      s.searchFields = [] → Follows environment table s →
      load directory path environment readers = .ok s) ∧
    ∀ (text : String) (s : Settings), ofToml text = .ok s →
      ∃ table, Toml.read? text = some table ∧ Follows [] table s := by
  refine ⟨?_, ?_, ?_, ?_⟩
  · intro readers directory directory' path path' table table' environment htable htable' hdiffer
    rw [load_of_fileTable htable, load_of_fileTable htable']
    exact ⟨ofLayers_eq_of_overridden (sorted_fileTable htable) (sorted_fileTable htable') hdiffer,
      ofLayers_cases _⟩
  · intro readers directory path environment s h
    rcases exists_fileTable h with ⟨table, htable⟩
    rw [load_of_fileTable htable] at h
    exact ⟨table, htable, follows_of_ofLayers (sorted_fileTable htable) h⟩
  · intro readers directory path table environment s htable hfile hvariables hsearch hfollows
    rw [load_of_fileTable htable]
    exact hfollows.ofLayers_eq_ok (sorted_fileTable htable) hfile hvariables hsearch
  · intro text s h
    unfold ofToml at h
    split at h
    · cases h
    · rename_i table htable
      exact ⟨table, htable, follows_of_ofLayers (Toml.sorted_read? htable) h⟩

/-- Where variables override them, an empty separator and a table for the fact key do no harm in a
file: with another file that gives the same root model, and without variables, the root model is
as given and all else by default. -/
theorem load_key_by_key_overridden :
    ∃ (readers : ForeignReaders) (directory : String → Option String),
      directory "f.yaml" =
          some "separator: ''\nnamespace: \x7bx: 1\x7d\nroot_model: device" ∧
        directory "g.json" = some "\x7b\"root_model\":\"device\"\x7d" ∧
        load directory (some "f.yaml")
            [("SMARTFILTER_NAMESPACE", "f"), ("smartfilter_separator", "-")] readers =
          .ok { factKey := "f", separator := "-", rootModel := "device" } ∧
        load directory (some "g.json") [] readers = .ok { rootModel := "device" } := by
  let readers : ForeignReaders := fun format =>
    if format = .yaml then
      some fun text =>
        if text = "separator: ''\nnamespace: \x7bx: 1\x7d\nroot_model: device" then
          some [("separator", .str ""), ("namespace", .obj [("x", .int 1)]),
            ("root_model", .str "device")]
        else none
    else none
  let directory : String → Option String := fun name =>
    if name = "f.yaml" then some "separator: ''\nnamespace: \x7bx: 1\x7d\nroot_model: device"
    else if name = "g.json" then some "\x7b\"root_model\":\"device\"\x7d"
    else none
  have hfollows : Follows [] [("root_model", .str "device")] { rootModel := "device" } := {
    separator_ne := by decide
    factKey_ne := by decide
    takes_variable := by simp
    takes_table := by
      intro p value _ hvalue
      rcases p with (_ | _ | _) | _ | _ <;>
        simp [Entries.find?, PlainSetting.key, TextSetting.key] at hvalue
      rw [← hvalue]
      rfl
    isDefault := by
      intro p _ hnone
      rcases p with (_ | _ | _) | _ | _ <;>
        first | rfl | simp [Entries.find?, PlainSetting.key, TextSetting.key] at hnone }
  rcases load_key_by_key with ⟨hoverridden, -, hloaded, -⟩
  have hyaml : fileTable readers directory (some "f.yaml") = .ok
      [("namespace", .obj [("x", .int 1)]), ("root_model", .str "device"),
        ("separator", .str "")] := by
    cbv
  have hjson : fileTable readers directory (some "g.json") =
      .ok [("root_model", .str "device")] := by
    cbv
  refine ⟨readers, directory, rfl, rfl, ?_, ?_⟩
  · rw [(hoverridden readers directory directory (some "f.yaml") (some "g.json") _ _
      [("SMARTFILTER_NAMESPACE", "f"), ("smartfilter_separator", "-")] hyaml hjson ?_).1]
    · have hvalue : variableValue "f" = .str "f" := by cbv
      have hvalue' : variableValue "-" = .str "-" := by cbv
      have hkey : variableKey? "SMARTFILTER_NAMESPACE" = some "namespace" := by cbv
      have hkey' : variableKey? "smartfilter_separator" = some "separator" := by cbv
      have hlayer : environmentLayer
          [("SMARTFILTER_NAMESPACE", "f"), ("smartfilter_separator", "-")] =
            [("namespace", .str "f"), ("separator", .str "-")] := by
        simp only [environmentLayer, List.filterMap_cons, List.filterMap_nil, hkey, hkey', hvalue,
          hvalue']
        rfl
      have hmerged : merge [[("root_model", .str "device")],
          [("namespace", .str "f"), ("separator", .str "-")]] =
            [("namespace", .str "f"), ("root_model", .str "device"), ("separator", .str "-")] := by
        cbv
      rw [load_of_fileTable hjson, hlayer, ofLayers, hmerged]
      rfl
    · intro key hne
      by_cases hfactKey : key = "namespace"
      · exact ⟨.text .factKey, hfactKey.symm, _, _, List.mem_cons_self, by cbv⟩
      · by_cases hseparator : key = "separator"
        · exact ⟨.text .separator, hseparator.symm, _, _,
            List.mem_cons_of_mem _ List.mem_cons_self, by cbv⟩
        · simp [Entries.find?, Ne.symm hfactKey, Ne.symm hseparator] at hne
  · refine hloaded readers directory (some "g.json") _ [] _ hjson ?_ (by simp) rfl hfollows
    simpa using ⟨.text .rootModel, rfl⟩

end Settings
end HostFilter
