import HostFilter.Proofs.Settings.Tables
import HostFilter.Proofs.Settings.Variables

/-!
# Layers of settings override key by key

An entry of a layer changes what a table holds under one key, the first name of the place that
the entry's key leads to, and nothing else.  So what a lower layer gives a key plays no part once
a higher layer has given the key a value that is no table.  A layer without an entry for a key can
still lead into what the key holds, but then it leaves a table or a list there, which serves
neither as text nor as a count.

Main results:

- Theorem `Settings.addLayer_cons`: what one entry of a layer does.
- Theorem `Settings.AgreeOff.addLayer_filter`: entries under the keys off which tables agree do not
  matter.
- Theorem `Settings.AgreeOff.override`: under a layer that sets some of these keys, the tables
  agree off the others.
- Theorem `Settings.Unset.addLayer`: what no entry sets is not set by the layer.
- Theorem `Settings.find?_addLayer`: what a layer of plain keys does to each of them.
- Theorem `Settings.gives_addLayer`, `Settings.Gives.addLayer`: a layer gives a key the value of
  its entry, and what no entry sets stays.
-/

namespace HostFilter
namespace Settings

open Text (Reader)

/-! ## Places -/

/-- A repetition that takes nothing leaves the text as it is. -/
theorem many_eq_nil {α : Type} {p : Reader α} {cs rest : List Char}
    (h : Reader.many p cs = some ([], rest)) : rest = cs := by
  unfold Reader.many at h
  split at h
  · cases h
    rfl
  · split_ifs at h
    · rcases Option.map_eq_some_iff.mp h with ⟨⟨as, rest'⟩, -, hcons⟩
      simp at hcons
    · cases h
      rfl

/-- A plain name is taken off the front of the text. -/
theorem PlaceStep.name_eq_some {cs rest : List Char} {n : String}
    (h : PlaceStep.name cs = some (n, rest)) : cs = n.toList ++ rest := by
  rcases Reader.bind_eq_some h with ⟨taken, rest', ⟨⟩, hname⟩
  split_ifs at hname
  · cases hname
  · cases hname
    simp

/-- A top-level key leads to a name first.  If it leads no further, the name is the key. -/
theorem placeOf_eq_cons (key : String) :
    ∃ name steps, placeOf key = .key name :: steps ∧ (steps = [] → name = key) := by
  cases hpath : Reader.run? PlaceStep.path key with
  | none => exact ⟨key, [], by rw [placeOf, hpath]; rfl, fun _ => rfl⟩
  | some place =>
    have hplace : placeOf key = place := by rw [placeOf, hpath]; rfl
    rw [hplace]
    unfold Reader.run? at hpath
    split at hpath
    · rename_i place' hread
      cases hpath
      rcases Reader.bind_eq_some hread with ⟨name, rest, hname, hread⟩
      rcases Reader.bind_eq_some hread with ⟨steps, rest', hsteps, ⟨⟩⟩
      refine ⟨name, steps, rfl, ?_⟩
      rintro rfl
      have hkey : key.toList = name.toList ++ rest := PlaceStep.name_eq_some hname
      rw [← many_eq_nil hsteps, List.append_nil] at hkey
      exact (String.toList_injective hkey).symm
    · cases hpath

/-! ## One entry of a layer -/

/-- An entry of a layer sets what the table holds under the first name of its place.  If the place
is no more than a name, the name is the key of the entry. -/
theorem addLayer_cons (table : Entries Json) (key : String) (value : Json) (layer : Entries Json) :
    ∃ name steps, placeOf key = .key name :: steps ∧ (steps = [] → name = key) ∧
      addLayer table ((key, value) :: layer) =
        addLayer (table.insert name (put value steps (table.find? name))) layer := by
  rcases placeOf_eq_cons key with ⟨name, steps, hplace, hname⟩
  refine ⟨name, steps, hplace, hname, ?_⟩
  change addLayer (tableOf (some (put value (placeOf key) (some (.obj table))))) layer = _
  rw [hplace]
  rfl

/-! ## Agreement -/

/-- The tables hold the same under all keys but those of a set. -/
def AgreeOff (keys : Set String) (table table' : Entries Json) : Prop :=
  ∀ key ∉ keys, table.find? key = table'.find? key

namespace AgreeOff

variable {keys : Set String} {table table' : Entries Json} {name : String}

theorem refl (keys : Set String) (table : Entries Json) : AgreeOff keys table table :=
  fun _ _ => rfl

theorem symm (h : AgreeOff keys table table') : AgreeOff keys table' table :=
  fun key hkey => (h key hkey).symm

theorem trans {table'' : Entries Json} (h : AgreeOff keys table table')
    (h' : AgreeOff keys table' table'') : AgreeOff keys table table'' :=
  fun key hkey => (h key hkey).trans (h' key hkey)

theorem mono {keys' : Set String} (h : AgreeOff keys table table') (hsub : keys ⊆ keys') :
    AgreeOff keys' table table' :=
  fun key hkey => h key fun hmem => hkey (hsub hmem)

/-- An insertion of what depends on no more than the value before keeps the agreement. -/
theorem insert (h : AgreeOff keys table table') (name : String) (change : Option Json → Json) :
    AgreeOff keys (table.insert name (change (table.find? name)))
      (table'.insert name (change (table'.find? name))) := by
  intro key hkey
  rw [Entries.find?_insert, Entries.find?_insert]
  split_ifs with hname
  · rw [← hname, h key hkey]
  · exact h key hkey

/-- An insertion under one of the keys does not matter. -/
theorem insert_left (h : AgreeOff keys table table') (hname : name ∈ keys) (value : Json) :
    AgreeOff keys (table.insert name value) table' := by
  intro key hkey
  have hne : key ≠ name := fun heq => hkey (heq ▸ hname)
  rw [Entries.find?_insert, if_neg hne]
  exact h key hkey

/-- An insertion of one value ends the disagreement under its key. -/
theorem insert_both (h : AgreeOff keys table table') (name : String) (value : Json) :
    AgreeOff (keys \ {name}) (table.insert name value) (table'.insert name value) := by
  intro key hkey
  rw [Entries.find?_insert, Entries.find?_insert]
  split_ifs with hname
  · rfl
  · exact h key fun hmem => hkey ⟨hmem, hname⟩

/-- Entries of a layer under the keys do not matter, if each leads to no place but its key. -/
theorem addLayer_filter (hplain : ∀ key ∈ keys, placeOf key = [.key key])
    [DecidablePred (· ∈ keys)] (layer : Entries Json) (h : AgreeOff keys table table') :
    AgreeOff keys (addLayer table layer) (addLayer table' (layer.filter fun e => e.1 ∉ keys)) := by
  induction layer generalizing table table' with
  | nil => exact h
  | cons e layer ih =>
    obtain ⟨key, value⟩ := e
    rcases addLayer_cons table key value layer with ⟨name, steps, hplace, -, htable⟩
    rw [htable]
    by_cases hkey : key ∈ keys
    · have hname : name = key := by
        rw [hplain key hkey] at hplace
        cases hplace
        rfl
      rw [List.filter_cons_of_neg (by simpa using hkey)]
      exact ih (h.insert_left (hname ▸ hkey) _)
    · rw [List.filter_cons_of_pos (by simpa using hkey)]
      rcases addLayer_cons table' key value (layer.filter fun e => e.1 ∉ keys) with
        ⟨name', steps', hplace', -, htable'⟩
      rw [htable']
      cases hplace.symm.trans hplace'
      exact ih (h.insert name (put value steps))

/-- Under a layer that sets some of the keys to values that are no tables, the tables agree off
the other keys. -/
theorem override (hplain : ∀ key ∈ keys, placeOf key = [.key key]) {layer : Entries Json}
    (hvalues : ∀ e ∈ layer, ∀ old, overlay old e.2 = e.2) (h : AgreeOff keys table table') :
    AgreeOff {key ∈ keys | ∀ e ∈ layer, e.1 ≠ key} (addLayer table layer)
      (addLayer table' layer) := by
  induction layer generalizing keys table table' with
  | nil => simpa [addLayer] using h
  | cons e layer ih =>
    obtain ⟨key, value⟩ := e
    rcases List.forall_mem_cons.mp hvalues with ⟨hvalue, hrest⟩
    rcases addLayer_cons table key value layer with ⟨name, steps, hplace, -, htable⟩
    rcases addLayer_cons table' key value layer with ⟨name', steps', hplace', -, htable'⟩
    cases hplace.symm.trans hplace'
    rw [htable, htable']
    by_cases hkey : key ∈ keys
    · rw [hplain key hkey] at hplace
      cases hplace
      have hput (old : Option Json) : put value [] old = value := hvalue old
      rw [hput, hput]
      refine (ih ?_ hrest (h.insert_both key value)).mono ?_
      · exact fun other hother => hplain other hother.1
      · rintro other ⟨⟨hother, hne⟩, hlayer⟩
        exact ⟨hother, List.forall_mem_cons.mpr ⟨Ne.symm hne, hlayer⟩⟩
    · refine (ih hplain hrest (h.insert name (put value steps))).mono ?_
      rintro other ⟨hother, hlayer⟩
      have hne : key ≠ other := fun heq => hkey (heq ▸ hother)
      exact ⟨hother, List.forall_mem_cons.mpr ⟨hne, hlayer⟩⟩

end AgreeOff

/-! ## What no layer sets -/

/-- The table holds no value under the key that serves as text or as a count. -/
def Unset (key : String) (table : Entries Json) : Prop :=
  ∀ value, table.find? key = some value → Unfit value

/-- A place of several steps makes a table or a list of what it starts from. -/
theorem put_of_ne_nil {steps : List PlaceStep} (hne : steps ≠ []) (value : Json)
    (old : Option Json) : Unfit (put value steps old) := by
  match steps with
  | .key name :: steps => exact ⟨rfl, rfl⟩
  | .position i :: steps => exact ⟨rfl, rfl⟩

/-- A layer without an entry for a key does not set it, though entries may lead into it. -/
theorem Unset.addLayer {key : String} {table layer : Entries Json}
    (hkeys : ∀ e ∈ layer, e.1 ≠ key) (h : Unset key table) : Unset key (addLayer table layer) := by
  induction layer generalizing table with
  | nil => exact h
  | cons e layer ih =>
    obtain ⟨k, v⟩ := e
    rcases List.forall_mem_cons.mp hkeys with ⟨hk, hrest⟩
    rcases addLayer_cons table k v layer with ⟨name, steps, -, hname, htable⟩
    rw [htable]
    refine ih hrest ?_
    intro value hvalue
    rw [Entries.find?_insert] at hvalue
    split_ifs at hvalue with hkey
    · cases hvalue
      have hsteps : steps ≠ [] := fun hnil => hk ((hname hnil).symm.trans hkey.symm)
      exact put_of_ne_nil hsteps v _
    · exact h value hvalue

/-! ## What a layer sets -/

/-- The table gives the key the value, or else something that serves neither as text nor as a
count. -/
def Gives (table : Entries Json) (key : String) (value : Json) : Prop :=
  ∃ held, table.find? key = some held ∧ (held = value ∨ Unfit held)

/-- A value laid over another is itself, or a table. -/
theorem overlay_cases (old : Option Json) (value : Json) :
    overlay old value = value ∨ Unfit (overlay old value) := by
  cases value with
  | obj members => exact .inr ⟨rfl, rfl⟩
  | _ => exact .inl rfl

/-- A layer whose keys are all places of their own lays each value over what its key held, and
changes nothing else. -/
theorem find?_addLayer {layer : Entries Json} (hplain : ∀ e ∈ layer, placeOf e.1 = [.key e.1])
    (hsorted : layer.Sorted) (table : Entries Json) (key : String) :
    (addLayer table layer).find? key =
      match layer.find? key with
      | some value => some (overlay (table.find? key) value)
      | none => table.find? key := by
  induction layer generalizing table with
  | nil => rfl
  | cons e layer ih =>
    obtain ⟨k, v⟩ := e
    rcases List.forall_mem_cons.mp hplain with ⟨hk, hrest⟩
    rcases List.pairwise_cons.mp hsorted with ⟨hfirst, hlater⟩
    rcases addLayer_cons table k v layer with ⟨name, steps, hplace, -, htable⟩
    rw [hk] at hplace
    cases hplace
    rw [htable, ih hrest hlater, Entries.find?_insert, Entries.find?]
    by_cases hkey : k = key
    · subst hkey
      have hnone : Entries.find? k layer = none :=
        Entries.find?_eq_none_iff.mpr fun e he => (hfirst e he).ne'
      simp [hnone, put]
    · simp [hkey, Ne.symm hkey]

/-- An entry of a layer gives its key its value.  An entry for another key leaves what the key
held, or leads into it and makes a table or a list of it. -/
theorem gives_insert {table : Entries Json} {key k : String} {value v : Json} {name : String}
    {steps : List PlaceStep} (hname : steps = [] → name = k) (hvalue : k = key → v = value)
    (hother : name ≠ key → Gives table key value) :
    Gives (table.insert name (put v steps (table.find? name))) key value := by
  by_cases hkey : name = key
  · subst hkey
    refine ⟨_, by rw [Entries.find?_insert, if_pos rfl], ?_⟩
    by_cases hsteps : steps = []
    · subst hsteps
      rw [hvalue (hname rfl).symm]
      exact overlay_cases _ value
    · exact .inr (put_of_ne_nil hsteps v _)
  · rcases hother hkey with ⟨held, hheld, hcases⟩
    exact ⟨held, by rw [Entries.find?_insert, if_neg (Ne.symm hkey), hheld], hcases⟩

/-- A layer that gives the key no other value leaves what the key has been given. -/
theorem Gives.addLayer {key : String} {value : Json} {table layer : Entries Json}
    (hkeys : ∀ e ∈ layer, e.1 = key → e.2 = value) (h : Gives table key value) :
    Gives (addLayer table layer) key value := by
  induction layer generalizing table with
  | nil => exact h
  | cons e layer ih =>
    obtain ⟨k, v⟩ := e
    rcases List.forall_mem_cons.mp hkeys with ⟨hk, hrest⟩
    rcases addLayer_cons table k v layer with ⟨name, steps, -, hname, htable⟩
    rw [htable]
    exact ih hrest (gives_insert hname hk fun _ => h)

/-- A layer gives a key the value of its entry, whatever the table gave it. -/
theorem gives_addLayer {key : String} {value : Json} {layer : Entries Json}
    (hplain : placeOf key = [.key key]) (hsorted : layer.Sorted)
    (hentry : layer.find? key = some value) (table : Entries Json) :
    Gives (Settings.addLayer table layer) key value := by
  have hkeys : ∀ e ∈ layer, e.1 = key → e.2 = value := by
    rintro ⟨k, v⟩ he rfl
    rw [hsorted.mem_iff.mp he] at hentry
    exact Option.some.inj hentry
  have hmem : (key, value) ∈ layer := hsorted.mem_iff.mpr hentry
  clear hentry hsorted
  induction layer generalizing table with
  | nil => cases hmem
  | cons e layer ih =>
    obtain ⟨k, v⟩ := e
    rcases List.forall_mem_cons.mp hkeys with ⟨hk, hrest⟩
    rcases addLayer_cons table k v layer with ⟨name, steps, hplace, hname, htable⟩
    rw [htable]
    -- Behind the entry of the key nothing gives the key another value.
    rcases List.mem_cons.mp hmem with heq | hmem
    · cases heq
      rw [hplain] at hplace
      cases hplace
      exact (gives_insert hname hk fun hne => absurd rfl hne).addLayer hrest
    · exact ih _ hrest hmem

end Settings
end HostFilter
