import HostFilter.Settings.Source
import Mathlib

/-!
# The tables of settings files

The table of a settings file holds each key once, in increasing order, whatever the format: TOML
tables grow by insertions, the members of a JSON object are sorted as they are read, and so are
the entries that a reader of another format finds.  So a table is determined by what it holds
under each key.

Main results:

- Theorem `Entries.Sorted.insert`: an insertion keeps a table in order.
- Theorem `Entries.find?_ofList`: what the table of a list of entries holds.
- Theorem `Entries.Sorted.filter_eq`: tables in order that hold the same under some keys have the
  same entries there.
- Theorem `Toml.sorted_read?`, `Json.sorted_read?`: tables that are read are in order.
- Theorem `Settings.FileFormat.sorted_read?`, `Settings.sorted_fileLayer`: so are the tables of
  files in any format.
-/

namespace HostFilter

/-! ## Tables in order -/

namespace Entries

variable {α : Type}

/-- The keys of a table increase strictly. -/
def Sorted (table : Entries α) : Prop :=
  table.Pairwise fun e f => e.1 < f.1

theorem mem_insert {key : String} {value : α} {table : Entries α} {e : String × α}
    (h : e ∈ insert key value table) : e = (key, value) ∨ e ∈ table := by
  induction table with
  | nil => simpa [insert] using h
  | cons f table ih =>
    rw [insert] at h
    split_ifs at h with hlt heq
    · simpa using h
    · rcases List.mem_cons.mp h with rfl | h
      · exact .inl rfl
      · exact .inr (List.mem_cons_of_mem f h)
    · rcases List.mem_cons.mp h with rfl | h
      · exact .inr List.mem_cons_self
      · exact (ih h).imp_right (List.mem_cons_of_mem f)

/-- An insertion keeps a table in order. -/
theorem Sorted.insert {table : Entries α} (h : table.Sorted) (key : String) (value : α) :
    (table.insert key value).Sorted := by
  induction table with
  | nil => exact List.pairwise_singleton _ _
  | cons f table ih =>
    rcases List.pairwise_cons.mp h with ⟨hfirst, hrest⟩
    rw [Entries.insert]
    split_ifs with hlt heq
    · refine List.pairwise_cons.mpr ⟨?_, h⟩
      intro e he
      rcases List.mem_cons.mp he with rfl | he
      · exact hlt
      · exact hlt.trans (hfirst e he)
    · subst heq
      exact List.pairwise_cons.mpr ⟨hfirst, hrest⟩
    · refine List.pairwise_cons.mpr ⟨?_, ih hrest⟩
      intro e he
      rcases mem_insert he with rfl | he
      · exact lt_of_le_of_ne (not_lt.mp hlt) (Ne.symm heq)
      · exact hfirst e he

theorem sorted_ofList (entries : List (String × α)) : (ofList entries).Sorted := by
  unfold ofList
  refine List.foldlRecOn entries _ .nil ?_
  intro table htable e _
  exact htable.insert e.1 e.2

/-- The table of a list of entries holds, under each key, one of the values that the list has
there, or nothing if it has none. -/
theorem find?_ofList (entries : List (String × α)) (key : String) :
    (∃ value, (key, value) ∈ entries ∧ (ofList entries).find? key = some value) ∨
      (∀ value, (key, value) ∉ entries) ∧ (ofList entries).find? key = none := by
  induction entries using List.reverseRecOn with
  | nil => exact .inr ⟨by simp, rfl⟩
  | append_singleton entries e ih =>
    obtain ⟨k, v⟩ := e
    have hlast : ofList (entries ++ [(k, v)]) = (ofList entries).insert k v := by
      simp [ofList]
    rw [hlast, find?_insert]
    by_cases hk : key = k
    · exact .inl ⟨v, by simp [hk], if_pos hk⟩
    · rw [if_neg hk]
      rcases ih with ⟨value, hmem, hfind⟩ | ⟨hnone, hfind⟩
      · exact .inl ⟨value, List.mem_append_left _ hmem, hfind⟩
      · exact .inr ⟨by simpa [hk] using hnone, hfind⟩

/-- Of equal keys in a list of entries the last one counts. -/
theorem find?_ofList_last {before after : List (String × α)} {key : String} {value : α}
    (hafter : ∀ e ∈ after, e.1 ≠ key) :
    (ofList (before ++ (key, value) :: after)).find? key = some value := by
  induction after using List.reverseRecOn with
  | nil => simp [ofList, find?_insert]
  | append_singleton after e ih =>
    rw [List.forall_mem_append] at hafter
    have hne : key ≠ e.1 := Ne.symm (hafter.2 e (by simp))
    have hlast : ofList (before ++ (key, value) :: (after ++ [e])) =
        (ofList (before ++ (key, value) :: after)).insert e.1 e.2 := by
      simp [ofList]
    rw [hlast, find?_insert, if_neg hne, ih hafter.1]

/-- In a table in order, an entry is what the table holds under its key. -/
theorem Sorted.mem_iff {table : Entries α} (h : table.Sorted) {key : String} {value : α} :
    (key, value) ∈ table ↔ table.find? key = some value := by
  induction table with
  | nil => simp [find?]
  | cons f table ih =>
    obtain ⟨k, v⟩ := f
    rcases List.pairwise_cons.mp h with ⟨hfirst, hrest⟩
    by_cases hk : k = key
    · subst hk
      have hother : (k, value) ∉ table := fun hmem => lt_irrefl k (hfirst _ hmem)
      simp [find?, hother, eq_comm]
    · simp [find?, hk, Ne.symm hk, ih hrest]

theorem mem_of_mem_ofList {entries : List (String × α)} {e : String × α} (h : e ∈ ofList entries) :
    e ∈ entries := by
  obtain ⟨key, value⟩ := e
  have hfind : (ofList entries).find? key = some value := (sorted_ofList entries).mem_iff.mp h
  rcases find?_ofList entries key with ⟨value', hmem, hfind'⟩ | ⟨-, hnone⟩
  · rw [hfind] at hfind'
    cases hfind'
    exact hmem
  · rw [hfind] at hnone
    cases hnone

theorem find?_eq_none_iff {table : Entries α} {key : String} :
    table.find? key = none ↔ ∀ e ∈ table, e.1 ≠ key := by
  induction table with
  | nil => simp [find?]
  | cons f table ih =>
    obtain ⟨k, v⟩ := f
    rw [find?, List.forall_mem_cons]
    split_ifs with hk
    · simp [hk]
    · simp [hk, ih]

/-- Tables in order that hold the same under the keys that satisfy `p` have the same entries
there. -/
theorem Sorted.filter_eq {table table' : Entries α} (h : table.Sorted) (h' : table'.Sorted)
    (p : String → Bool) (heq : ∀ key, p key = true → table.find? key = table'.find? key) :
    table.filter (fun e => p e.1) = table'.filter fun e => p e.1 := by
  have hirrefl : Std.Irrefl fun e f : String × α => e.1 < f.1 := ⟨fun e => lt_irrefl e.1⟩
  have hantisymm : Std.Antisymm fun e f : String × α => e.1 < f.1 :=
    ⟨fun e f hef hfe => absurd hfe hef.asymm⟩
  refine (h.filter _).eq_of_mem_iff (h'.filter _) ?_
  rintro ⟨key, value⟩
  rw [List.mem_filter, List.mem_filter, h.mem_iff, h'.mem_iff]
  constructor
  · rintro ⟨hfind, hkey⟩
    exact ⟨heq key hkey ▸ hfind, hkey⟩
  · rintro ⟨hfind, hkey⟩
    exact ⟨heq key hkey ▸ hfind, hkey⟩

end Entries

/-! ## TOML -/

/-- What every step of a fold keeps, the whole fold keeps. -/
theorem foldlM_keeps {α β : Type} {step : β → α → Option β} {P : β → Prop}
    (hstep : ∀ b a b', P b → step b a = some b' → P b') {items : List α} {b b' : β} (hb : P b)
    (h : items.foldlM step b = some b') : P b' := by
  induction items generalizing b with
  | nil =>
    cases h
    exact hb
  | cons a items ih =>
    rw [List.foldlM_cons] at h
    rcases Option.bind_eq_some_iff.mp h with ⟨next, hnext, hrest⟩
    exact ih (hstep b a next hb hnext) hrest

namespace Toml
namespace Node

/-- An insertion of what was found under way keeps a table in order. -/
theorem sorted_of_insertion {β : Type} {entries entries' : Entries Node} {found : Option β}
    {key : String} {node : β → Node} (hsorted : entries.Sorted)
    (h : (do return entries.insert key (node (← found))) = some entries') : entries'.Sorted := by
  rcases Option.bind_eq_some_iff.mp h with ⟨b, -, hb⟩
  cases hb
  exact hsorted.insert key (node b)

theorem sorted_assign {name : String} {value : Json} {path : List String}
    {entries entries' : Entries Node} (hsorted : entries.Sorted)
    (h : assign name value path entries = some entries') : entries'.Sorted := by
  cases path with
  | nil =>
    rw [assign] at h
    split at h
    · cases h
      exact hsorted.insert ..
    · cases h
  | cons key path =>
    rw [assign] at h
    split at h
    · exact sorted_of_insertion hsorted h
    · cases h
    · exact sorted_of_insertion hsorted h
    · split at h
      · cases h
      · exact sorted_of_insertion hsorted h
    · cases h

theorem sorted_assignAll {assignments : List (Key × Json)} {entries entries' : Entries Node}
    (hsorted : entries.Sorted) (h : assignAll assignments entries = some entries') :
    entries'.Sorted :=
  foldlM_keeps (fun _ _ _ => sorted_assign) hsorted h

theorem sorted_openTable {assignments : List (Key × Json)} {name : String}
    {entries entries' : Entries Node} (hsorted : entries.Sorted)
    (h : openTable assignments name entries = some entries') : entries'.Sorted := by
  unfold openTable at h
  split at h
  · exact sorted_of_insertion hsorted h
  · exact sorted_of_insertion hsorted h
  · cases h

theorem sorted_appendTable {assignments : List (Key × Json)} {name : String}
    {entries entries' : Entries Node} (hsorted : entries.Sorted)
    (h : appendTable assignments name entries = some entries') : entries'.Sorted := by
  rcases Option.bind_eq_some_iff.mp h with ⟨filled, -, h⟩
  split at h
  · cases h
    exact hsorted.insert ..
  · cases h
    exact hsorted.insert ..
  · cases h

/-- A change below the top is an insertion at the top. -/
theorem sorted_descend {change : Entries Node → Option (Entries Node)} {path : List String}
    {entries entries' : Entries Node}
    (hchange : ∀ {a b : Entries Node}, a.Sorted → change a = some b → b.Sorted)
    (hsorted : entries.Sorted) (h : descend change path entries = some entries') :
    entries'.Sorted := by
  cases path with
  | nil => exact hchange hsorted h
  | cons key path =>
    rw [descend] at h
    split at h
    · exact sorted_of_insertion hsorted h
    · exact sorted_of_insertion hsorted h
    · exact sorted_of_insertion hsorted h
    · cases h

theorem toMembers_eq_map (entries : Entries Node) :
    toMembers entries = entries.map fun e => (e.1, e.2.toJson) := by
  induction entries with
  | nil => rfl
  | cons e entries ih => rw [toMembers, ih, List.map_cons]

end Node

theorem sorted_addSection {entries entries' : Entries Node} {header : Header}
    {assignments : List (Key × Json)} (hsorted : entries.Sorted)
    (h : addSection entries header assignments = some entries') : entries'.Sorted := by
  refine Node.sorted_descend ?_ hsorted h
  split_ifs
  · exact Node.sorted_appendTable
  · exact Node.sorted_openTable

/-- The table of a TOML text is in order. -/
theorem sorted_read? {toml : String} {table : Entries Json} (h : read? toml = some table) :
    table.Sorted := by
  rcases Option.bind_eq_some_iff.mp h with ⟨⟨front, sections⟩, -, h⟩
  rcases Option.bind_eq_some_iff.mp h with ⟨top, htop, h⟩
  rcases Option.bind_eq_some_iff.mp h with ⟨entries, hentries, h⟩
  cases h
  have hsorted : entries.Sorted :=
    foldlM_keeps (fun _ _ _ => sorted_addSection) (Node.sorted_assignAll .nil htop) hentries
  rw [Node.toMembers_eq_map]
  exact List.pairwise_map.mpr hsorted

end Toml

/-! ## JSON -/

namespace Text.Reader

variable {α β : Type} {P : α → Prop}

/-- A reader that goes on with what another one took. -/
theorem bind_eq_some {p : Reader β} {f : β → Reader α} {cs rest : List Char} {a : α}
    (h : (p >>= f) cs = some (a, rest)) :
    ∃ b cs', p cs = some (b, cs') ∧ f b cs' = some (a, rest) := by
  rcases Option.bind_eq_some_iff.mp h with ⟨⟨b, cs'⟩, hb, h⟩
  exact ⟨b, cs', hb, h⟩

/-- Whatever the reader takes off a text satisfies the property. -/
def Yields (p : Reader α) (P : α → Prop) : Prop :=
  ∀ cs a rest, p cs = some (a, rest) → P a

theorem yields_pure {a : α} (h : P a) : (pure a : Reader α).Yields P := by
  rintro cs b rest ⟨⟩
  exact h

theorem Yields.bind {Q : β → Prop} {p : Reader β} {f : β → Reader α} (hp : p.Yields Q)
    (hf : ∀ b, Q b → (f b).Yields P) : (p >>= f).Yields P := by
  intro cs a rest h
  rcases bind_eq_some h with ⟨b, cs', hb, h⟩
  exact hf b (hp cs b cs' hb) cs' a rest h

theorem yields_bind {p : Reader β} {f : β → Reader α} (hf : ∀ b, (f b).Yields P) :
    (p >>= f).Yields P :=
  Yields.bind (fun _ _ _ _ => trivial) fun b (_ : True) => hf b

theorem yields_map {p : Reader β} {f : β → α} (hf : ∀ b, P (f b)) : (f <$> p).Yields P := by
  intro cs a rest h
  rcases Option.bind_eq_some_iff.mp h with ⟨⟨b, cs'⟩, -, ⟨⟩⟩
  exact hf b

theorem Yields.run? {p : Reader α} {text : String} {a : α} (hp : p.Yields P)
    (h : p.run? text = some a) : P a := by
  unfold Reader.run? at h
  split at h
  · rename_i b hb
    cases h
    exact hp _ _ _ hb
  · cases h

theorem yields_orElse {p q : Reader α} (hp : p.Yields P) (hq : q.Yields P) :
    (p <|> q).Yields P := by
  intro cs a rest h
  cases hleft : p cs with
  | none =>
    have hright : (p <|> q) cs = q cs := by
      change (p cs <|> q cs) = q cs
      rw [hleft]
      rfl
    exact hq cs a rest (hright ▸ h)
  | some found =>
    have hleft' : (p <|> q) cs = p cs := by
      change (p cs <|> q cs) = p cs
      rw [hleft]
      rfl
    exact hp cs a rest (hleft' ▸ h)

theorem yields_lift {found : Option α} (h : ∀ a, found = some a → P a) :
    (liftM found : Reader α).Yields P := by
  intro cs a rest hlift
  rcases Option.bind_eq_some_iff.mp hlift with ⟨b, hb, ⟨⟩⟩
  exact h a hb

end Text.Reader

namespace Json

open Text (Reader)

/-- If the value is an object, its members are in order. -/
def MembersSorted : Json → Prop
  | .obj members => Entries.Sorted members
  | _ => True

namespace Reading

theorem number_yields : number.Yields MembersSorted := by
  refine Reader.yields_bind fun negative => Reader.yields_bind fun whole => ?_
  refine Reader.yields_bind fun fraction => Reader.yields_bind fun power => ?_
  refine Reader.yields_lift fun j hj => ?_
  unfold Numeral.toJson? at hj
  split at hj
  · cases hj
    trivial
  · rcases Option.map_eq_some_iff.mp hj with ⟨x, -, rfl⟩
    trivial

theorem scalar_yields : scalar.Yields MembersSorted := by
  refine Reader.yields_orElse (Reader.yields_bind fun _ => Reader.yields_pure trivial) ?_
  refine Reader.yields_orElse (Reader.yields_bind fun _ => Reader.yields_pure trivial) ?_
  refine Reader.yields_orElse (Reader.yields_bind fun _ => Reader.yields_pure trivial) ?_
  exact Reader.yields_orElse (Reader.yields_map fun _ => trivial) number_yields

theorem nested_yields (depth : Nat) : (nested depth).Yields MembersSorted := by
  cases depth with
  | zero => exact scalar_yields
  | succ depth =>
    rw [nested]
    refine Reader.yields_bind fun next => ?_
    split
    · refine Reader.yields_bind fun _ => Reader.yields_bind fun items => ?_
      exact Reader.yields_bind fun _ => Reader.yields_pure trivial
    · refine Reader.yields_bind fun _ => Reader.yields_bind fun members => ?_
      exact Reader.yields_bind fun _ => Reader.yields_pure (Entries.sorted_ofList members)
    · exact scalar_yields

end Reading

/-- If a JSON text is an object, its members are in order. -/
theorem sorted_read? {text : String} {members : Entries Json}
    (h : read? text = some (.obj members)) : members.Sorted := by
  have hdocument : Reading.document.Yields MembersSorted := by
    refine Reader.yields_bind fun _ => (Reading.nested_yields 127).bind fun j hj => ?_
    exact Reader.yields_bind fun _ => Reader.yields_pure hj
  exact hdocument.run? h

end Json

/-! ## Files -/

namespace Settings

variable {readers : ForeignReaders}

/-- The table of a file is in order, whatever its format. -/
theorem FileFormat.sorted_read? {format : FileFormat} {text : String} {table : Entries Json}
    (h : format.read? readers text = some table) : table.Sorted := by
  cases format with
  | toml => exact Toml.sorted_read? h
  | json =>
    rw [FileFormat.read?] at h
    split at h
    · rename_i members hmembers
      cases h
      exact Json.sorted_read? hmembers
    · cases h
  | foreign format =>
    rcases Option.bind_eq_some_iff.mp h with ⟨reader, -, h⟩
    rcases Option.bind_eq_some_iff.mp h with ⟨entries, -, ⟨⟩⟩
    exact Entries.sorted_ofList entries

/-- The layer of a file is in order. -/
theorem sorted_fileLayer {directory : String → Option String} {path : String}
    {layer : Entries Json} (h : fileLayer readers directory path = .ok layer) : layer.Sorted := by
  unfold fileLayer at h
  split at h
  · cases h
    exact .nil
  · split at h
    · rename_i table htable
      cases h
      exact FileFormat.sorted_read? htable
    · cases h

end Settings
end HostFilter
