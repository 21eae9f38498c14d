import HostFilter.Json.Printer
import HostFilter.Json.Reader
import HostFilter.Proofs.Decimal.Numerals
import HostFilter.Proofs.Text.Separated
import HostFilter.Proofs.Token.Layout
import Mathlib

/-!
# Telling compact JSON texts apart

A value without doubles can be told from its compact text, also when more text follows that
starts with a comma or a closing bracket.  The first character tells the kind of the value.
A quoted string ends at the first quote that is not escaped, a numeral ends where the digits
do, and a list of values ends at its bracket, which starts no value.

Main results:

- Theorem `Reading.string_quoted`: a quoted string reads back as the string.
- Theorem `separated_append_inj`: a list between separators is told from its text if its items
  are told from theirs.
- Theorem `FloatFree.told`: a value without doubles is told from its text, and so is the text
  behind it.
- Theorem `FloatFree.text_inj`: values without doubles that have one text are equal.
-/

namespace HostFilter
namespace Json

open Text (Reader Told)

/-! ## Quoted strings -/

namespace Reading

/-- The hex digits of a control character read back as it. -/
theorem escape_hexPair {n : Nat} (hn : n < 0x20) (rest : List Char) :
    escape ('u' :: '0' :: '0' :: (hexPair n ++ rest)) = some (Char.ofNat n, rest) := by
  interval_cases n <;> rfl

/-- A character of a quoted string reads back as it. -/
theorem stringChar_escaped (c : Char) (rest : List Char) :
    stringChar (escaped c ++ rest) = some (c, rest) := by
  unfold escaped
  split_ifs with hquote hbackslash hb hf hn hr ht hcontrol
  · rw [hquote]
    rfl
  · rw [hbackslash]
    rfl
  · rw [hb]
    rfl
  · rw [hf]
    rfl
  · rw [hn]
    rfl
  · rw [hr]
    rfl
  · rw [ht]
    rfl
  · have hread := escape_hexPair hcontrol rest
    rw [Char.ofNat_toNat] at hread
    exact hread
  · have hprintable : 0x20 ≤ c.toNat := Nat.not_lt.mp hcontrol
    simp [stringChar, Reader.satisfy, bind, StateT.bind, pure, StateT.pure, hquote, hbackslash,
      hprintable]

/-- A character of a quoted string takes up text. -/
theorem length_escaped_pos (c : Char) : 0 < (escaped c).length := by
  unfold escaped
  split_ifs <;> simp

/-- The characters of a quoted string read back up to the quote behind them. -/
theorem many_stringChar (cs rest : List Char) :
    Reader.many stringChar (cs.flatMap escaped ++ '"' :: rest) = some (cs, '"' :: rest) := by
  induction cs with
  | nil =>
    rw [Reader.many]
    rfl
  | cons c cs ih =>
    have hread := stringChar_escaped c (cs.flatMap escaped ++ '"' :: rest)
    have hlength := length_escaped_pos c
    rw [List.flatMap_cons, List.append_assoc, Reader.many, hread]
    simp only [List.length_append, Nat.lt_add_left_iff_pos, hlength, if_true, ih, Option.map_some]

/-- A quoted string reads back as the string. -/
theorem string_quoted (s : String) (rest : List Char) :
    string (quoted s ++ rest) = some (s, rest) := by
  have hmany := many_stringChar s.toList rest
  simp [string, quoted, Reader.char, Reader.satisfy, bind, StateT.bind, pure, StateT.pure, hmany]

end Reading

/-- A string is told from its quoted form, and so is the text behind it. -/
theorem quoted_append_inj {s t : String} {r r' : List Char} (h : quoted s ++ r = quoted t ++ r') :
    s = t ∧ r = r' := by
  have hread := Reading.string_quoted s r
  rw [h, Reading.string_quoted] at hread
  cases hread
  exact ⟨rfl, rfl⟩

/-! ## Where a value ends -/

/-- Nothing follows, or what follows a value in a list or an object. -/
def Ends (rest : List Char) : Prop :=
  ∀ c ∈ rest.head?, c = ',' ∨ c = ']' ∨ c = '\x7d'

theorem ends_nil : Ends [] := by
  simp [Ends]

theorem ends_cons {c : Char} {rest : List Char} :
    Ends (c :: rest) ↔ c = ',' ∨ c = ']' ∨ c = '\x7d' := by
  simp [Ends]

/-- An integer is told from its numeral, and so is the text behind it. -/
theorem integerText_append_inj {i k : Int} {r s : List Char} (hr : Ends r) (hs : Ends s)
    (h : Decimal.integerText i ++ r = Decimal.integerText k ++ s) : i = k ∧ r = s := by
  have hstop {rest : List Char} (hrest : Ends rest) :
      ∀ c ∈ rest.head?, (c.isDigit || c = '-') = false := by
    intro c hc
    rcases hrest c hc with rfl | rfl | rfl <;> rfl
  have hcuti := takeWhile_append_of_head
    (fun c hc => @Decimal.isDigit_or_minus_of_mem_integerText i c hc) (hstop hr)
  have hcutk := takeWhile_append_of_head
    (fun c hc => @Decimal.isDigit_or_minus_of_mem_integerText k c hc) (hstop hs)
  rw [h] at hcuti
  have htext : Decimal.integerText k = Decimal.integerText i := hcutk.1.symm.trans hcuti.1
  have hread := Decimal.integer?_integerText k
  rw [htext, Decimal.integer?_integerText] at hread
  exact ⟨Option.some.inj hread, hcuti.2.symm.trans hcutk.2⟩

/-! ## Lists between separators -/

section Separated

variable {α : Type} {write : α → List Char} {close : Char} {r s : List Char}

/-- Items may stand behind commas up to a closing bracket. -/
theorem separates_comma (hclose : Ends [close]) (hcomma : close ≠ ',') :
    Text.Separates Ends close [','] where
  start := ⟨',', [], rfl, Ne.symm hcomma⟩
  ends_separator _ := ends_cons.mpr (.inl rfl)
  ends_close _ := ends_cons.mpr (ends_cons.mp hclose)

/-- A list of items with commas between them is told from its text up to the closing bracket,
if the items are told from theirs and none starts like the bracket. -/
theorem separated_append_inj (hclose : Ends [close]) (hcomma : close ≠ ',') {xs ys : List α}
    (htold : ∀ x ∈ xs, ∀ y ∈ ys, Told Ends write x y)
    (hstartx : ∀ x ∈ xs, ∃ c cs, write x = c :: cs ∧ c ≠ close)
    (hstarty : ∀ y ∈ ys, ∃ c cs, write y = c :: cs ∧ c ≠ close)
    (h : [','].intercalate (xs.map write) ++ close :: r =
      [','].intercalate (ys.map write) ++ close :: s) : xs = ys ∧ r = s := by
  match xs, ys with
  | [], [] => exact ⟨rfl, List.tail_eq_of_cons_eq h⟩
  | [], y :: ys =>
    rcases hstarty y (by simp) with ⟨c, cs, hy, hc⟩
    rw [List.map_cons, Text.intercalate_cons_eq_flatMap, hy] at h
    exact absurd (List.head_eq_of_cons_eq h).symm hc
  | x :: xs, [] =>
    rcases hstartx x (by simp) with ⟨c, cs, hx, hc⟩
    rw [List.map_cons, Text.intercalate_cons_eq_flatMap, hx] at h
    exact absurd (List.head_eq_of_cons_eq h) hc
  | x :: xs, y :: ys =>
    -- With a comma in front, the first items are items like the others.
    have hcommas := separates_comma hclose hcomma
    have hrow := Text.others_append_inj (r := r) (s := s) hcommas hcommas
      (fun _ _ heq => ⟨rfl, List.append_cancel_left heq⟩) htold
      (by simpa [Text.intercalate_cons_eq_flatMap, List.flatMap_map] using h)
    exact ⟨hrow.1, hrow.2.1⟩

end Separated

/-! ## Values without doubles -/

/-- No double occurs in the value. -/
inductive FloatFree : Json → Prop where
  | null : FloatFree .null
  | bool (b : Bool) : FloatFree (.bool b)
  | int (i : Int) : FloatFree (.int i)
  | str (s : String) : FloatFree (.str s)
  | arr {items : List Json} (hitems : ∀ j ∈ items, FloatFree j) : FloatFree (.arr items)
  | obj {members : List (String × Json)} (hmembers : ∀ m ∈ members, FloatFree m.2) :
      FloatFree (.obj members)

/-- What the first character of a text tells about the value. -/
inductive Kind where
  | null
  | bool (b : Bool)
  | number
  | string
  | array
  | object

/-- The kind of a value. -/
def kind : Json → Kind
  | .null => .null
  | .bool b => .bool b
  | .int _ => .number
  | .float _ => .number
  | .str _ => .string
  | .arr _ => .array
  | .obj _ => .object

/-- The kind of the values whose texts start with a character. -/
def Kind.ofInitial? (c : Char) : Option Kind :=
  if c.isDigit || c = '-' then some .number
  else if c = 'n' then some .null
  else if c = 't' then some (.bool true)
  else if c = 'f' then some (.bool false)
  else if c = '"' then some .string
  else if c = '[' then some .array
  else if c = '\x7b' then some .object
  else none

@[simp]
theorem renderItems_eq_map (items : List Json) : renderItems items = items.map render := by
  induction items with
  | nil => rfl
  | cons j items ih => simp [renderItems, ih]

/-- The text of a member of an object. -/
def renderMember (m : String × Json) : List Char :=
  quoted m.1 ++ ':' :: m.2.render

@[simp]
theorem renderMembers_eq_map (members : List (String × Json)) :
    renderMembers members = members.map renderMember := by
  induction members with
  | nil => rfl
  | cons m members ih => simp [renderMembers, renderMember, ih]

namespace FloatFree

variable {j k : Json}

/-- The first character of a text tells the kind of the value. -/
theorem exists_render_eq_cons (hj : j.FloatFree) :
    ∃ c cs, j.render = c :: cs ∧ Kind.ofInitial? c = some j.kind := by
  cases hj with
  | null => exact ⟨'n', _, rfl, rfl⟩
  | bool b =>
    cases b with
    | true => exact ⟨'t', _, rfl, rfl⟩
    | false => exact ⟨'f', _, rfl, rfl⟩
  | int i =>
    rcases Decimal.exists_integerText_eq_cons i with ⟨c, cs, hcons, hc⟩
    exact ⟨c, cs, by rw [render, hcons], by rw [Kind.ofInitial?, if_pos hc, kind]⟩
  | str s => exact ⟨'"', _, rfl, rfl⟩
  | arr hitems => exact ⟨'[', _, rfl, rfl⟩
  | obj hmembers => exact ⟨'\x7b', _, rfl, rfl⟩

/-- Values with one text in front of what follows are of one kind. -/
theorem kind_eq (hj : j.FloatFree) (hk : k.FloatFree) {r s : List Char}
    (h : j.render ++ r = k.render ++ s) : j.kind = k.kind := by
  rcases hj.exists_render_eq_cons with ⟨c, cs, hjtext, hjkind⟩
  rcases hk.exists_render_eq_cons with ⟨d, ds, hktext, hkkind⟩
  rw [hjtext, hktext] at h
  have hcd : c = d := List.head_eq_of_cons_eq h
  rw [hcd, hkkind] at hjkind
  exact (Option.some.inj hjkind).symm

/-- Members of objects are told apart by their texts if their values are. -/
theorem told_renderMember {m n : String × Json} (h : Told Ends render m.2 n.2) :
    Told Ends renderMember m n := by
  intro r s hr hs htext
  simp only [renderMember, List.append_assoc, List.cons_append] at htext
  rcases quoted_append_inj htext with ⟨hkey, hrest⟩
  rcases h hr hs (List.tail_eq_of_cons_eq hrest) with ⟨hvalue, hrs⟩
  exact ⟨Prod.ext hkey hvalue, hrs⟩

/-- Arrays are told apart by their texts if their items are. -/
theorem told_arr {items items' : List Json} (hitems : ∀ x ∈ items, x.FloatFree)
    (hitems' : ∀ y ∈ items', y.FloatFree)
    (h : ∀ x ∈ items, ∀ y ∈ items', Told Ends render x y) :
    Told Ends render (.arr items) (.arr items') := by
  intro r s _ _ htext
  have hstart {x : Json} (hx : x.FloatFree) : ∃ c cs, x.render = c :: cs ∧ c ≠ ']' := by
    rcases hx.exists_render_eq_cons with ⟨c, cs, hcons, hc⟩
    refine ⟨c, cs, hcons, ?_⟩
    rintro rfl
    cases hc
  simp only [render, renderItems_eq_map, List.cons_append, List.append_assoc,
    List.nil_append] at htext
  rcases separated_append_inj (ends_cons.mpr (by simp)) (by decide) h
    (fun x hx => hstart (hitems x hx)) (fun y hy => hstart (hitems' y hy))
    (List.tail_eq_of_cons_eq htext) with ⟨rfl, hrs⟩
  exact ⟨rfl, hrs⟩

/-- Objects are told apart by their texts if the values of their members are. -/
theorem told_obj {members members' : List (String × Json)}
    (h : ∀ x ∈ members, ∀ y ∈ members', Told Ends render x.2 y.2) :
    Told Ends render (.obj members) (.obj members') := by
  intro r s _ _ htext
  have hstart (x : String × Json) : ∃ c cs, renderMember x = c :: cs ∧ c ≠ '\x7d' :=
    ⟨'"', _, rfl, by decide⟩
  simp only [render, renderMembers_eq_map, List.cons_append, List.append_assoc,
    List.nil_append] at htext
  rcases separated_append_inj (ends_cons.mpr (by simp)) (by decide)
    (fun x hx y hy => told_renderMember (h x hx y hy)) (fun x _ => hstart x) (fun y _ => hstart y)
    (List.tail_eq_of_cons_eq htext) with ⟨rfl, hrs⟩
  exact ⟨rfl, hrs⟩

/-- A value without doubles is told from its text, and so is the text behind it. -/
theorem told (hj : j.FloatFree) (hk : k.FloatFree) : Told Ends render j k := by
  intro r s hr hs htext
  have hkind : j.kind = k.kind := kind_eq hj hk htext
  -- In each case the kinds rule out all values of `k` but those of the same constructor.
  induction hj generalizing k r s with
  | null =>
    cases hk with
    | null => exact ⟨rfl, List.append_cancel_left htext⟩
    | _ => cases hkind
  | bool b =>
    cases hk with
    | bool b' =>
      cases hkind
      exact ⟨rfl, List.append_cancel_left htext⟩
    | _ => cases hkind
  | int i =>
    cases hk with
    | int i' =>
      rcases integerText_append_inj hr hs htext with ⟨rfl, hrs⟩
      exact ⟨rfl, hrs⟩
    | _ => cases hkind
  | str t =>
    cases hk with
    | str t' =>
      rcases quoted_append_inj htext with ⟨rfl, hrs⟩
      exact ⟨rfl, hrs⟩
    | _ => cases hkind
  | arr hitems ih =>
    cases hk with
    | arr hitems' =>
      refine told_arr hitems hitems' (fun x hx y hy r' s' hr' hs' hxy => ?_) hr hs htext
      exact ih x hx (hitems' y hy) hr' hs' hxy (kind_eq (hitems x hx) (hitems' y hy) hxy)
    | _ => cases hkind
  | obj hmembers ih =>
    cases hk with
    | obj hmembers' =>
      refine told_obj (fun x hx y hy r' s' hr' hs' hxy => ?_) hr hs htext
      exact ih x hx (hmembers' y hy) hr' hs' hxy (kind_eq (hmembers x hx) (hmembers' y hy) hxy)
    | _ => cases hkind

/-- Values without doubles that have one text are equal. -/
theorem text_inj (hj : j.FloatFree) (hk : k.FloatFree) (h : j.text = k.text) : j = k := by
  have hrender : j.render = k.render := String.ofList_injective h
  exact (hj.told hk ends_nil ends_nil (by simpa using hrender)).1

end FloatFree
end Json
end HostFilter
