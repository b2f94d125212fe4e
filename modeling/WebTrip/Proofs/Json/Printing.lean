import Mathlib.Tactic.SplitIfs
import WebTrip.Json.Printer
import WebTrip.Proofs.Json.Outlines

/-!
# What the printers write

The printers write texts of the grammar, in either layout, so that these are read as any others: a
string is spelled with the escapes that it needs, and items stand on one line with nothing between
them or on lines of their own.

## Main statements

- `spellsString_written`: what is written for a string spells it
- `isArray_array`, `isObject_object`, `isMember_field`: containers in either layout
- `renders_string`, `renders_array`, `renders_object`: outlines of what is written
-/

namespace WebTrip.Json

/-! ## §1 Strings -/

theorem isHexDigit_hexDigit {n : Nat} (h : n < 16) : IsHexDigit (hexDigit n) n := by
  have hall : ∀ n < 16, "0123456789abcdef".toList[n]? = some (hexDigit n) := by decide
  exact .inl (hall n h)

theorem spellsChar_escaped (c : Char) : SpellsChar c (String.ofList (escaped c)) := by
  unfold escaped
  split_ifs with hquote hslash hb hf hn hr ht hcontrol
  · exact .short (by simp [shortEscapes, hquote])
  · exact .short (by simp [shortEscapes, hslash])
  · exact .short (by simp [shortEscapes, hb])
  · exact .short (by simp [shortEscapes, hf])
  · exact .short (by simp [shortEscapes, hn])
  · exact .short (by simp [shortEscapes, hr])
  · exact .short (by simp [shortEscapes, ht])
  · -- two zeros and two hexadecimal digits are the number of the character
    have hzero : IsHexDigit '0' 0 := isHexDigit_hexDigit (by decide)
    have hnumeric := NumericEscape.digits hzero hzero
      (isHexDigit_hexDigit (n := c.toNat / 16) (by omega))
      (isHexDigit_hexDigit (n := c.toNat % 16) (by omega))
    have hvalue : ((0 * 16 + 0) * 16 + c.toNat / 16) * 16 + c.toNat % 16 = c.toNat := by omega
    rw [hvalue] at hnumeric
    exact .numeric hnumeric
  · have hitself : SpellsChar c (String.singleton c) :=
      .itself ⟨hquote, hslash, Nat.not_lt.mp hcontrol⟩
    rwa [String.singleton_eq_ofList] at hitself

/-- **Strings.** What is written for a string spells it. -/
theorem spellsString_written (s : String) : SpellsString s (writtenString s) := by
  refine ⟨s.toList.map fun c => String.ofList (escaped c), ?_, ?_⟩
  · rw [List.forall₂_map_right_iff, List.forall₂_same]
    exact fun c _ => spellsChar_escaped c
  · rw [← String.toList_inj]
    simp [writtenString, String.toList_join, List.flatMap, Function.comp_def]

/-! ## §2 Containers -/

theorem isBlanks_empty : IsBlanks "" := by
  simp [IsBlanks]

theorem isBlanks_lineStart (depth : Nat) : IsBlanks (lineStart depth) := by
  intro c hc
  rw [lineStart, String.toList_ofList] at hc
  rcases List.mem_cons.mp hc with rfl | hspace
  · exact .inr (.inr (.inl rfl))
  · exact .inl (List.eq_of_mem_replicate hspace)

/-- Blanks in front of the items and behind the last one are blanks around the items. -/
theorem exists_padded {front back : String} (hfront : IsBlanks front) (hback : IsBlanks back)
    {items : List String} (hne : items ≠ []) :
    ∃ padded, List.Forall₂ Padded items padded ∧
      front ++ ("," ++ front).intercalate items ++ back = ",".intercalate padded := by
  induction items with
  | nil => exact absurd rfl hne
  | cons first rest ih =>
    cases rest with
    | nil =>
      refine ⟨[front ++ first ++ back], .cons ⟨front, back, hfront, hback, rfl⟩ .nil, ?_⟩
      simp
    | cons second rest =>
      obtain ⟨padded, hpadded, heq⟩ := ih (List.cons_ne_nil _ _)
      cases hpadded with
      | @cons _ next _ following hnext hfollowing =>
        -- the blanks at the end are those of the last item, which is among the others
        refine ⟨(front ++ first) :: next :: following, .cons ?_ (.cons hnext hfollowing), ?_⟩
        · exact ⟨front, "", hfront, isBlanks_empty, String.append_empty.symm⟩
        · rw [String.intercalate_cons_cons, String.intercalate_cons_cons, ← heq]
          simp only [String.append_assoc]

/-- Items between two marks are enclosed by them, on one line or on lines of their own. -/
theorem enclosed_onLines (depth : Nat) (opening closing : String) (items : List String) :
    Enclosed opening closing items (onLines depth opening closing items) := by
  unfold onLines
  split_ifs with hempty
  · obtain rfl := List.isEmpty_iff.mp hempty
    have hnone := @Enclosed.empty opening closing "" isBlanks_empty
    rwa [String.append_empty] at hnone
  · obtain ⟨padded, hpadded, heq⟩ := exists_padded (isBlanks_lineStart (depth + 1))
      (isBlanks_lineStart depth) (mt List.isEmpty_iff.mpr hempty)
    have hitems : Enclosed opening closing items (opening ++ ",".intercalate padded ++ closing) :=
      .items (mt List.isEmpty_iff.mpr hempty) hpadded
    rw [← heq] at hitems
    simpa only [String.append_assoc] using hitems

theorem enclosed_intercalate (opening closing : String) (items : List String) :
    Enclosed opening closing items (opening ++ ",".intercalate items ++ closing) := by
  by_cases hempty : items = []
  · subst hempty
    exact .empty isBlanks_empty
  · refine .items hempty (List.forall₂_same.mpr fun item _ => ?_)
    exact ⟨"", "", isBlanks_empty, isBlanks_empty, by simp⟩

section Layout

variable (layout : Layout) (depth : Nat)

theorem isArray_array (items : List String) : IsArray items (layout.array depth items) := by
  cases layout with
  | compact => exact enclosed_intercalate "[" "]" items
  | pretty => exact enclosed_onLines depth "[" "]" items

theorem isObject_object (items : List String) : IsObject items (layout.object depth items) := by
  cases layout with
  | compact => exact enclosed_intercalate "\x7b" "\x7d" items
  | pretty => exact enclosed_onLines depth "\x7b" "\x7d" items

theorem isMember_field (name value : String) :
    IsMember (writtenString name) value (layout.field name value) := by
  cases layout with
  | compact => exact ⟨"", "", isBlanks_empty, isBlanks_empty, by simp [Layout.field]⟩
  | pretty =>
    refine ⟨"", " ", isBlanks_empty, by simp [IsBlanks], ?_⟩
    simp [Layout.field, String.append_assoc]

/-! ## §3 Outlines -/

/-- The text is one that was written for the member of an object. -/
def RendersMember (text : String) (member : Option String × Outline) : Prop :=
  ∃ name value, member.1 = some name ∧ text = layout.field name value ∧ Renders value member.2

theorem renders_string (s : String) : Renders (writtenString s) (.string (some s)) :=
  ⟨rfl, spells_string (spellsString_written s)⟩

theorem renders_array {texts : List String} {items : List Outline}
    (h : List.Forall₂ Renders texts items) : Renders (layout.array depth texts) (.array items) :=
  renders_isArray (h.imp fun _ _ => Renders.reads) (isArray_array layout depth texts)

theorem RendersMember.reads {text : String} {member : Option String × Outline}
    (h : RendersMember layout text member) : ReadsMember text member := by
  obtain ⟨name, value, hname, rfl, hvalue⟩ := h
  refine ⟨writtenString name, value, ?_, isMember_field layout name value, hvalue.reads⟩
  rw [hname]
  exact spells_string (spellsString_written name)

theorem renders_object {texts : List String} {members : List (Option String × Outline)}
    (h : List.Forall₂ (RendersMember layout) texts members) :
    Renders (layout.object depth texts) (.object members) :=
  renders_isObject (h.imp fun _ _ => RendersMember.reads layout)
    (isObject_object layout depth texts)

end Layout

end WebTrip.Json
