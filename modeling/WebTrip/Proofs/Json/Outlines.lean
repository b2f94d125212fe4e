import WebTrip.Proofs.Json.Assembly

/-!
# Outlines of any spelling

Every JSON text has one outline, in which nothing is broken. The outline of a container is made of
the outlines of its parts, so that it can be found from the inside to the outside.

## Main definitions

- `Reads`: a text and its outline, up to a delimiter

## Main statements

- `Reads.unique`: a text has one outline
- `renders_isArray`, `renders_isObject`: containers of texts with outlines
- `exists_reads`: every JSON text has an outline
- `SpellsList.exists_renders`: a text that spells a list has an outline that does
-/

namespace WebTrip.Json

/-! ## §1 Texts with outlines -/

/-- The text has the outline, once a delimiter follows it. -/
structure Reads (text : String) (o : Outline) : Prop where
  intact : o.intact = true
  delimited : Delimited text o.tokens

theorem Renders.reads {text : String} {o : Outline} (h : Renders text o) : Reads text o :=
  ⟨h.intact, h.spells.delimited⟩

theorem Delimited.unique {text : String} {s t : List Token} (hs : Delimited text s)
    (ht : Delimited text t) : s = t := by
  have hcomma : IsDelimiter ',' := by simp [IsDelimiter]
  have hread := (hs [] ',' hcomma).symm.trans (ht [] ',' hcomma)
  have htokens : Token.comma :: (s.reverse ++ []) = .comma :: (t.reverse ++ []) :=
    congrArg Scanner.tokens hread
  simpa using htokens

/-- A text has one outline: the assembler makes it of the tokens, and these are in the text. -/
theorem Reads.unique {text : String} {o o' : Outline} (h : Reads text o) (h' : Reads text o') :
    o = o' := by
  have hassembled := assemble_tokens [] o h.intact
  -- the tokens of either outline are those of the text
  rw [h.delimited.unique h'.delimited, assemble_tokens [] o' h'.intact] at hassembled
  injection hassembled with hdocument
  exact (congrArg Document.root hdocument).symm

/-- Blanks around a container do not show. -/
theorem Renders.padded {text padded : String} {o : Outline} (h : Renders text o)
    (hpadded : Padded text padded) : Renders padded o := by
  obtain ⟨before, after, hbefore, hafter, rfl⟩ := hpadded
  refine ⟨h.intact, ?_⟩
  simpa using ((spells_blanks hbefore).append h.spells).append (spells_blanks hafter)

/-! ## §2 Containers -/

/-- The text of a member has the name and the outline. -/
def ReadsMember (text : String) (member : Option String × Outline) : Prop :=
  ∃ name value, Spells name [.string member.1] ∧ IsMember name value text ∧ Reads value member.2

theorem renders_isArray {texts : List String} {items : List Outline} {text : String}
    (hitems : List.Forall₂ Reads texts items) (h : IsArray texts text) :
    Renders text (.array items) := by
  have hparts : intactItems items = true ∧ List.Forall₂ Delimited texts (itemTokens items) := by
    clear h
    induction hitems with
    | nil => exact ⟨rfl, .nil⟩
    | cons hfirst _ ih =>
      exact ⟨by simp [intactItems, hfirst.intact, ih.1], .cons hfirst.delimited ih.2⟩
  have hclosing : StartsDelimited "]" := ⟨']', [], rfl, by simp [IsDelimiter]⟩
  exact ⟨hparts.1, spells_enclosed (fun _ => rfl) (fun _ => rfl) hclosing hparts.2 h⟩

theorem renders_isObject {texts : List String} {members : List (Option String × Outline)}
    {text : String} (hmembers : List.Forall₂ ReadsMember texts members) (h : IsObject texts text) :
    Renders text (.object members) := by
  have hparts : intactMembers members = true ∧
      List.Forall₂ Delimited texts (memberTokens members) := by
    clear h
    induction hmembers with
    | nil => exact ⟨rfl, .nil⟩
    | cons hfirst _ ih =>
      obtain ⟨name, value, hname, hmember, hvalue⟩ := hfirst
      exact ⟨by simp [intactMembers, hvalue.intact, ih.1],
        .cons (delimited_member hname hvalue.delimited hmember) ih.2⟩
  have hclosing : StartsDelimited "\x7d" := ⟨'\x7d', [], rfl, by simp [IsDelimiter]⟩
  exact ⟨hparts.1, spells_enclosed (fun _ => rfl) (fun _ => rfl) hclosing hparts.2 h⟩

/-- What exists for each item exists for the list. -/
theorem exists_forall₂ {α β : Type} {R : α → β → Prop} {l : List α} (h : ∀ a ∈ l, ∃ b, R a b) :
    ∃ l', List.Forall₂ R l l' := by
  induction l with
  | nil => exact ⟨[], .nil⟩
  | cons a rest ih =>
    obtain ⟨ha, hrest⟩ := List.forall_mem_cons.mp h
    obtain ⟨b, hb⟩ := ha
    obtain ⟨l', hl'⟩ := ih hrest
    exact ⟨b :: l', .cons hb hl'⟩

theorem exists_readsParts {member : String × String} (hname : IsString member.1)
    (hvalue : ∃ o, Reads member.2 o) :
    ∃ parts : Option String × Outline,
      Spells member.1 [.string parts.1] ∧ Reads member.2 parts.2 := by
  obtain ⟨content, hcontent⟩ := exists_spells_string hname
  obtain ⟨o, ho⟩ := hvalue
  exact ⟨(content, o), hcontent, ho⟩

/-- **Any value.** Every JSON text has an outline without faults. -/
theorem exists_reads {text : String} (h : IsJson text) : ∃ o, Reads text o := by
  induction h with
  | null => exact ⟨.null, rfl, Spells.delimited fun _ => rfl⟩
  | true => exact ⟨.bool true, rfl, Spells.delimited fun _ => rfl⟩
  | false => exact ⟨.bool false, rfl, Spells.delimited fun _ => rfl⟩
  | number hnumber =>
    obtain ⟨numeral, hnumeral⟩ := exists_delimited_number hnumber
    exact ⟨.number numeral, rfl, hnumeral⟩
  | string hstring =>
    obtain ⟨content, hcontent⟩ := exists_spells_string hstring
    exact ⟨.string content, rfl, hcontent.delimited⟩
  | array _ harray ih =>
    obtain ⟨items, hitems⟩ := exists_forall₂ ih
    exact ⟨.array items, (renders_isArray hitems harray).reads⟩
  | object hnames _ hmembers hobject ih =>
    -- names and values apart first, then each with the colon between them
    have hread := exists_forall₂ fun member hmember =>
      exists_readsParts (hnames member hmember) (ih member hmember)
    obtain ⟨members, hparts⟩ := hread
    have hboth := forall₂_along hmembers hparts fun _ _ _ hmember hparts =>
      (⟨_, _, hparts.1, hmember, hparts.2⟩ : ReadsMember _ _)
    exact ⟨.object members, (renders_isObject hboth hobject).reads⟩

/-- Texts of items that have outlines make a list that has one. -/
theorem SpellsList.exists_renders {α : Type} {spells : α → String → Prop} {P : α → Outline → Prop}
    (hitems : ∀ a text, spells a text → ∃ o, Reads text o ∧ P a o) {as : List α} {text : String}
    (h : SpellsList spells as text) : ∃ os, Renders text (.array os) ∧ List.Forall₂ P as os := by
  obtain ⟨texts, htexts, harray⟩ := h
  have hpairs : ∃ os, List.Forall₂ Reads texts os ∧ List.Forall₂ P as os := by
    clear harray
    induction htexts with
    | nil => exact ⟨[], .nil, .nil⟩
    | cons hfirst _ ih =>
      obtain ⟨o, ho, hP⟩ := hitems _ _ hfirst
      obtain ⟨os, hos, hPs⟩ := ih
      exact ⟨o :: os, .cons ho hos, .cons hP hPs⟩
  obtain ⟨os, hos, hPs⟩ := hpairs
  exact ⟨os, renders_isArray hos harray, hPs⟩

end WebTrip.Json
