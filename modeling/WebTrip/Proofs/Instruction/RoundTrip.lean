import WebTrip.Command.Actions
import WebTrip.Proofs.Json.Printing

/-!
# Logs that are written and read again

A log of instructions, written as JSON in either layout, is read as the same log, so that compiling
it as a plan gives the program of the log. In between stands the outline of the log: the printer
writes a text for that outline, and the reader makes the log of it.

Writer and reader leave things out independently. The writer leaves out empty lists and absent
names; the reader takes a list that is missing for an empty one, and a name that is missing for an
absent one.

## Main definitions

- `Instruction.outline`, `Extraction.outline`: what is written for a record

## Main statements

- `Instruction.renders_log`: the text of a log is written for its outline
- `Instruction.read_outline`: the reader makes the instruction of its outline
- `Instruction.parse_written`: a log that is written is read as the same log
- `plan_roundTrip`: the plan of a trip compiles to the trip's program
-/

namespace WebTrip

open WebTrip.Json WebTrip.Text

/-! ## §1 Outlines of records -/

/-- The outline of a list of strings. -/
def stringsOutline (items : List String) : Outline :=
  .array (items.map fun s => .string (some s))

/-- The member with a list, unless the list is empty. -/
def listMember {α : Type} (name : String) (items : List α) (value : Outline) :
    List (Option String × Outline) :=
  if items.isEmpty then [] else [(some name, value)]

/-- The outline of an extraction, without a name if it has none. -/
def Extraction.outline (e : Extraction) : Outline :=
  .object ((some "selecting", .string (some e.selector)) ::
    (e.name.map fun name => (some "alias", Outline.string (some name))).toList)

/-- The outline of an instruction, without its empty lists. -/
def Instruction.outline (i : Instruction) : Outline :=
  .object ((some "operation", .string (some i.operation.keyword)) ::
    (listMember "args" i.args (stringsOutline i.args)
      ++ listMember "aliased_args" i.extractions (.array (i.extractions.map Extraction.outline))
      ++ listMember "conditional_args" i.conditions (stringsOutline i.conditions)
      ++ listMember "then_flow" i.thenFlow (stringsOutline i.thenFlow)
      ++ listMember "else_flow" i.elseFlow (stringsOutline i.elseFlow)))

/-! ## §2 Writing -/

section Writing

variable (layout : Layout) (depth : Nat)

/-- A member is written as a field. -/
theorem rendersMember_field (name : String) {value : String} {o : Outline} (h : Renders value o) :
    RendersMember layout (layout.field name value) (some name, o) :=
  ⟨name, value, rfl, rfl, h⟩

/-- Items that are written one by one make an array. -/
theorem renders_map {α : Type} {write : α → String} {outline : α → Outline}
    (h : ∀ a, Renders (write a) (outline a)) (items : List α) :
    Renders (layout.array depth (items.map write)) (.array (items.map outline)) := by
  apply renders_array
  rw [List.forall₂_map_left_iff, List.forall₂_map_right_iff, List.forall₂_same]
  exact fun a _ => h a

theorem renders_strings (items : List String) :
    Renders (writtenStrings layout depth items) (stringsOutline items) :=
  renders_map layout depth renders_string items

/-- A list is left out of the text exactly if it is left out of the outline. -/
theorem renders_listField {α : Type} (name : String) (items : List α) {value : String}
    {o : Outline} (h : Renders value o) :
    List.Forall₂ (RendersMember layout) (writtenListField layout name items value)
      (listMember name items o) := by
  unfold writtenListField listMember
  cases items with
  | nil => exact .nil
  | cons => exact .cons (rendersMember_field layout name h) .nil

theorem Extraction.renders_written (e : Extraction) :
    Renders (e.writtenAs layout depth) e.outline := by
  apply renders_object
  refine .cons (rendersMember_field layout _ (renders_string e.selector)) ?_
  cases e.name with
  | none => exact .nil
  | some name => exact .cons (rendersMember_field layout _ (renders_string name)) .nil

theorem Instruction.renders_written (i : Instruction) :
    Renders (i.writtenAs layout depth) i.outline := by
  have hstrings : ∀ name items, List.Forall₂ (RendersMember layout)
      (writtenListField layout name items (writtenStrings layout (depth + 1) items))
      (listMember name items (stringsOutline items)) :=
    fun name items => renders_listField layout name items (renders_strings layout _ items)
  have hextractions := renders_listField layout "aliased_args" i.extractions
    (renders_map layout (depth + 1) (Extraction.renders_written layout (depth + 2)) i.extractions)
  apply renders_object
  refine .cons (rendersMember_field layout _ (renders_string i.operation.keyword)) ?_
  -- the five lists, in the order in which they are written
  refine List.rel_append (List.rel_append (List.rel_append (List.rel_append ?_ ?_) ?_) ?_) ?_
  · exact hstrings "args" i.args
  · exact hextractions
  · exact hstrings "conditional_args" i.conditions
  · exact hstrings "then_flow" i.thenFlow
  · exact hstrings "else_flow" i.elseFlow

theorem Instruction.renders_log (log : List Instruction) :
    Renders (Instruction.writtenLogAs layout log) (.array (log.map Instruction.outline)) :=
  renders_map layout 0 (Instruction.renders_written layout 1) log

end Writing

/-! ## §3 Reading -/

/-- The reader gives the value. -/
def ReadAs {α : Type} (reader : Outline → Except Failure α) (a : α) (o : Outline) : Prop :=
  reader o = .ok a

/-- Items that are read one by one make a list. -/
theorem readList_forall₂ {α : Type} {reader : Outline → Except Failure α} {items : List α}
    {outlines : List Outline} (h : List.Forall₂ (ReadAs reader) items outlines) :
    ReadAs (readList reader) items (.array outlines) := by
  unfold ReadAs readList
  induction h with
  | nil => rfl
  | cons hfirst _ ih =>
    unfold ReadAs at hfirst
    simp only [List.mapM_cons, hfirst, ih]
    rfl

theorem readList_map {α : Type} {reader : Outline → Except Failure α} (outline : α → Outline)
    (h : ∀ a, reader (outline a) = .ok a) (items : List α) :
    readList reader (.array (items.map outline)) = .ok items := by
  apply readList_forall₂
  rw [List.forall₂_map_right_iff, List.forall₂_same]
  exact fun a _ => h a

theorem readList_strings (items : List String) :
    readList readString (stringsOutline items) = .ok items :=
  readList_map (fun s => .string (some s)) (fun _ => rfl) items

/-- An operation is read from its keyword. -/
theorem Operation.read_keyword (op : Operation) :
    Operation.read (.string (some op.keyword)) = .ok op := by
  cases op <;> rfl

theorem Extraction.read_outline (e : Extraction) : Extraction.read e.outline = .ok e := by
  obtain ⟨selector, name⟩ := e
  cases name <;> rfl

/-- The field of a list that may have been left out. -/
def unlessEmpty {α : Type} (items : List α) : Option (List α) :=
  if items.isEmpty then none else some items

theorem getD_unlessEmpty {α : Type} (items : List α) : (unlessEmpty items).getD [] = items := by
  cases items <;> rfl

namespace Instruction.Partial

/-- Reads members one after the other. -/
def readAll (p : Partial) (members : List (Option String × Outline)) : Except Failure Partial :=
  members.foldlM (fun p member => p.read member.1 member.2) p

theorem readAll_append (p : Partial) (before after : List (Option String × Outline)) :
    p.readAll (before ++ after) = p.readAll before >>= (·.readAll after) :=
  List.foldlM_append

/-- The member of a list that is not empty sets a field; that of an empty one is not there. -/
theorem readAll_listMember {α : Type} {name : String} {items : List α} {o : Outline}
    {p : Partial} (set : Option (List α) → Partial) (hnone : p = set none)
    (hread : p.read (some name) o = .ok (set (some items))) :
    p.readAll (listMember name items o) = .ok (set (unlessEmpty items)) := by
  unfold listMember unlessEmpty readAll
  cases items with
  | nil => exact congrArg Except.ok hnone
  | cons =>
    simp only [List.isEmpty_cons, Bool.false_eq_true, if_false, List.foldlM_cons, hread]
    rfl

end Instruction.Partial

/-- **Reading an instruction.** The reader makes the instruction of its outline. -/
theorem Instruction.read_outline (i : Instruction) : Instruction.read i.outline = .ok i := by
  obtain ⟨op, args, extractions, conditions, thenFlow, elseFlow⟩ := i
  -- what has been read after each of the members
  let p₁ : Partial := { operation := some op }
  let p₂ : Partial := { p₁ with args := unlessEmpty args }
  let p₃ : Partial := { p₂ with extractions := unlessEmpty extractions }
  let p₄ : Partial := { p₃ with conditions := unlessEmpty conditions }
  let p₅ : Partial := { p₄ with thenFlow := unlessEmpty thenFlow }
  let p₆ : Partial := { p₅ with elseFlow := unlessEmpty elseFlow }
  have hoperation : Partial.read {} (some "operation") (.string (some op.keyword)) = .ok p₁ := by
    simp only [Partial.read, Partial.readOnce, Operation.read_keyword]
    rfl
  have hargs : p₁.readAll (listMember "args" args (stringsOutline args)) = .ok p₂ := by
    refine Partial.readAll_listMember (fun found => { p₁ with args := found }) rfl ?_
    simp only [Partial.read, Partial.readOnce, readList_strings]
    rfl
  have hextractions : p₂.readAll (listMember "aliased_args" extractions
      (.array (extractions.map Extraction.outline))) = .ok p₃ := by
    refine Partial.readAll_listMember (fun found => { p₂ with extractions := found }) rfl ?_
    simp only [Partial.read, Partial.readOnce, readList_map _ Extraction.read_outline]
    rfl
  have hconditions : p₃.readAll (listMember "conditional_args" conditions
      (stringsOutline conditions)) = .ok p₄ := by
    refine Partial.readAll_listMember (fun found => { p₃ with conditions := found }) rfl ?_
    simp only [Partial.read, Partial.readOnce, readList_strings]
    rfl
  have hthen : p₄.readAll (listMember "then_flow" thenFlow (stringsOutline thenFlow)) = .ok p₅ := by
    refine Partial.readAll_listMember (fun found => { p₄ with thenFlow := found }) rfl ?_
    simp only [Partial.read, Partial.readOnce, readList_strings]
    rfl
  have helse : p₅.readAll (listMember "else_flow" elseFlow (stringsOutline elseFlow)) = .ok p₆ := by
    refine Partial.readAll_listMember (fun found => { p₅ with elseFlow := found }) rfl ?_
    simp only [Partial.read, Partial.readOnce, readList_strings]
    rfl
  have hlists : p₁.readAll (listMember "args" args (stringsOutline args)
      ++ listMember "aliased_args" extractions (.array (extractions.map Extraction.outline))
      ++ listMember "conditional_args" conditions (stringsOutline conditions)
      ++ listMember "then_flow" thenFlow (stringsOutline thenFlow)
      ++ listMember "else_flow" elseFlow (stringsOutline elseFlow)) = .ok p₆ := by
    simp only [Partial.readAll_append, hargs, hextractions, hconditions, hthen, helse, bind,
      Except.bind]
  have hfinish : p₆.finish = .ok ⟨op, args, extractions, conditions, thenFlow, elseFlow⟩ := by
    simp only [p₆, p₅, p₄, p₃, p₂, p₁, Partial.finish, getD_unlessEmpty]
  unfold Partial.readAll at hlists
  simp only [Instruction.outline, Instruction.read, List.foldlM_cons, hoperation, hlists, bind,
    Except.bind, hfinish]

/-! ## §4 Round trip -/

/-- A log that is written in either layout is read as the same log. -/
theorem Instruction.parse_written (layout : Layout) (log : List Instruction) :
    Instruction.parseLog (Instruction.writtenLogAs layout log) = .ok log :=
  (Instruction.renders_log layout log).read (readList_map _ Instruction.read_outline log)

/-- A text in which a character is not blank is not blank. -/
theorem isBlankText_eq_false {text : String} {c : Char} (hmem : c ∈ text.toList)
    (hc : isBlank c = false) : isBlankText text = false := by
  rw [isBlankText, List.all_eq_false]
  exact ⟨c, hmem, by simp [hc]⟩

theorem Instruction.writtenLogAs_not_blank (layout : Layout) (log : List Instruction) :
    isBlankText (Instruction.writtenLogAs layout log) = false := by
  have hbracket : '[' ∈ (Instruction.writtenLogAs layout log).toList := by
    cases layout with
    | compact => simp [Instruction.writtenLogAs, Layout.array, bracketed]
    | pretty =>
      unfold Instruction.writtenLogAs Layout.array onLines
      split_ifs <;> simp
  exact isBlankText_eq_false hbracket (by decide)

/-- **Round trip of plans.** Whatever the log, its text in either layout is read as that log; so the
log of a trip, written as a plan, compiles to the program of the trip. -/
theorem plan_roundTrip (layout : Layout) :
    (∀ log : List Instruction,
      Instruction.parseLog (Instruction.writtenLogAs layout log) = .ok log) ∧
    ∀ t : Trip, compilePlan (Instruction.writtenLogAs layout t.log) = .ok t.program := by
  refine ⟨Instruction.parse_written layout, fun t => ?_⟩
  unfold compilePlan
  rw [Instruction.writtenLogAs_not_blank, if_neg Bool.false_ne_true,
    Instruction.parse_written layout t.log]
  rfl

end WebTrip
