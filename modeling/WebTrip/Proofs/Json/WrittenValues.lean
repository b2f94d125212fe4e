import WebTrip.Json.Reader
import WebTrip.Proofs.Json.Fields
import WebTrip.Proofs.Json.Printing
import WebTrip.Proofs.Json.WrittenNumbers

/-!
# Written values

What either printer writes for a value is read as that value by who reads every number as the
nearest one. The text of a container is made of the texts of its parts, which stand one level
deeper, so that what is proved of a text has to be proved for all depths at which it may stand. A
reader has a limit to the depth that it reads, and this is the only thing that can keep it from the
value: up to the limit it reads the value, and beyond it nothing.

## Main definitions

- `Layout.text`: the text of a value in either layout
- `Value.outline`: the outline of what is written for a value
- `Value.nesting`: how many containers stand inside each other
- `Value.parseNearest`: the reader that takes the nearest number

## Main statements

- `reads_text`: what is written has the outline, at every depth and in either layout
- `ofOutlineBy?_outline`: the value of the outline, up to the limit
- `parseNearest_text_array`: what is written is read as the value exactly up to the limit
-/

namespace WebTrip.Json

/-! ## §1 Texts -/

namespace Layout

variable (layout : Layout) (depth : ℕ)

/-- The text of a value that stands at a depth. -/
def text (v : Value) : String :=
  match layout with
  | .compact => v.compact
  | .pretty => v.prettyAt depth

/-- The texts of elements that stand at a depth. -/
def elements (vs : List Value) : List String :=
  match layout with
  | .compact => compactElements vs
  | .pretty => prettyElements depth vs

/-- The texts of fields that stand at a depth. -/
def fields (fs : List (String × Value)) : List String :=
  match layout with
  | .compact => compactFields fs
  | .pretty => prettyFields depth fs

attribute [local simp] text elements fields field array object
attribute [local simp] Value.compact compactElements compactFields
attribute [local simp] Value.prettyAt prettyElements prettyFields

theorem text_null : layout.text depth .null = "null" := by
  cases layout <;> simp

theorem text_bool (b : Bool) : layout.text depth (.bool b) = if b then "true" else "false" := by
  cases layout <;> cases b <;> simp

theorem text_number (n : Number) : layout.text depth (.number n) = n.written := by
  cases layout <;> simp

theorem text_string (s : String) : layout.text depth (.string s) = writtenString s := by
  cases layout <;> simp

theorem text_array (vs : List Value) :
    layout.text depth (.array vs) = layout.array depth (layout.elements (depth + 1) vs) := by
  cases layout <;> simp

theorem text_object (fs : List (String × Value)) :
    layout.text depth (.object fs) = layout.object depth (layout.fields (depth + 1) fs) := by
  cases layout <;> simp

theorem elements_nil : layout.elements depth [] = [] := by
  cases layout <;> simp

theorem elements_cons (v : Value) (rest : List Value) :
    layout.elements depth (v :: rest) =
      layout.text depth v :: layout.elements depth rest := by
  cases layout <;> simp

theorem fields_nil : layout.fields depth [] = [] := by
  cases layout <;> simp

theorem fields_cons (name : String) (v : Value) (rest : List (String × Value)) :
    layout.fields depth ((name, v) :: rest) =
      layout.field name (layout.text depth v) :: layout.fields depth rest := by
  cases layout <;> simp

end Layout

/-! ## §2 Outlines -/

section Outline

variable (numeral : Number → Numeral)

mutual

/-- The outline of what is written for a value, from the numerals of its numbers. -/
def Value.outline : Value → Outline
  | .null => .null
  | .bool b => .bool b
  | .number n => .number (numeral n)
  | .string s => .string (some s)
  | .array elements => .array (elementOutlines elements)
  | .object fields => .object (fieldOutlines fields)

/-- The outlines of elements. -/
def elementOutlines : List Value → List Outline
  | [] => []
  | v :: rest => v.outline :: elementOutlines rest

/-- The names of fields and the outlines of their values. -/
def fieldOutlines : List (String × Value) → List (Option String × Outline)
  | [] => []
  | (name, v) :: rest => (some name, v.outline) :: fieldOutlines rest

end

end Outline

section Written

variable {numeral : Number → Numeral}

mutual

/-- **Outlines.** What is written for a value has its outline, at whatever depth the value stands,
if what is written for a number has its numeral. -/
theorem reads_text (hnumeral : ∀ n : Number, Delimited n.written [.number (numeral n)])
    (layout : Layout) (depth : ℕ) : ∀ v : Value, Reads (layout.text depth v) (v.outline numeral)
  | .null => by
    rw [layout.text_null, Value.outline]
    exact ⟨rfl, Spells.delimited fun _ => rfl⟩
  | .bool b => by
    rw [layout.text_bool, Value.outline]
    cases b <;> exact ⟨rfl, Spells.delimited fun _ => rfl⟩
  | .number n => by
    rw [layout.text_number, Value.outline]
    exact ⟨rfl, hnumeral n⟩
  | .string s => by
    rw [layout.text_string, Value.outline]
    exact (renders_string s).reads
  | .array elements => by
    rw [layout.text_array, Value.outline]
    -- the elements stand one level deeper
    exact (renders_isArray (reads_elements hnumeral layout (depth + 1) elements)
      (isArray_array layout depth _)).reads
  | .object fields => by
    rw [layout.text_object, Value.outline]
    exact (renders_isObject (reads_fields hnumeral layout (depth + 1) fields)
      (isObject_object layout depth _)).reads

theorem reads_elements (hnumeral : ∀ n : Number, Delimited n.written [.number (numeral n)])
    (layout : Layout) (depth : ℕ) :
    ∀ elements : List Value,
      List.Forall₂ Reads (layout.elements depth elements) (elementOutlines numeral elements)
  | [] => by
    rw [layout.elements_nil, elementOutlines]
    exact .nil
  | v :: rest => by
    rw [layout.elements_cons, elementOutlines]
    exact .cons (reads_text hnumeral layout depth v) (reads_elements hnumeral layout depth rest)

theorem reads_fields (hnumeral : ∀ n : Number, Delimited n.written [.number (numeral n)])
    (layout : Layout) (depth : ℕ) :
    ∀ fields : List (String × Value),
      List.Forall₂ ReadsMember (layout.fields depth fields) (fieldOutlines numeral fields)
  | [] => by
    rw [layout.fields_nil, fieldOutlines]
    exact .nil
  | (name, v) :: rest => by
    rw [layout.fields_cons, fieldOutlines]
    refine .cons ⟨writtenString name, layout.text depth v, ?_, isMember_field layout name _,
      reads_text hnumeral layout depth v⟩ (reads_fields hnumeral layout depth rest)
    exact spells_string (spellsString_written name)

end

/-- A container is read without a delimiter behind it. -/
theorem renders_text_array (hnumeral : ∀ n : Number, Delimited n.written [.number (numeral n)])
    (layout : Layout) (depth : ℕ) (elements : List Value) :
    Renders (layout.text depth (.array elements)) ((Value.array elements).outline numeral) := by
  rw [layout.text_array, Value.outline]
  exact renders_isArray (reads_elements hnumeral layout (depth + 1) elements)
    (isArray_array layout depth _)

end Written

/-! ## §3 Values of outlines -/

mutual

/-- How many containers stand inside each other. -/
def Value.nesting : Value → ℕ
  | .array elements => nestingOfElements elements + 1
  | .object fields => nestingOfFields fields + 1
  | _ => 0

/-- The greatest nesting of elements. -/
def nestingOfElements : List Value → ℕ
  | [] => 0
  | v :: rest => max v.nesting (nestingOfElements rest)

/-- The greatest nesting of the values of fields. -/
def nestingOfFields : List (String × Value) → ℕ
  | [] => 0
  | (_, v) :: rest => max v.nesting (nestingOfFields rest)

end

/-- A field whose name comes after all others is put at the end. -/
theorem insert_of_forall_lt {α : Type} {name : String} {value : α} {fields : List (String × α)}
    (h : ∀ field ∈ fields, field.1 < name) :
    insert name value fields = fields ++ [(name, value)] := by
  induction fields with
  | nil => rfl
  | cons first rest ih =>
    obtain ⟨hfirst, hrest⟩ := List.forall_mem_cons.mp h
    rw [insert, if_neg (lt_asymm hfirst), if_neg (ne_of_gt hfirst), ih hrest]
    rfl

/-- Fields in order, put into their places behind fields with smaller names, stay as they are. -/
theorem foldl_insert_of_ascending {α : Type} {before fields : List (String × α)}
    (h : Ascending (before ++ fields)) :
    fields.foldl (fun sorted field => insert field.1 field.2 sorted) before = before ++ fields := by
  induction fields generalizing before with
  | nil => simp
  | cons field rest ih =>
    -- all names that are there already come before the next one
    have hlast : insert field.1 field.2 before = before ++ [field] := by
      apply insert_of_forall_lt
      intro other hother
      unfold Ascending at h
      rw [List.map_append, List.map_cons, List.pairwise_append] at h
      exact h.2.2 _ (List.mem_map_of_mem hother) _ (List.mem_cons_self ..)
    rw [List.foldl_cons, hlast, ih (by simpa using h)]
    simp

/-- Fields in order are not changed by putting them in order. -/
theorem sortFields_of_ascending {α : Type} {fields : List (String × α)} (h : Ascending fields) :
    sortFields fields = fields :=
  @foldl_insert_of_ascending α [] fields h

section Numbers

variable {number : Numeral → Option Number} {numeral : Number → Numeral}

mutual

/-- **Values.** The outline of a value has the value, if its numerals have their numbers and the
limit allows for its nesting. -/
theorem ofOutlineBy?_outline (hnumber : ∀ n : Number, number (numeral n) = some n) (limit : ℕ) :
    ∀ v : Value, v.Sorted →
      Value.ofOutlineBy? number limit (v.outline numeral) =
        if v.nesting ≤ limit then some v else none
  | .null, _ => by simp [Value.outline, Value.ofOutlineBy?, Value.nesting]
  | .bool b, _ => by simp [Value.outline, Value.ofOutlineBy?, Value.nesting]
  | .number n, _ => by simp [Value.outline, Value.ofOutlineBy?, Value.nesting, hnumber n]
  | .string s, _ => by simp [Value.outline, Value.ofOutlineBy?, Value.nesting]
  | .array elements, h => by
    rw [Value.outline, Value.ofOutlineBy?, Value.nesting]
    rw [Value.Sorted] at h
    -- each container uses up one level of the limit
    cases limit with
    | zero => simp
    | succ limit =>
      rw [if_neg (Nat.succ_ne_zero limit), Nat.add_sub_cancel,
        elementsOf?_elementOutlines hnumber limit elements h]
      by_cases hnesting : nestingOfElements elements ≤ limit <;> simp [hnesting]
  | .object fields, h => by
    rw [Value.outline, Value.ofOutlineBy?, Value.nesting]
    rw [Value.Sorted] at h
    cases limit with
    | zero => simp
    | succ limit =>
      rw [if_neg (Nat.succ_ne_zero limit), Nat.add_sub_cancel,
        fieldsOf?_fieldOutlines hnumber limit fields h.2]
      by_cases hnesting : nestingOfFields fields ≤ limit <;>
        simp [hnesting, sortFields_of_ascending h.1]

theorem elementsOf?_elementOutlines (hnumber : ∀ n : Number, number (numeral n) = some n)
    (limit : ℕ) :
    ∀ elements : List Value, SortedAll elements →
      elementsOf? number limit (elementOutlines numeral elements) =
        if nestingOfElements elements ≤ limit then some elements else none
  | [], _ => by simp [elementOutlines, elementsOf?, nestingOfElements]
  | v :: rest, h => by
    rw [SortedAll] at h
    rw [elementOutlines, elementsOf?, nestingOfElements, ofOutlineBy?_outline hnumber limit v h.1,
      elementsOf?_elementOutlines hnumber limit rest h.2]
    by_cases hv : v.nesting ≤ limit <;> by_cases hrest : nestingOfElements rest ≤ limit <;>
      simp [hv, hrest]

theorem fieldsOf?_fieldOutlines (hnumber : ∀ n : Number, number (numeral n) = some n)
    (limit : ℕ) :
    ∀ fields : List (String × Value), SortedFields fields →
      fieldsOf? number limit (fieldOutlines numeral fields) =
        if nestingOfFields fields ≤ limit then some fields else none
  | [], _ => by simp [fieldOutlines, fieldsOf?, nestingOfFields]
  | (name, v) :: rest, h => by
    rw [SortedFields] at h
    rw [fieldOutlines, fieldsOf?, nestingOfFields, ofOutlineBy?_outline hnumber limit v h.1,
      fieldsOf?_fieldOutlines hnumber limit rest h.2]
    by_cases hv : v.nesting ≤ limit <;> by_cases hrest : nestingOfFields rest ≤ limit <;>
      simp [hv, hrest]

end

end Numbers

/-! ## §4 Reading back -/

/-- The value of a text, by a reader that takes every number as the nearest one and has a limit to
the depth of nesting. -/
def Value.parseNearest (limit : ℕ) (text : String) : Except Failure Value :=
  (Document.ofText text).read fun o =>
    match Value.ofOutlineBy? Numeral.nearest limit o with
    | some v => .ok v
    | none => .error .syntaxError

/-- **Reading back.** What is written for an array, in either layout, is read as that array up to
the limit of the reader, and not at all beyond it. -/
theorem parseNearest_text_array (layout : Layout) {elements : List Value}
    (h : (Value.array elements).Sorted) (limit : ℕ) :
    Value.parseNearest limit (layout.text 0 (.array elements)) =
      if (Value.array elements).nesting ≤ limit then .ok (.array elements)
      else .error .syntaxError := by
  -- each number has some numeral that is written for it
  choose numeral hwritten hnearest using Json.Number.exists_numeral
  rw [Value.parseNearest, (renders_text_array hwritten layout 0 elements).ofText, Document.read,
    ofOutlineBy?_outline hnearest limit _ h]
  by_cases hnesting : (Value.array elements).nesting ≤ limit
  · simp only [if_pos hnesting]
    rfl
  · simp only [if_neg hnesting]
    rfl

end WebTrip.Json
