import WebTrip.Proofs.Instruction.RoundTrip
import WebTrip.Proofs.Json.Records

/-!
# All spellings of a plan

A log can be spelled in many ways: with any blanks between the tokens and any escapes in the
strings, with the fields of an instruction in any order and unknown ones among them, or with the
values alone in an array, with empty lists or without. The reader makes the same log of all of
them.

The fields of a record are listed once, for whatever its values are spelled by. So the fields of a
text and the fields of its outline go along with each other, and an instruction is read from its
outline field by field, in whatever order they come.

## Main definitions

- `SpellsPlan`: a text and the log it spells
- `Legible`: a text and the value that a reader takes it for
- `Instruction.slots`, `Extraction.slots`: the fields of a record

## Main statements

- `Instruction.recordReader`, `Extraction.recordReader`: what a member does to what has been read
- `Instruction.read_outlinesRecord`: an instruction is read from any outline of it
- `compilePlan_of_spelling`: every spelling of a log compiles to the program of the log
-/

namespace WebTrip

open WebTrip.Json WebTrip.Text

/-! ## §1 Spellings -/

/-- An absent string is spelled null. -/
def SpellsOptional : Option String → String → Prop
  | none, text => text = "null"
  | some s, text => SpellsString s text

/-- An operation is spelled by its keyword, or by an object that has the keyword for a name and null
for its value. -/
inductive SpellsOperation (op : Operation) (text : String) : Prop where
  | keyword : SpellsString op.keyword text → SpellsOperation op text
  | object {name member : String} :
      SpellsString op.keyword name → IsMember name "null" member → IsObject [member] text →
      SpellsOperation op text

section Slots

variable {α : Type}

/-- The fields of an extraction. The name may be left out if there is none. -/
def Extraction.slots (string : String → α → Prop) (optional : Option String → α → Prop)
    (e : Extraction) : List (Slot α) :=
  [⟨"selecting", false, string e.selector⟩, ⟨"alias", e.name.isNone, optional e.name⟩]

/-- The fields of an instruction. Lists may be left out if they are empty. -/
def Instruction.slots (operation : Operation → α → Prop) (strings : List String → α → Prop)
    (extractions : List Extraction → α → Prop) (i : Instruction) : List (Slot α) :=
  [⟨"operation", false, operation i.operation⟩,
    ⟨"args", i.args.isEmpty, strings i.args⟩,
    ⟨"aliased_args", i.extractions.isEmpty, extractions i.extractions⟩,
    ⟨"conditional_args", i.conditions.isEmpty, strings i.conditions⟩,
    ⟨"then_flow", i.thenFlow.isEmpty, strings i.thenFlow⟩,
    ⟨"else_flow", i.elseFlow.isEmpty, strings i.elseFlow⟩]

end Slots

/-- The text spells the extraction. -/
def SpellsExtraction (e : Extraction) (text : String) : Prop :=
  SpellsRecord (e.slots SpellsString SpellsOptional) text

/-- The text spells the instruction. Names are strings, so that no surrogate stands alone in them;
the values of unknown members may hold anything. -/
def SpellsInstruction (i : Instruction) (text : String) : Prop :=
  SpellsRecord
    (i.slots SpellsOperation (SpellsList SpellsString) (SpellsList SpellsExtraction)) text

/-- The text spells the log, with any blanks around it. -/
def SpellsPlan (log : List Instruction) (text : String) : Prop :=
  ∃ inner, SpellsList SpellsInstruction log inner ∧ Padded inner text

/-! ## §2 Reading strings, lists and operations -/

/-- The text has an outline that the reader takes for the value. -/
def Legible {α : Type} (reader : Outline → Except Failure α) (a : α) (text : String) : Prop :=
  ∃ o, Reads text o ∧ ReadAs reader a o

/-- Legible items make a legible list. -/
theorem legible_list {α : Type} {spells : α → String → Prop} {reader : Outline → Except Failure α}
    (hitems : ∀ a text, spells a text → Legible reader a text) (items : List α) (text : String)
    (h : SpellsList spells items text) : Legible (readList reader) items text := by
  obtain ⟨outlines, hrenders, hread⟩ := h.exists_renders hitems
  exact ⟨_, hrenders.reads, readList_forall₂ hread⟩

theorem legible_string (s text : String) (h : SpellsString s text) : Legible readString s text :=
  ⟨.string (some s), ⟨rfl, (spells_string h).delimited⟩, rfl⟩

theorem reads_null : Reads "null" .null :=
  ⟨rfl, Spells.delimited fun _ => rfl⟩

theorem legible_optional (s : Option String) (text : String) (h : SpellsOptional s text) :
    Legible readOptionalString s text := by
  cases s with
  | none =>
    obtain rfl : text = "null" := h
    exact ⟨.null, reads_null, rfl⟩
  | some s => exact ⟨.string (some s), ⟨rfl, (spells_string h).delimited⟩, rfl⟩

theorem legible_operation (op : Operation) (text : String) (h : SpellsOperation op text) :
    Legible Operation.read op text := by
  cases h with
  | keyword hkeyword =>
    exact ⟨.string (some op.keyword), ⟨rfl, (spells_string hkeyword).delimited⟩, op.read_keyword⟩
  | object hname hmember hobject =>
    have hreads : ReadsMember _ (some op.keyword, .null) :=
      ⟨_, _, spells_string hname, hmember, reads_null⟩
    have hobject' := renders_isObject (.cons hreads .nil) hobject
    refine ⟨_, hobject'.reads, ?_⟩
    cases op <;> rfl

/-! ## §3 Reading extractions -/

/-- What has been read of an extraction when some names have come. -/
def Extraction.Partial.ofNames (e : Extraction) (names : List String) : Extraction.Partial where
  selector := fieldAmong names "selecting" e.selector
  name := fieldAmong names "alias" e.name

/-- The fields of an extraction, in its outline. -/
def Extraction.readSlots (e : Extraction) : List (Slot Outline) :=
  e.slots (ReadAs readString) (ReadAs readOptionalString)

/-- Unknown members are passed over. -/
theorem Extraction.Partial.read_unknown (p : Extraction.Partial) {e : Extraction} {name : String}
    {o : Outline} (hother : ∀ slot ∈ e.readSlots, slot.name ≠ name) (hintact : o.intact = true) :
    p.read (some name) o = .ok p := by
  have hpass : passOver o = .ok () := if_pos hintact
  simp only [readSlots, slots, List.forall_mem_cons] at hother
  unfold Partial.read
  split <;> simp_all

theorem Extraction.recordReader (e : Extraction) :
    RecordReader e.readSlots Extraction.Partial.read (Extraction.Partial.ofNames e) := by
  constructor
  case known =>
    intro slot hslot names o hnew hvalue
    simp only [readSlots, slots, List.mem_cons, List.not_mem_nil, or_false] at hslot
    -- the member has not come, so that it is no duplicate, and sets its field only
    rcases hslot with rfl | rfl <;>
      simp_all [ReadAs, Partial.read, Partial.ofNames, fieldAmong_of_not_mem,
        fieldAmong_append_of_ne]
  case unknown =>
    intro names name o hother hintact
    rw [Partial.read_unknown _ hother hintact]
    simp only [readSlots, slots, List.forall_mem_cons] at hother
    obtain ⟨hselecting, halias, -⟩ := hother
    simp only [Partial.ofNames, fieldAmong_append_of_ne hselecting, fieldAmong_append_of_ne halias]

/-- An extraction is read from any outline of it. -/
theorem Extraction.read_outlinesRecord (e : Extraction) {o : Outline}
    (h : OutlinesRecord e.readSlots o) : ReadAs Extraction.read e o := by
  obtain ⟨selector, name⟩ := e
  cases h with
  | @object members hrecord =>
    have hcome : ∀ slot ∈ readSlots ⟨selector, name⟩,
        slot.omissible = true ∨ slot.name ∈ members.map Prod.fst :=
      fun _ => hrecord.omissible_or_mem
    simp only [readSlots, slots, List.forall_mem_cons] at hcome
    obtain ⟨hselecting, halias, -⟩ := hcome
    have hall := (Extraction.recordReader ⟨selector, name⟩).readAll hrecord
    have hempty : Partial.ofNames ⟨selector, name⟩ [] = {} := rfl
    rw [hempty] at hall
    simp only [ReadAs, Extraction.read, hall, bind, Except.bind, Partial.ofNames,
      fieldAmong_of_mem (hselecting.resolve_left Bool.false_ne_true), getD_fieldAmong_option halias]
  | array hrecord =>
    cases hrecord with
    | nil homissible => exact absurd (homissible _ (List.mem_cons_self ..)) Bool.false_ne_true
    | cons hselector hrest =>
      have hselector' : readString _ = .ok selector := hselector
      cases hrest with
      | nil homissible =>
        have hnone : name = none :=
          Option.isNone_iff_eq_none.mp (homissible _ (List.mem_cons_self ..))
        simp only [ReadAs, Extraction.read, hselector', hnone, bind, Except.bind, pure, Except.pure]
      | cons hname hnil =>
        have hname' : readOptionalString _ = .ok name := hname
        cases hnil
        simp only [ReadAs, Extraction.read, hselector', hname', bind, Except.bind,
          List.isEmpty_nil, if_true]

theorem legible_extraction (e : Extraction) (text : String) (h : SpellsExtraction e text) :
    Legible Extraction.read e text := by
  have hslots : List.Forall₂ Slot.Reads (e.slots SpellsString SpellsOptional) e.readSlots :=
    .cons ⟨rfl, rfl, legible_string e.selector⟩
      (.cons ⟨rfl, rfl, legible_optional e.name⟩ .nil)
  obtain ⟨o, hrenders, hrecord⟩ := SpellsRecord.exists_renders h hslots
  exact ⟨o, hrenders.reads, e.read_outlinesRecord hrecord⟩

/-! ## §4 Reading instructions -/

namespace Instruction

/-- What has been read of an instruction when some names have come. -/
def Partial.ofNames (i : Instruction) (names : List String) : Partial where
  operation := fieldAmong names "operation" i.operation
  args := fieldAmong names "args" i.args
  extractions := fieldAmong names "aliased_args" i.extractions
  conditions := fieldAmong names "conditional_args" i.conditions
  thenFlow := fieldAmong names "then_flow" i.thenFlow
  elseFlow := fieldAmong names "else_flow" i.elseFlow

/-- The fields of an instruction, in its outline. -/
def readSlots (i : Instruction) : List (Slot Outline) :=
  i.slots (ReadAs Operation.read) (ReadAs (readList readString)) (ReadAs (readList Extraction.read))

/-- Unknown members are passed over. -/
theorem Partial.read_unknown (p : Partial) {i : Instruction} {name : String} {o : Outline}
    (hother : ∀ slot ∈ i.readSlots, slot.name ≠ name) (hintact : o.intact = true) :
    p.read (some name) o = .ok p := by
  have hpass : passOver o = .ok () := if_pos hintact
  simp only [readSlots, slots, List.forall_mem_cons] at hother
  unfold Partial.read
  split <;> simp_all [bind, Except.bind, pure, Except.pure]

theorem recordReader (i : Instruction) :
    RecordReader i.readSlots Partial.read (Partial.ofNames i) := by
  constructor
  case known =>
    intro slot hslot names o hnew hvalue
    simp only [readSlots, slots, List.mem_cons, List.not_mem_nil, or_false] at hslot
    -- the member has not come, so that it is no duplicate, and sets its field only
    rcases hslot with rfl | rfl | rfl | rfl | rfl | rfl <;>
      simp_all [ReadAs, Partial.read, Partial.readOnce, Partial.ofNames, fieldAmong_of_not_mem,
        fieldAmong_append_of_ne, bind, Except.bind, pure, Except.pure]
  case unknown =>
    intro names name o hother hintact
    rw [Partial.read_unknown _ hother hintact]
    simp only [readSlots, slots, List.forall_mem_cons] at hother
    obtain ⟨hoperation, hargs, hextractions, hconditions, hthen, helse, -⟩ := hother
    simp only [Partial.ofNames, fieldAmong_append_of_ne hoperation, fieldAmong_append_of_ne hargs,
      fieldAmong_append_of_ne hextractions, fieldAmong_append_of_ne hconditions,
      fieldAmong_append_of_ne hthen, fieldAmong_append_of_ne helse]

/-- When all members have come, the fields that have been read are those of the instruction. -/
theorem Partial.finish_ofNames (i : Instruction) {names : List String}
    (hcome : ∀ slot ∈ i.readSlots, slot.omissible = true ∨ slot.name ∈ names) :
    (Partial.ofNames i names).finish = .ok i := by
  simp only [readSlots, slots, List.forall_mem_cons] at hcome
  obtain ⟨hoperation, hargs, hextractions, hconditions, hthen, helse, -⟩ := hcome
  simp only [Partial.finish, Partial.ofNames,
    fieldAmong_of_mem (hoperation.resolve_left Bool.false_ne_true), getD_fieldAmong_list hargs,
    getD_fieldAmong_list hextractions, getD_fieldAmong_list hconditions, getD_fieldAmong_list hthen,
    getD_fieldAmong_list helse]

/-- The next list of an instruction is read from the next item, or there is no item left and the
list is empty. -/
theorem readNext_recordItems {α : Type} {reader : Outline → Except Failure (List α)}
    {name : String} {value : List α} {slots : List (Slot Outline)} {items : List Outline}
    (h : RecordItems (⟨name, value.isEmpty, ReadAs reader value⟩ :: slots) items) :
    ∃ rest, readNext reader items = .ok (value, rest) ∧ RecordItems slots rest := by
  cases h with
  | nil homissible =>
    obtain ⟨hempty, hrest⟩ := List.forall_mem_cons.mp homissible
    exact ⟨[], by rw [List.isEmpty_iff.mp hempty, readNext], .nil hrest⟩
  | @cons _ _ item rest hvalue hrest =>
    have hitem : reader item = .ok value := hvalue
    exact ⟨rest, by rw [readNext, hitem]; rfl, hrest⟩

/-- **Reading an instruction.** It is read from any outline of it. -/
theorem read_outlinesRecord (i : Instruction) {o : Outline} (h : OutlinesRecord i.readSlots o) :
    ReadAs Instruction.read i o := by
  cases h with
  | object hrecord =>
    have hall := i.recordReader.readAll hrecord
    have hempty : Partial.ofNames i [] = {} := rfl
    rw [hempty] at hall
    have hfinish := Partial.finish_ofNames i fun _ => hrecord.omissible_or_mem
    simp only [ReadAs, Instruction.read, hall, bind, Except.bind, hfinish]
  | array hrecord =>
    cases hrecord with
    | nil homissible => exact absurd (homissible _ (List.mem_cons_self ..)) Bool.false_ne_true
    | @cons _ _ item items hoperation hrest =>
      have hoperation' : Operation.read item = .ok i.operation := hoperation
      -- the five lists, each read from what the one before it has left
      obtain ⟨rest₁, hargs, hrest⟩ := readNext_recordItems hrest
      obtain ⟨rest₂, hextractions, hrest⟩ := readNext_recordItems hrest
      obtain ⟨rest₃, hconditions, hrest⟩ := readNext_recordItems hrest
      obtain ⟨rest₄, hthen, hrest⟩ := readNext_recordItems hrest
      obtain ⟨rest₅, helse, hrest⟩ := readNext_recordItems hrest
      obtain rfl : rest₅ = [] := by
        cases hrest
        rfl
      simp only [ReadAs, Instruction.read, hoperation', hargs, hextractions, hconditions, hthen,
        helse, bind, Except.bind, List.isEmpty_nil, if_true]

theorem legible_instruction (i : Instruction) (text : String) (h : SpellsInstruction i text) :
    Legible Instruction.read i text := by
  have hstrings := legible_list legible_string
  have hslots : List.Forall₂ Slot.Reads
      (i.slots SpellsOperation (SpellsList SpellsString) (SpellsList SpellsExtraction))
      i.readSlots := by
    refine .cons ⟨rfl, rfl, legible_operation i.operation⟩ ?_
    refine .cons ⟨rfl, rfl, hstrings i.args⟩ ?_
    refine .cons ⟨rfl, rfl, legible_list legible_extraction i.extractions⟩ ?_
    refine .cons ⟨rfl, rfl, hstrings i.conditions⟩ ?_
    refine .cons ⟨rfl, rfl, hstrings i.thenFlow⟩ ?_
    exact .cons ⟨rfl, rfl, hstrings i.elseFlow⟩ .nil
  obtain ⟨o, hrenders, hrecord⟩ := SpellsRecord.exists_renders h hslots
  exact ⟨o, hrenders.reads, i.read_outlinesRecord hrecord⟩

end Instruction

/-! ## §5 Reading plans -/

/-- Every spelling of a log is read as the log. -/
theorem parseLog_of_spelling {log : List Instruction} {text : String} (h : SpellsPlan log text) :
    Instruction.parseLog text = .ok log := by
  obtain ⟨inner, hlog, hpadded⟩ := h
  obtain ⟨outlines, hrenders, hread⟩ := hlog.exists_renders Instruction.legible_instruction
  exact (hrenders.padded hpadded).read (readList_forall₂ hread)

theorem not_blank_of_spelling {log : List Instruction} {text : String} (h : SpellsPlan log text) :
    isBlankText text = false := by
  obtain ⟨inner, ⟨texts, -, harray⟩, before, after, -, -, rfl⟩ := h
  have hbracket : '[' ∈ (before ++ inner ++ after).toList := by
    cases harray <;> simp
  exact isBlankText_eq_false hbracket (by decide)

/-- **All spellings of a plan.** Whatever the log and however a JSON text spells it, the text
compiles to the program of the log. -/
theorem compilePlan_of_spelling {log : List Instruction} {text : String} (h : SpellsPlan log text) :
    compilePlan text = .ok (compile .topLevel log) := by
  unfold compilePlan
  rw [not_blank_of_spelling h, if_neg Bool.false_ne_true, parseLog_of_spelling h]

/-- The first instruction is an object with its fields in another order, after a value that nobody
could read as a number or a string; the second one is an array without its last three lists. -/
theorem compilePlan_of_spelling_mixed : ∃ text,
    text = "[\x7b\"note\":[1e999,\"\\ud800\"],\"args\":[\"a\\u002fb\"]," ++
      "\"operation\":\x7b\"FROM\":null\x7d\x7d,[\"SELECT\",[],[[\"h1\",null],[\"p\"]]]]\n" ∧
    SpellsPlan [.plain .navigate ["a/b"], .selection [⟨"h1", none⟩, ⟨"p", none⟩]] text ∧
    compilePlan text = .ok "FROM a/b |> SELECT h1, p" := by
  have harray := enclosed_intercalate "[" "]"
  have hobject := enclosed_intercalate "\x7b" "\x7d"
  have hmember : ∀ name value, ∃ quoted, SpellsString name quoted ∧
      IsMember quoted value (Layout.compact.field name value) :=
    fun name value => ⟨_, spellsString_written name, isMember_field .compact name value⟩
  -- a number out of range, and half of a surrogate pair
  have hnumber : IsNumber "1e999" :=
    ⟨"", "1", "", "e999", .inl rfl, .inr ⟨by simp [IsDigits], by decide⟩, .inl rfl,
      .inr ⟨"e", "", "999", .inl rfl, .inl rfl, by simp [IsDigits], rfl⟩, rfl⟩
  have hsurrogate : NumericEscape "\\ud800" 0xd800 :=
    @NumericEscape.digits 'd' '8' '0' '0' 13 8 0 0 (.inl rfl) (.inl rfl) (.inl rfl) (.inl rfl)
  have hstring : IsString "\"\\ud800\"" :=
    ⟨["\\ud800"], List.forall_mem_singleton.mpr (.numeric hsurrogate), rfl⟩
  have hnote : IsJson "[1e999,\"\\ud800\"]" := by
    refine .array ?_ (harray ["1e999", "\"\\ud800\""])
    simp [IsJson.number hnumber, IsJson.string hstring]
  -- an escape for a character that needs none
  have hslash : NumericEscape "\\u002f" 0x2f :=
    @NumericEscape.digits '0' '0' '2' 'f' 0 0 2 15 (.inl rfl) (.inl rfl) (.inl rfl) (.inl rfl)
  have harg : SpellsString "a/b" "\"a\\u002fb\"" := by
    refine ⟨["a", "\\u002f", "b"], ?_, rfl⟩
    exact .cons (.itself (by decide)) (.cons (.numeric hslash) (.cons (.itself (by decide)) .nil))
  have hargs : SpellsList SpellsString ["a/b"] "[\"a\\u002fb\"]" :=
    ⟨_, .cons harg .nil, harray _⟩
  have hoperation : SpellsOperation .navigate "\x7b\"FROM\":null\x7d" := by
    obtain ⟨quoted, hquoted, hnull⟩ := hmember "FROM" "null"
    exact .object hquoted hnull (hobject [_])
  have hfirst : SpellsInstruction (.plain .navigate ["a/b"]) ("\x7b\"note\":[1e999,\"\\ud800\"]," ++
      "\"args\":[\"a\\u002fb\"],\"operation\":\x7b\"FROM\":null\x7d\x7d") := by
    refine @SpellsRecord.object _ _ [("note", "[1e999,\"\\ud800\"]"), ("args", "[\"a\\u002fb\"]"),
      ("operation", "\x7b\"FROM\":null\x7d")] _ ?_
      (.cons (hmember _ _) (.cons (hmember _ _) (.cons (hmember _ _) .nil))) (hobject _)
    constructor <;> simp_all [Instruction.slots, Instruction.plain]
  have hsecond : SpellsInstruction (.selection [⟨"h1", none⟩, ⟨"p", none⟩])
      "[\"SELECT\",[],[[\"h1\",null],[\"p\"]]]" := by
    have hkeyword : SpellsOperation .select "\"SELECT\"" :=
      .keyword (spellsString_written "SELECT")
    have hpair : SpellsExtraction ⟨"h1", none⟩ "[\"h1\",null]" :=
      .array (.cons (spellsString_written "h1") (.cons rfl (.nil (by simp)))) (harray _)
    have hsingle : SpellsExtraction ⟨"p", none⟩ "[\"p\"]" :=
      .array (.cons (spellsString_written "p") (.nil (by simp))) (harray _)
    have hargs : SpellsList SpellsString [] "[]" := ⟨[], .nil, harray []⟩
    have hpairs : SpellsList SpellsExtraction [⟨"h1", none⟩, ⟨"p", none⟩]
        "[[\"h1\",null],[\"p\"]]" := ⟨_, .cons hpair (.cons hsingle .nil), harray _⟩
    refine .array (.cons hkeyword (.cons hargs (.cons hpairs (.nil ?_)))) (harray _)
    simp [Instruction.selection]
  have hplan : SpellsPlan [.plain .navigate ["a/b"], .selection [⟨"h1", none⟩, ⟨"p", none⟩]] _ :=
    ⟨_, ⟨_, .cons hfirst (.cons hsecond .nil), harray _⟩, "", "\n", isBlanks_empty,
      by simp [IsBlanks], rfl⟩
  exact ⟨_, rfl, hplan, (compilePlan_of_spelling hplan).trans (by decide)⟩

end WebTrip
