import WebTrip.Command.Actions
import WebTrip.Proofs.Text.Capitals

/-!
# Names of operations and targets

An operation is named by its keyword and a target by its word, with any blanks around it. The case
of letters does not matter, and that is the case as the full uppercase mapping sees it: beside the
ASCII letters, a character that is mapped to Latin capitals stands for these. A name of ASCII
characters is therefore read without regard to the case of its letters, and in no other way.

## Main definitions

- `Names`: the texts that name a word
- `IsWord`: the words that can be named

## Main statements

- `find?_eq_some_iff_names`: items are found by their names
- `Operation.parse_ok_iff`, `Target.parse_ok_iff`: what is read, and as what
- `names_read_exactly`: what is read, what is refused, and which pages are found
-/

namespace WebTrip

open WebTrip.Text

/-! ## §1 Names -/

/-- The text names the word: without the blanks around it, it is a spelling of the word. -/
def Names (name word : String) : Prop :=
  SpellsCapitals (trim name).toList word.toList

/-- A vocabulary in which every item is found by its own word finds an item by its names. -/
theorem find?_eq_some_iff_names {α : Type} {items : List α} {word : α → String}
    (hcapital : ∀ item, ∀ l ∈ (word item).toList, IsCapital l)
    (hfind : ∀ item, (items.find? fun other => word other == word item) = some item)
    {name : String} {item : α} :
    (items.find? fun other => word other == uppercase (trim name)) = some item ↔
      Names name (word item) := by
  rw [Names, ← uppercase_eq_iff (hcapital item)]
  constructor
  · intro h
    have hfound := List.find?_some h
    simp only [beq_iff_eq] at hfound
    exact hfound.symm
  · intro h
    rw [h]
    exact hfind item

theorem Operation.isCapital_keyword (op : Operation) : ∀ l ∈ op.keyword.toList, IsCapital l := by
  have hall : op.keyword.toList.all (fun l => decide (IsCapital l)) = true := by
    cases op <;> rfl
  simpa using hall

theorem Target.isCapital_word (target : Target) : ∀ l ∈ target.word.toList, IsCapital l := by
  have hall : target.word.toList.all (fun l => decide (IsCapital l)) = true := by
    cases target <;> rfl
  simpa using hall

/-! ## §2 Operations -/

theorem Operation.ofName?_eq_some_iff {name : String} {op : Operation} :
    ofName? name = some op ↔ Names name op.keyword := by
  refine find?_eq_some_iff_names isCapital_keyword fun op => ?_
  cases op <;> rfl

theorem Operation.ofName?_eq_none_iff {name : String} :
    ofName? name = none ↔ ∀ op : Operation, ¬ Names name op.keyword := by
  simp only [Option.eq_none_iff_forall_ne_some, ne_eq, ofName?_eq_some_iff]

/-- **Operations.** A name is read as the operation whose keyword it names. -/
theorem Operation.parse_ok_iff {name : String} {op : Operation} :
    parse name = .ok op ↔ Names name op.keyword := by
  rw [← ofName?_eq_some_iff]
  unfold parse
  cases ofName? name <;> simp

theorem Operation.parse_error_iff {name : String} {e : NameError} :
    parse name = .error e ↔
      (∀ op : Operation, ¬ Names name op.keyword) ∧ e = .unknownOperation name := by
  rw [← ofName?_eq_none_iff]
  unfold parse
  cases ofName? name <;> simp [eq_comm]

/-! ## §3 Targets -/

theorem Target.ofName?_eq_some_iff {name : String} {target : Target} :
    ofName? name = some target ↔ Names name target.word := by
  refine find?_eq_some_iff_names isCapital_word fun target => ?_
  cases target <;> rfl

theorem Target.ofName?_eq_none_iff {name : String} :
    ofName? name = none ↔ ∀ target : Target, ¬ Names name target.word := by
  simp only [Option.eq_none_iff_forall_ne_some, ne_eq, ofName?_eq_some_iff]

/-- **Targets.** A name is read as the target whose word it names. -/
theorem Target.parse_ok_iff {name : String} {target : Target} :
    parse name = .ok target ↔ Names name target.word := by
  rw [← ofName?_eq_some_iff]
  unfold parse
  cases ofName? name <;> simp

theorem Target.parse_error_iff {name : String} {e : NameError} :
    parse name = .error e ↔
      (∀ target : Target, ¬ Names name target.word) ∧ e = .unknownTarget name := by
  rw [← ofName?_eq_none_iff]
  unfold parse
  cases ofName? name <;> simp [eq_comm]

/-! ## §4 Pages -/

/-- The page of an operation is found by the names of the operation. -/
theorem documentation_ok_iff {name page : String} :
    documentation name = .ok page ↔
      ∃ op : Operation, Names name op.keyword ∧ page = Docs.page op := by
  simp only [← Operation.ofName?_eq_some_iff]
  unfold documentation
  cases Operation.ofName? name <;> simp [eq_comm]

theorem documentation_error_iff {name : String} {e : CommandError} :
    documentation name = .error e ↔
      (∀ op : Operation, ¬ Names name op.keyword) ∧ e = .unknownOperation name := by
  rw [← Operation.ofName?_eq_none_iff]
  unfold documentation
  cases Operation.ofName? name <;> simp [eq_comm]

/-! ## §5 All names -/

/-- The words that can be named. -/
def IsWord (word : String) : Prop :=
  (∃ op : Operation, word = op.keyword) ∨ ∃ target : Target, word = target.word

theorem IsWord.isCapital {word : String} (h : IsWord word) : ∀ l ∈ word.toList, IsCapital l := by
  rcases h with ⟨op, rfl⟩ | ⟨target, rfl⟩
  · exact op.isCapital_keyword
  · exact target.isCapital_word

/-- **Names are read exactly.** A name is read as the operation or the target whose word it names,
and a page is found by the names of its operation; everything else is refused, with the name as it
was given. What is equal to a word up to the case of ASCII letters names it, and among ASCII texts
nothing else does. -/
theorem names_read_exactly (name : String) :
    (∀ op, Operation.parse name = .ok op ↔ Names name op.keyword) ∧
    (∀ e, Operation.parse name = .error e ↔
      (∀ op : Operation, ¬ Names name op.keyword) ∧ e = .unknownOperation name) ∧
    (∀ target, Target.parse name = .ok target ↔ Names name target.word) ∧
    (∀ e, Target.parse name = .error e ↔
      (∀ target : Target, ¬ Names name target.word) ∧ e = .unknownTarget name) ∧
    (∀ page, documentation name = .ok page ↔
      ∃ op : Operation, Names name op.keyword ∧ page = Docs.page op) ∧
    (∀ e, documentation name = .error e ↔
      (∀ op : Operation, ¬ Names name op.keyword) ∧ e = .unknownOperation name) ∧
    (∀ word, IsWord word → EqualUpToCase (trim name) word → Names name word) ∧
    (∀ word, IsWord word → (∀ c ∈ (trim name).toList, c.toNat < 0x80) →
      (Names name word ↔ EqualUpToCase (trim name) word)) := by
  refine ⟨fun op => Operation.parse_ok_iff, fun e => Operation.parse_error_iff,
    fun target => Target.parse_ok_iff, fun e => Target.parse_error_iff,
    fun page => documentation_ok_iff, fun e => documentation_error_iff, ?_, ?_⟩
  · intro word hword hequal
    exact spellsCapitals_of_equalUpToCase hword.isCapital hequal
  · intro word hword hascii
    exact spellsCapitals_iff_of_ascii hword.isCapital hascii

/-- A name with a sharp s and a dotless i, and with blanks around it. -/
def unusualAssign : String :=
  "\u00a0aßıgn\n"

theorem names_read_exactly_unusualAssign :
    Names unusualAssign "ASSIGN" ∧ Operation.parse unusualAssign = .ok .assign ∧
      documentation unusualAssign = .ok (Docs.page .assign) ∧
      ¬ Names unusualAssign "BROWSER" := by
  have hname : Names unusualAssign "ASSIGN" := by
    have hchars : (trim unusualAssign).toList = ['a', 'ß', 'ı', 'g', 'n'] := by decide +kernel
    rw [Names, hchars]
    -- the sharp s stands for two letters
    have hsharp : ('ß', ['S', 'S']) ∈ furtherSpellings := by simp [furtherSpellings]
    have hdotless : ('ı', ['I']) ∈ furtherSpellings := by simp [furtherSpellings]
    have hend : SpellsCapitals ['g', 'n'] ['G', 'N'] :=
      .letter (by decide) (.inr rfl) (.letter (by decide) (.inr rfl) .nil)
    apply SpellsCapitals.letter (l := 'A') (by decide) (.inr rfl)
    exact .further hsharp (.further hdotless hend)
  obtain ⟨hread, -, -, hrefused, hpage, -⟩ := names_read_exactly unusualAssign
  have hnone : Target.parse unusualAssign = .error (.unknownTarget unusualAssign) := by
    decide +kernel
  exact ⟨hname, (hread .assign).mpr hname, (hpage _).mpr ⟨.assign, hname, rfl⟩,
    ((hrefused _).mp hnone).1 .browser⟩

/-- **Not by ASCII letters alone.** The long s has the capital S, so that names with it are read,
although they are not equal to a word up to the case of ASCII letters. -/
theorem long_s_is_read :
    ¬ (Operation.parse "ſelect" = .ok .select ↔
        EqualUpToCase (trim "ſelect") Operation.select.keyword) ∧
      ¬ (Target.parse "browſer" = .ok .browser ↔
        EqualUpToCase (trim "browſer") Target.browser.word) ∧
      ¬ ((∃ page, documentation "ſelect" = .ok page) ↔
        ∃ op : Operation, EqualUpToCase (trim "ſelect") op.keyword) := by
  have hoperation : Operation.parse "ſelect" = .ok .select := by decide +kernel
  have htarget : Target.parse "browſer" = .ok .browser := by decide +kernel
  have hpage : documentation "ſelect" = .ok (Docs.page .select) := by decide +kernel
  have hunequal : ∀ op : Operation, ¬ EqualUpToCase (trim "ſelect") op.keyword := by
    intro op
    cases op <;> decide +kernel
  have hunequal' : ¬ EqualUpToCase (trim "browſer") Target.browser.word := by decide +kernel
  refine ⟨fun h => hunequal _ (h.mp hoperation), fun h => hunequal' (h.mp htarget), fun h => ?_⟩
  obtain ⟨op, hequal⟩ := h.mp ⟨_, hpage⟩
  exact hunequal op hequal

end WebTrip
