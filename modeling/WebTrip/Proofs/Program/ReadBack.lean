import WebTrip.Proofs.Program.Columns

/-!
# Reading flat programs back

A flat program has no functions and no branches, and its arguments are bare. It is read back from
its words: bindings are four words each, steps stand between pipes, and the first word of a step
tells its operation, unless it is the name of a function that is run. What is read back are the
bindings and the flow of the log; where a binding stood among the steps is not in the program.

## Main definitions

- `readProgram`: reads the bindings and the flow of a flat program
- `ReadsBack`: what is read from the words of an instruction is the instruction
- `Call.isFlat`: the calls of flat programs

## Main statements

- `readProgram_compile`: the program of a log whose instructions read back is read back
- `Call.readProgram_compile_recordAll`: flat programs are read back
- `Call.program_shows_log`: flat programs that are the same have the same bindings and the same flow
-/

namespace WebTrip

open WebTrip.Text

/-! ## §1 The reader -/

/-- What a step of the flow starts with, in front of its arguments. -/
def Operation.opening : Operation → String
  | .according => "ACCORDING TO "
  | .click => "CLICK ON "
  | .dive => "DIVE INTO "
  | .enter => "ENTER INTO "
  | .navigate => "FROM "
  | .group => "GROUP BY "
  | .select => "SELECT "
  | .window => "WITH TIME "
  | .distinct => "DISTINCT "
  | .run | .assign | .target | .branch => ""

/-- Reads a step. Without a keyword in front a function is run. -/
def readStep (tokens : List Token) : Instruction :=
  let operation := (tokens.head?.bind fun t => Operation.ofKeyword? t.text).getD .run
  -- the name of a function is an argument of its step, so that nothing is left out then
  let rest := tokens.drop (words operation.opening).length
  if operation = .select then .selection (readColumns rest)
  else .plain operation (rest.map Token.text)

/-- Reads a binding. The keyword of a target is not a name. -/
def readBinding (name value : Token) : Instruction :=
  if name = "TARGET".toList then .plain .target [value.text]
  else .plain .assign [Call.binding name.text value.text]

/-- Reads the bindings in front; the other part is the flow. -/
def readBindings : List Token → List Instruction × List Token
  | name :: arrow :: value :: bar :: rest =>
    if arrow = "<|".toList then
      (readBinding name value :: (readBindings rest).1, (readBindings rest).2)
    else ([], name :: arrow :: value :: bar :: rest)
  -- a flow may be shorter than a binding
  | tokens => ([], tokens)

/-- Splits a flow into its steps. -/
def splitFlow : Placement → List Token → List (List Token)
  | .topLevel, tokens => if tokens.isEmpty then [] else tokens.splitOn Token.pipe
  | .nested, tokens => (tokens.splitOn Token.pipe).tail

/-- **Reading a program**: its bindings and its flow. -/
def readProgram (placement : Placement) (program : String) :
    List Instruction × List Instruction :=
  let (bindings, flow) := readBindings (words program)
  (bindings, (splitFlow placement flow).map readStep)

/-! ## §2 Instructions that read back -/

/-- **What is read from the words of an instruction is the instruction.** -/
inductive ReadsBack (i : Instruction) : Prop where
  | binding (hbinding : i.isBinding = true) (name value : Token)
      (hwords : words i.fragment = [name, "<|".toList, value, "|".toList])
      (hread : readBinding name value = i)
  | step (hstep : i.isBinding = false) (hne : words i.fragment ≠ [])
      (hbar : ∀ t ∈ words i.fragment, '|' ∉ t) (hread : readStep (words i.fragment) = i)

/-- Without an arrow there are no bindings to read. -/
theorem readBindings_of_no_arrow {tokens : List Token} (h : "<|".toList ∉ tokens) :
    readBindings tokens = ([], tokens) := by
  match tokens with
  | [] | [_] | [_, _] | [_, _, _] => rfl
  | name :: arrow :: value :: bar :: rest =>
    rw [readBindings, if_neg]
    rintro rfl
    exact h (by simp)

theorem readBindings_append {bindings : List Instruction}
    (h : ∀ i ∈ bindings, i.isBinding = true ∧ ReadsBack i) {flow : List Token}
    (hflow : "<|".toList ∉ flow) :
    readBindings ((bindings.map fun i => words i.fragment).flatten ++ flow) = (bindings, flow) := by
  induction bindings with
  | nil => exact readBindings_of_no_arrow hflow
  | cons i rest ih =>
    obtain ⟨⟨hi, hreads⟩, hrest⟩ := List.forall_mem_cons.mp h
    cases hreads with
    | step hstep => exact absurd hi (by simp [hstep])
    | binding _ name value hwords hread =>
      rw [List.map_cons, List.flatten_cons, hwords]
      simp only [List.cons_append, List.nil_append]
      rw [readBindings, if_pos rfl, ih hrest, hread]

/-- The tokens of a flow. -/
def flowTokens : Placement → List (List Token) → List Token
  | .topLevel, steps => [Token.pipe].intercalate steps
  | .nested, steps => steps.flatMap fun step => Token.pipe :: step

theorem words_compile_eq (placement : Placement) (log : List Instruction) :
    words (compile placement log) =
      (tokensOf log).bindings.flatten ++ flowTokens placement (tokensOf log).flow := by
  cases placement with
  | topLevel => exact words_compile_topLevel log
  | nested => exact words_compile_nested log

section Flow

variable {steps : List (List Token)} (hbar : ∀ step ∈ steps, ∀ t ∈ step, '|' ∉ t)

include hbar

theorem arrow_not_mem_flowTokens (placement : Placement) :
    "<|".toList ∉ flowTokens placement steps := by
  have hnested : "<|".toList ∉ steps.flatMap fun step => Token.pipe :: step := by
    intro hmem
    obtain ⟨step, hstep, hmem⟩ := List.mem_flatMap.mp hmem
    rcases List.mem_cons.mp hmem with heq | hmem
    · exact absurd heq (by decide)
    · exact hbar step hstep _ hmem (by decide)
  cases placement with
  | topLevel =>
    rw [flowTokens, intercalate_pipe]
    exact fun hmem => hnested (List.mem_of_mem_tail hmem)
  | nested => exact hnested

/-- The steps of a flow are told apart by the pipes. -/
theorem splitFlow_flowTokens (hne : ∀ step ∈ steps, step ≠ []) (placement : Placement) :
    splitFlow placement (flowTokens placement steps) = steps := by
  have hpipe : ∀ step ∈ steps, Token.pipe ∉ step := fun step hstep hmem =>
    hbar step hstep _ hmem (by decide)
  cases placement with
  | topLevel =>
    cases steps with
    | nil => rfl
    | cons first rest =>
      have hsome : ([Token.pipe].intercalate (first :: rest)).isEmpty = false := by
        rw [intercalate_pipe]
        simp [hne first List.mem_cons_self]
      rw [flowTokens, splitFlow, hsome, if_neg Bool.false_ne_true,
        List.splitOn_intercalate _ hpipe (by simp)]
  | nested =>
    -- in front of the first pipe there is nothing
    have hflow : flowTokens .nested steps = [Token.pipe].intercalate ([] :: steps) := by
      rw [intercalate_pipe]
      rfl
    rw [splitFlow, hflow, List.splitOn_intercalate _ (by simpa using hpipe) (by simp),
      List.tail_cons]

end Flow

/-- **The program of a log whose instructions read back** is read back. -/
theorem readProgram_compile {log : List Instruction} (h : ∀ i ∈ log, ReadsBack i)
    (placement : Placement) :
    readProgram placement (compile placement log) =
      (log.filter (·.isBinding), log.filter (!·.isBinding)) := by
  have hbindings : ∀ i ∈ log.filter (·.isBinding), i.isBinding = true ∧ ReadsBack i := fun i hi =>
    ⟨(List.mem_filter.mp hi).2, h i (List.mem_filter.mp hi).1⟩
  have hsteps : ∀ i ∈ log.filter (!·.isBinding), words i.fragment ≠ [] ∧
      (∀ t ∈ words i.fragment, '|' ∉ t) ∧ readStep (words i.fragment) = i := by
    intro i hi
    obtain ⟨hmem, hstep⟩ := List.mem_filter.mp hi
    cases h i hmem with
    | binding hbinding => simp [hbinding] at hstep
    | step _ hne hbar hread => exact ⟨hne, hbar, hread⟩
  have hne : ∀ step ∈ (tokensOf log).flow, step ≠ [] :=
    List.forall_mem_map.mpr fun i hi => (hsteps i hi).1
  have hbar : ∀ step ∈ (tokensOf log).flow, ∀ t ∈ step, '|' ∉ t :=
    List.forall_mem_map.mpr fun i hi => (hsteps i hi).2.1
  have hread : (tokensOf log).flow.map readStep = log.filter (!·.isBinding) := by
    rw [tokensOf, List.map_map]
    exact (List.map_congr_left fun i hi => (hsteps i hi).2.2).trans (List.map_id _)
  have hfront : readBindings (words (compile placement log)) =
      (log.filter (·.isBinding), flowTokens placement (tokensOf log).flow) := by
    rw [words_compile_eq]
    exact readBindings_append hbindings (arrow_not_mem_flowTokens hbar placement)
  simp only [readProgram, hfront, splitFlow_flowTokens hbar hne, hread]

/-! ## §3 Flat instructions -/

/-- The operations of steps with plain arguments. -/
def Operation.isPlainStep : Operation → Bool
  | .according | .click | .dive | .enter | .navigate | .group | .run | .window | .distinct => true
  | .assign | .select | .target | .branch => false

theorem Operation.bar_not_mem_opening (op : Operation) : ∀ t ∈ words op.opening, '|' ∉ t := by
  cases op <;> decide

theorem map_text_of_bare {texts : List String} (h : texts.all isBareToken = true) :
    (texts.map String.toList).map Token.text = texts := by
  rw [List.map_map]
  exact (List.map_congr_left fun text htext =>
    (Token.text_of_bare (List.all_eq_true.mp h text htext)).1).trans (List.map_id _)

theorem words_plainStep {op : Operation} (hop : op.isPlainStep = true) {args : List String}
    (hne : args ≠ []) (hbare : args.all isBareToken = true) :
    words (Instruction.plain op args).fragment = words op.opening ++ args.map String.toList := by
  have hfragment : (Instruction.plain op args).fragment =
      op.opening ++ " ".intercalate args := by
    have hempty : args.isEmpty = false := by simpa using hne
    cases op <;> simp_all [Instruction.plain, Instruction.fragment, Instruction.argsOr,
      Operation.opening, Operation.isPlainStep]
  have hopening : words (op.opening ++ " ".intercalate args) =
      words op.opening ++ words (" ".intercalate args) := by
    cases op with
    | run | assign | target | branch => simp [Operation.opening, words, wordsFrom]
    | _ => exact words_template _ (by decide) rfl _
  rw [hfragment, hopening, words_args, flatMap_words_of_bare hbare]

/-- **A step with bare arguments** is read back; if a function is run, its name is not a
keyword. -/
theorem readsBack_plain {op : Operation} (hop : op.isPlainStep = true) {first : String}
    {rest : List String} (hbare : (first :: rest).all isBareToken = true)
    (hname : op = .run → Operation.ofKeyword? first = none) :
    ReadsBack (.plain op (first :: rest)) := by
  have hwords := words_plainStep hop (List.cons_ne_nil first rest) hbare
  -- the first word is the keyword of the operation, or a name that is not a keyword
  have hread : ((words op.opening ++ (first :: rest).map String.toList).head?.bind fun t =>
      Operation.ofKeyword? (Token.text t)).getD .run = op := by
    cases op with
    | run =>
      rw [List.all_cons, Bool.and_eq_true] at hbare
      simp [Operation.opening, words, wordsFrom, (Token.text_of_bare hbare.1).1, hname rfl]
    | assign | select | target | branch => cases hop
    | _ => rfl
  refine .step (by cases op <;> first | rfl | cases hop) (by simp [hwords]) ?_ ?_
  · rw [hwords, List.forall_mem_append, List.forall_mem_map]
    exact ⟨op.bar_not_mem_opening, fun text htext =>
      bar_not_mem_of_bare (List.all_eq_true.mp hbare text htext)⟩
  · have hselect : op ≠ .select := by
      rintro rfl
      cases hop
    rw [hwords, readStep]
    simp only [hread, List.drop_left, map_text_of_bare hbare, if_neg hselect]

theorem readsBack_single (op : Operation) (hop : op.isPlainStep = true) (hrun : op ≠ .run)
    {text : String} (h : isBareToken text = true) : ReadsBack (.plain op [text]) :=
  readsBack_plain hop (by simp [h]) fun heq => absurd heq hrun

/-- **A selection of bare columns** is read back. -/
theorem readsBack_selection {extractions : List Extraction}
    (h : extractions.all Extraction.isBare = true) : ReadsBack (.selection extractions) := by
  have hwords : words (Instruction.selection extractions).fragment =
      "SELECT".toList :: columnTokens extractions :=
    (words_template ["SELECT".toList] (by decide) (by decide) _).trans
      (congrArg _ (words_columns extractions))
  refine .step rfl (by simp [hwords]) ?_ ?_
  · rw [hwords, List.forall_mem_cons]
    exact ⟨by decide, bar_not_mem_columnTokens h⟩
  · have hread : (("SELECT".toList :: columnTokens extractions).head?.bind fun t =>
        Operation.ofKeyword? (Token.text t)).getD .run = .select := rfl
    have hlength : (words Operation.select.opening).length = 1 := rfl
    rw [hwords, readStep]
    simp only [hread, hlength, List.drop_succ_cons, List.drop_zero, readColumns_columnTokens h,
      if_true]

/-- **The binding of a bare name**, which is not a keyword, is read back. -/
theorem readsBack_assign {name value : String} (hname : isBareToken name = true)
    (hvalue : isBareToken value = true) (hkeyword : Operation.ofKeyword? name = none) :
    ReadsBack (.plain .assign [Call.binding name value]) := by
  have hwords : words (Instruction.plain .assign [Call.binding name value]).fragment =
      [name.toList, "<|".toList, value.toList, "|".toList] := by
    refine (words_binding name value).trans ?_
    rw [words_of_bare hname, words_of_bare hvalue]
    rfl
  -- otherwise the binding would be read as that of a target
  have htarget : name.toList ≠ "TARGET".toList := by
    intro heq
    rw [String.toList_inj.mp heq] at hkeyword
    cases hkeyword
  refine .binding rfl _ _ hwords ?_
  rw [readBinding, if_neg htarget, (Token.text_of_bare hname).1, (Token.text_of_bare hvalue).1]

theorem readsBack_target (target : Target) : ReadsBack (.plain .target [target.word]) :=
  .binding rfl "TARGET".toList target.word.toList (by cases target <;> decide)
    (by cases target <;> rfl)

namespace Call

/-- Whether a call has no body, and bare texts; the name of a binding or of a function that is run
is not a keyword. -/
def isFlat : Call → Bool
  | .navigate url => isBareToken url
  | .clickTimes selector _ => isBareToken selector
  | .enter selector text => isBareToken selector && isBareToken text
  | .dive column => isBareToken column
  | .imitate skill => isBareToken skill
  | .on _ => true
  | .group selector => isBareToken selector
  | .select extractions => extractions.all Extraction.isBare
  | .distinct column => isBareToken column
  | .window _ timestamp radius => isBareToken timestamp && radius.all isBareToken
  | .assign name value =>
    isBareToken name && isBareToken value && (Operation.ofKeyword? name).isNone
  | .applyWith name args =>
    isBareToken name && args.all isBareToken && (Operation.ofKeyword? name).isNone
  | .define _ _ _ | .when _ _ | .whenElse _ _ _ => false

/-- What a flat call records reads back. -/
theorem readsBack_record {call : Call} (h : call.isFlat = true) :
    ∀ i ∈ call.record, ReadsBack i := by
  cases call with
  | navigate url => exact List.forall_mem_singleton.mpr (readsBack_single .navigate rfl nofun h)
  | clickTimes selector times =>
    intro i hi
    obtain rfl := List.eq_of_mem_replicate hi
    exact readsBack_single .click rfl nofun h
  | enter selector text =>
    rw [isFlat, Bool.and_eq_true] at h
    exact List.forall_mem_singleton.mpr (readsBack_plain rfl (by simp [h]) nofun)
  | dive column => exact List.forall_mem_singleton.mpr (readsBack_single .dive rfl nofun h)
  | imitate skill => exact List.forall_mem_singleton.mpr (readsBack_single .according rfl nofun h)
  | on target => exact List.forall_mem_singleton.mpr (readsBack_target target)
  | group selector => exact List.forall_mem_singleton.mpr (readsBack_single .group rfl nofun h)
  | select extractions => exact List.forall_mem_singleton.mpr (readsBack_selection h)
  | distinct column => exact List.forall_mem_singleton.mpr (readsBack_single .distinct rfl nofun h)
  | window mode timestamp radius =>
    -- the direction of the window is an argument like the others
    have hmode : isBareToken mode.word = true := by cases mode <;> decide
    rw [isFlat, Bool.and_eq_true] at h
    have hradius : radius.toList.all isBareToken = true := by
      cases radius with
      | none => rfl
      | some radius => simpa using h.2
    refine List.forall_mem_singleton.mpr (readsBack_plain rfl ?_ nofun)
    simp [hmode, h.1, hradius]
  | assign name value =>
    simp only [isFlat, Bool.and_eq_true, Option.isNone_iff_eq_none] at h
    exact List.forall_mem_singleton.mpr (readsBack_assign h.1.1 h.1.2 h.2)
  | applyWith name args =>
    simp only [isFlat, Bool.and_eq_true, Option.isNone_iff_eq_none] at h
    exact List.forall_mem_singleton.mpr (readsBack_plain rfl (by simpa using h.1) fun _ => h.2)
  | define | when | whenElse => cases h

theorem readsBack_recordAll {calls : List Call} (h : calls.all isFlat = true) :
    ∀ i ∈ recordAll calls, ReadsBack i := by
  induction calls with
  | nil => nofun
  | cons call rest ih =>
    rw [List.all_cons, Bool.and_eq_true] at h
    exact List.forall_mem_append.mpr ⟨readsBack_record h.1, ih h.2⟩

/-- **Flat programs are read back.** -/
theorem readProgram_compile_recordAll {calls : List Call} (h : calls.all isFlat = true)
    (placement : Placement) :
    readProgram placement (compile placement (recordAll calls)) =
      ((recordAll calls).filter (·.isBinding), (recordAll calls).filter (!·.isBinding)) :=
  readProgram_compile (readsBack_recordAll h) placement

/-- **Flat programs show their logs**, up to the hoisting of bindings: logs of flat calls have the
same program exactly if they have the same bindings in the same order, and the same flow. -/
theorem program_shows_log {calls calls' : List Call} (h : calls.all isFlat = true)
    (h' : calls'.all isFlat = true) (placement : Placement) :
    compile placement (recordAll calls) = compile placement (recordAll calls') ↔
      (recordAll calls).filter (·.isBinding) = (recordAll calls').filter (·.isBinding) ∧
        (recordAll calls).filter (!·.isBinding) = (recordAll calls').filter (!·.isBinding) := by
  constructor
  · intro heq
    -- both logs are what is read from the one program
    have hread := readProgram_compile_recordAll h placement
    rw [heq, readProgram_compile_recordAll h' placement] at hread
    exact ⟨(Prod.mk.inj hread).1.symm, (Prod.mk.inj hread).2.symm⟩
  · rintro ⟨hbindings, hflow⟩
    rw [compile, compile, Program.bindings, Program.bindings, Program.flow, Program.flow, hbindings,
      hflow]

/-- Two clicks at once, and a binding among the steps. -/
def clickedTwice : List Call :=
  [.navigate "x", .clickTimes "a" 2, .assign "n" "v", .select [⟨"h1", some "title"⟩, ⟨"p", none⟩]]

/-- The same clicks one by one, behind the binding. -/
def clickedOneByOne : List Call :=
  [.assign "n" "v", .navigate "x", .click "a", .click "a",
    .select [⟨"h1", some "title"⟩, ⟨"p", none⟩]]

theorem program_shows_log_clicks :
    clickedTwice.all isFlat = true ∧ clickedOneByOne.all isFlat = true ∧
      compile .nested (recordAll clickedTwice) = compile .nested (recordAll clickedOneByOne) ∧
      (recordAll clickedTwice).filter (·.isBinding) =
        (recordAll clickedOneByOne).filter (·.isBinding) ∧
      (recordAll clickedTwice).filter (!·.isBinding) =
        (recordAll clickedOneByOne).filter (!·.isBinding) := by
  have hflat : clickedTwice.all isFlat = true := by decide
  have hflat' : clickedOneByOne.all isFlat = true := by decide
  have hprogram : compile .nested (recordAll clickedTwice) =
      compile .nested (recordAll clickedOneByOne) := by decide +kernel
  exact ⟨hflat, hflat', hprogram, (program_shows_log hflat hflat' .nested).mp hprogram⟩

end Call

end WebTrip
