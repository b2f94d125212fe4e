import WebTrip.Proofs.Text.Words
import WebTrip.Proofs.Trip.Logs

/-!
# The tokens of programs

The program of a trip is put together from texts that are themselves programs, joined and trimmed
at every level. Its words do not show any of that: they are those of the calls, the bindings of
each body first and its flow behind them, with a pipe wherever the placement asks for one. The
stream of tokens is defined by recursion on the calls, without joining or trimming anything.

## Main definitions

- `Blocks`: what goes to the bindings of a body, and what goes to its flow
- `Call.tokens`, `Call.tokensAll`: the tokens of calls
- `Blocks.standalone`, `Blocks.nested`: the stream of a trip, and that of a body

## Main statements

- `words_compile_topLevel`, `words_compile_nested`: the words of the program of a log
- `Call.tokensOf_recordAll`: what calls record has their tokens
- `Trip.words_program`: the words of the program of a trip
-/

namespace WebTrip

open WebTrip.Text

/-! ## §1 Blocks -/

/-- A token of a program. -/
abbrev Token := List Char

/-- The token in front of a step of the flow. -/
def Token.pipe : Token := "|>".toList

/-- The two blocks of a body. -/
structure Blocks (α : Type) where
  bindings : List α := []
  flow : List α := []

namespace Blocks

variable {α : Type}

/-- One binding. -/
def binding (x : α) : Blocks α :=
  { bindings := [x] }

/-- Some steps of the flow. -/
def steps (xs : List α) : Blocks α :=
  { flow := xs }

/-- The blocks of a body whose calls come one part after the other. -/
def append (a b : Blocks α) : Blocks α :=
  ⟨a.bindings ++ b.bindings, a.flow ++ b.flow⟩

/-- The stream of a body that stands on its own: a pipe between neighbours of the flow. -/
def standalone (b : Blocks (List Token)) : List Token :=
  b.bindings.flatten ++ [Token.pipe].intercalate b.flow

/-- The stream of a body behind an open pipeline: a pipe in front of every step of the flow. -/
def nested (b : Blocks (List Token)) : List Token :=
  b.bindings.flatten ++ b.flow.flatMap fun step => Token.pipe :: step

end Blocks

/-- Joining with pipes leaves out the first one of the pipes in front of every step. -/
theorem intercalate_pipe (flow : List (List Token)) :
    [Token.pipe].intercalate flow = (flow.flatMap fun step => Token.pipe :: step).tail := by
  induction flow with
  | nil => rfl
  | cons first rest ih =>
    cases rest with
    | nil => simp
    | cons second rest =>
      rw [List.intercalate_cons_cons, ih]
      simp

/-! ## §2 The tokens of calls -/

/-- The tokens of an extraction with a mark behind it. -/
def Extraction.tokens (mark : String) (e : Extraction) : List Token :=
  match e.name with
  | some name => words e.selector ++ "AS".toList :: words (name ++ mark)
  | none => words (e.selector ++ mark)

/-- The tokens of the columns of a selection. All but the last one have a comma behind them. -/
def columnTokens : List Extraction → List Token
  | [] => []
  | [e] => e.tokens ""
  | e :: next :: rest => e.tokens "," ++ columnTokens (next :: rest)

/-- The tokens of the parameters of a function. -/
def paramTokens (params : List String) : List Token :=
  if params.isEmpty then [] else params.flatMap words ++ ["<|".toList]

namespace Call

mutual

/-- The tokens of a call, each step and each binding in its block. -/
def tokens : Call → Blocks (List Token)
  | .navigate url => .steps ["FROM".toList :: words url]
  | .clickTimes selector times =>
    .steps (List.replicate times ("CLICK".toList :: "ON".toList :: words selector))
  | .enter selector text => .steps ["ENTER".toList :: "INTO".toList :: words selector ++ words text]
  | .dive column => .steps ["DIVE".toList :: "INTO".toList :: words column]
  | .imitate skill => .steps ["ACCORDING".toList :: "TO".toList :: words skill]
  | .on target => .binding ["TARGET".toList, "<|".toList, target.word.toList, "|".toList]
  | .group selector => .steps ["GROUP".toList :: "BY".toList :: words selector]
  | .select extractions => .steps ["SELECT".toList :: columnTokens extractions]
  | .distinct column => .steps ["DISTINCT".toList :: words column]
  | .window mode timestamp radius =>
    .steps ["WITH".toList :: "TIME".toList :: mode.word.toList ::
      (words timestamp ++ radius.toList.flatMap words)]
  | .assign name value => .binding (words name ++ "<|".toList :: words value ++ ["|".toList])
  | .define name params body =>
    .binding (words name ++ "<|>".toList :: paramTokens params ++ (tokensAll body).nested ++
      ["|".toList])
  | .applyWith name args => .steps [words name ++ args.flatMap words]
  | .when condition body =>
    .steps ["WHEN".toList :: words condition ++ "THEN".toList :: (tokensAll body).nested]
  | .whenElse condition body otherwise =>
    .steps ["WHEN".toList :: words condition ++ "THEN".toList :: (tokensAll body).nested ++
      "ELSE".toList :: (tokensAll otherwise).nested]

/-- The tokens of a list of calls. -/
def tokensAll : List Call → Blocks (List Token)
  | [] => {}
  | call :: rest => call.tokens.append (tokensAll rest)

end

end Call

/-! ## §3 Words of templates -/

/-- A template that starts with words of its own. -/
theorem words_template {head : String} (own : List Token) (hend : endsBlank head = true)
    (hown : words head = own) (rest : String) : words (head ++ rest) = own ++ words rest := by
  rw [words_append_left hend, hown]

/-- Two texts around a template. -/
theorem words_around {separator : String} (own : List Token) (hstart : startsBlank separator = true)
    (hend : endsBlank separator = true) (hown : words separator = own) (a b : String) :
    words (a ++ separator ++ b) = words a ++ own ++ words b := by
  rw [words_append_between a b hstart hend, hown]

/-- A text with a bar behind it. -/
theorem words_bar (a : String) : words (a ++ " |") = words a ++ ["|".toList] := by
  rw [words_append_right a (by decide), show words " |" = ["|".toList] by decide]

/-- Arguments with blanks between them. -/
theorem words_args (args : List String) : words (" ".intercalate args) = args.flatMap words := by
  rw [words_intercalate_blanks (by decide) (by decide) (by decide), List.flatMap_def]

/-- A keyword with arguments behind it. -/
theorem words_plain (op : Operation) (args : List String) (head : String) (own : List Token)
    (hfragment : (Instruction.plain op args).fragment = head ++ " ".intercalate args)
    (hend : endsBlank head = true) (hown : words head = own) :
    words (Instruction.plain op args).fragment = own ++ args.flatMap words := by
  rw [hfragment, words_template own hend hown, words_args]

theorem words_extraction (mark : String) (e : Extraction) :
    words (e.fragment ++ mark) = e.tokens mark := by
  cases hname : e.name with
  | none => simp only [Extraction.fragment, Extraction.tokens, hname]
  | some name =>
    simp only [Extraction.fragment, Extraction.tokens, hname]
    rw [String.append_assoc, words_around ["AS".toList] (by decide) (by decide) (by decide),
      List.append_assoc, List.singleton_append]

theorem words_columns (extractions : List Extraction) :
    words (", ".intercalate (extractions.map Extraction.fragment)) = columnTokens extractions := by
  induction extractions with
  | nil => rfl
  | cons e rest ih =>
    cases rest with
    | nil => simpa [columnTokens] using words_extraction "" e
    | cons next rest =>
      -- the comma stays with the column in front of it
      have hcomma : e.fragment ++ ", " = e.fragment ++ "," ++ " " := by
        rw [String.append_assoc]
        rfl
      rw [List.map_cons, List.map_cons, String.intercalate_cons_cons, ← List.map_cons, hcomma,
        words_around [] (by decide) (by decide) (by decide), ih, words_extraction, columnTokens,
        List.append_nil]

theorem words_binding (name value : String) :
    words (Call.binding name value) = words name ++ "<|".toList :: words value ++ ["|".toList] := by
  rw [Call.binding, words_bar, words_around ["<|".toList] (by decide) (by decide) (by decide)]
  simp

theorem words_definition (name : String) (params : List String) (body : String) :
    words (Call.definition name params body) =
      words name ++ "<|>".toList :: paramTokens params ++ words body ++ ["|".toList] := by
  have hhead : words (if params.isEmpty then "" else " ".intercalate params ++ " <|") =
      paramTokens params := by
    rw [paramTokens]
    split_ifs with hempty
    · rfl
    · rw [words_append_right _ (by decide), words_args, show words " <|" = ["<|".toList] by decide]
  rw [Call.definition, words_bar, words_around [] (by decide) (by decide) (by decide),
    words_around ["<|>".toList] (by decide) (by decide) (by decide), hhead]
  simp

/-- An arm of a branch behind a text. -/
theorem words_arm (keyword separator : String) (hseparator : " " ++ keyword ++ " " = separator)
    (hstart : startsBlank separator = true) (hend : endsBlank separator = true)
    (hown : words separator = [keyword.toList]) (a flow : String) :
    words (a ++ Instruction.arm keyword [flow]) = words a ++ keyword.toList :: words flow := by
  have harm : Instruction.arm keyword [flow] = separator ++ flow := by
    simp [Instruction.arm, hseparator]
  rw [harm, ← String.append_assoc, words_around [keyword.toList] hstart hend hown]
  simp

/-- A branch, with an arm for when its condition does not hold or without one. -/
theorem words_branch (condition thenFlow : String) (elseFlow : Option String) :
    words (Instruction.branch condition thenFlow elseFlow).fragment =
      "WHEN".toList :: words condition ++ "THEN".toList :: words thenFlow ++
        elseFlow.toList.flatMap fun flow => "ELSE".toList :: words flow := by
  have hcondition : words ("WHEN " ++ condition) = "WHEN".toList :: words condition :=
    words_template ["WHEN".toList] (by decide) (by decide) condition
  have hthen : words ("WHEN " ++ condition ++ Instruction.arm "THEN" [thenFlow]) =
      "WHEN".toList :: words condition ++ "THEN".toList :: words thenFlow := by
    rw [words_arm "THEN" " THEN " rfl (by decide) (by decide) (by decide), hcondition]
  have hfragment : (Instruction.branch condition thenFlow elseFlow).fragment =
      "WHEN " ++ condition ++ Instruction.arm "THEN" [thenFlow] ++
        Instruction.arm "ELSE" elseFlow.toList := by
    simp [Instruction.fragment, Instruction.branch, Instruction.condition]
  rw [hfragment]
  cases elseFlow with
  | none =>
    have hnone : Instruction.arm "ELSE" (none : Option String).toList = "" := rfl
    rw [hnone, String.append_empty, hthen]
    simp
  | some flow =>
    rw [Option.toList_some, words_arm "ELSE" " ELSE " rfl (by decide) (by decide) (by decide),
      hthen]
    simp

/-! ## §4 The words of a log -/

/-- The tokens of the instructions of a log. -/
def tokensOf (log : List Instruction) : Blocks (List Token) :=
  ⟨(log.filter (·.isBinding)).map fun i => words i.fragment,
    (log.filter (!·.isBinding)).map fun i => words i.fragment⟩

theorem tokensOf_append (log log' : List Instruction) :
    tokensOf (log ++ log') = (tokensOf log).append (tokensOf log') := by
  simp [tokensOf, Blocks.append]

theorem tokensOf_binding {i : Instruction} {ts : List Token} (h : i.isBinding = true)
    (hwords : words i.fragment = ts) : tokensOf [i] = .binding ts := by
  simp [tokensOf, Blocks.binding, h, hwords]

theorem tokensOf_replicate {i : Instruction} {ts : List Token} (h : i.isBinding = false)
    (hwords : words i.fragment = ts) (times : ℕ) :
    tokensOf (List.replicate times i) = .steps (List.replicate times ts) := by
  simp [tokensOf, Blocks.steps, h, hwords]

theorem tokensOf_step {i : Instruction} {ts : List Token} (h : i.isBinding = false)
    (hwords : words i.fragment = ts) : tokensOf [i] = .steps [ts] :=
  tokensOf_replicate h hwords 1

theorem words_bindings (log : List Instruction) :
    words (Program.bindings log) = (tokensOf log).bindings.flatten := by
  rw [Program.bindings, words_intercalate_blanks (by decide) (by decide) (by decide), List.map_map]
  rfl

theorem words_flow_topLevel (log : List Instruction) :
    words (Program.flow .topLevel log) = [Token.pipe].intercalate (tokensOf log).flow := by
  rw [Program.flow, Program.pipeline, words_intercalate (by decide) (by decide), List.map_map,
    show words " |> " = [Token.pipe] by decide]
  rfl

theorem words_flow_nested (log : List Instruction) :
    words (Program.flow .nested log) =
      (tokensOf log).flow.flatMap fun step => Token.pipe :: step := by
  have hpipe : ∀ fragment : String, words ("|> " ++ fragment) = Token.pipe :: words fragment :=
    words_template [Token.pipe] (by decide) (by decide)
  simp only [Program.flow, Program.pipeline, words_args, tokensOf, List.flatMap_map, hpipe]

theorem words_compile (placement : Placement) (log : List Instruction) :
    words (compile placement log) =
      (tokensOf log).bindings.flatten ++ words (Program.flow placement log) := by
  rw [compile, words_trim, words_around [] (by decide) (by decide) (by decide), words_bindings,
    List.append_nil]

/-- **A program on its own** has the tokens of its log, with a pipe between neighbours. -/
theorem words_compile_topLevel (log : List Instruction) :
    words (compile .topLevel log) = (tokensOf log).standalone := by
  rw [words_compile, words_flow_topLevel, Blocks.standalone]

/-- **A program behind a pipeline** has the tokens of its log, with a pipe in front of every
step. -/
theorem words_compile_nested (log : List Instruction) :
    words (compile .nested log) = (tokensOf log).nested := by
  rw [words_compile, words_flow_nested, Blocks.nested]

/-! ## §5 The words of a trip -/

namespace Call

mutual

/-- A call records its tokens. -/
theorem tokensOf_record : ∀ call : Call, tokensOf call.record = call.tokens
  | .navigate url => by
    have hwords := words_plain .navigate [url] "FROM " ["FROM".toList] rfl (by decide) (by decide)
    simpa [record, tokens] using tokensOf_step rfl hwords
  | .clickTimes selector times => by
    have hwords := words_plain .click [selector] "CLICK ON " ["CLICK".toList, "ON".toList] rfl
      (by decide) (by decide)
    simpa [record, tokens] using tokensOf_replicate rfl hwords times
  | .enter selector text => by
    have hwords := words_plain .enter [selector, text] "ENTER INTO "
      ["ENTER".toList, "INTO".toList] rfl (by decide) (by decide)
    simpa [record, tokens] using tokensOf_step rfl hwords
  | .dive column => by
    have hwords := words_plain .dive [column] "DIVE INTO " ["DIVE".toList, "INTO".toList] rfl
      (by decide) (by decide)
    simpa [record, tokens] using tokensOf_step rfl hwords
  | .imitate skill => by
    have hwords := words_plain .according [skill] "ACCORDING TO "
      ["ACCORDING".toList, "TO".toList] rfl (by decide) (by decide)
    simpa [record, tokens] using tokensOf_step rfl hwords
  | .on target => by
    cases target <;> exact tokensOf_binding rfl (by decide)
  | .group selector => by
    have hwords := words_plain .group [selector] "GROUP BY " ["GROUP".toList, "BY".toList] rfl
      (by decide) (by decide)
    simpa [record, tokens] using tokensOf_step rfl hwords
  | .select extractions => by
    refine tokensOf_step rfl ?_
    exact (words_template ["SELECT".toList] (by decide) (by decide) _).trans
      (congrArg _ (words_columns extractions))
  | .distinct column => by
    have hwords := words_plain .distinct [column] "DISTINCT " ["DISTINCT".toList] rfl (by decide)
      (by decide)
    simpa [record, tokens] using tokensOf_step rfl hwords
  | .window mode timestamp radius => by
    have hmode : words mode.word = [mode.word.toList] := by cases mode <;> decide
    have hwords := words_plain .window ([mode.word, timestamp] ++ radius.toList) "WITH TIME "
      ["WITH".toList, "TIME".toList] rfl (by decide) (by decide)
    simpa [record, tokens, hmode] using tokensOf_step rfl hwords
  | .assign name value => tokensOf_binding rfl (words_binding name value)
  | .define name params body => by
    -- the body is compiled to a text, whose words are those of its own log
    refine tokensOf_binding rfl ((words_definition name params _).trans ?_)
    rw [words_compile_nested, tokensOf_recordAll body]
  | .applyWith name args => by
    refine tokensOf_step rfl ((words_args (name :: args)).trans ?_)
    rw [List.flatMap_cons]
  | .when condition body => by
    have hwords := words_branch condition (compile .nested (recordAll body)) none
    rw [words_compile_nested, tokensOf_recordAll body] at hwords
    simpa [record, tokens] using tokensOf_step rfl hwords
  | .whenElse condition body otherwise => by
    have hwords := words_branch condition (compile .nested (recordAll body))
      (some (compile .nested (recordAll otherwise)))
    rw [words_compile_nested, tokensOf_recordAll body] at hwords
    simpa [record, tokens, words_compile_nested, tokensOf_recordAll otherwise] using
      tokensOf_step rfl hwords

/-- A list of calls records its tokens. -/
theorem tokensOf_recordAll : ∀ calls : List Call, tokensOf (recordAll calls) = tokensAll calls
  | [] => rfl
  | call :: rest => by
    rw [recordAll, tokensAll, tokensOf_append, tokensOf_record call, tokensOf_recordAll rest]

end

/-- The program of what calls record has their tokens. -/
theorem words_compile_recordAll (calls : List Call) :
    words (compile .topLevel (recordAll calls)) = (tokensAll calls).standalone := by
  rw [words_compile_topLevel, tokensOf_recordAll]

end Call

namespace Trip

theorem program_performAll (calls : List Call) :
    (Trip.empty.performAll calls).program = compile .topLevel (Call.recordAll calls) := by
  rw [program, performAll_log]
  rfl

/-- **Conservation of tokens.** The words of the program of a trip are the tokens of its calls: no
step at any depth is lost, doubled, moved or joined with a neighbour. -/
theorem words_program (calls : List Call) :
    words (Trip.empty.performAll calls).program = (Call.tokensAll calls).standalone := by
  rw [program_performAll, Call.words_compile_recordAll]

example : (Call.tokensAll [.when "ready" [.click "a", .assign "n" "v"], .on .browser]).standalone =
    words "TARGET <| BROWSER | WHEN ready THEN n <| v | |> CLICK ON a" := by
  decide

end Trip

end WebTrip
