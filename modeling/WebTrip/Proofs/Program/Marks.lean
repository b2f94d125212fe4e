import WebTrip.Proofs.Program.Steps

/-!
# Marks of programs

A program does not show where a branch ends: a pipe follows a branch as it follows a step inside of
it, and an `ELSE` does not name its `WHEN`. What a program does show is a sequence of marks: the
bindings, the steps, the head of each branch and each `ELSE`, and both ends of each function.

## Main definitions

- `Call.outline`: calls with the bindings of each body in front
- `Mark`, `Mark.tokens`: the parts of a program that its tokens show
- `Call.marks`, `Call.reading`: the marks of calls

## Main statements

- `Call.stream_arrangedAll`: calls have the tokens of their marks
-/

namespace WebTrip

open WebTrip.Text

/-- Both blocks, bindings first. -/
def Blocks.inOrder {α : Type} (b : Blocks α) : List α :=
  b.bindings ++ b.flow

namespace Call

/-! ## §1 Outlines -/

mutual

/-- The calls that a call stands for, with the bindings of each body in front of its flow. Clicks in
a row are single clicks. -/
def arranged : Call → Blocks Call
  | .clickTimes selector times => .steps (List.replicate times (.click selector))
  | .on target => .binding (.on target)
  | .assign name value => .binding (.assign name value)
  | .define name params body => .binding (.define name params (arrangedAll body).inOrder)
  | .when condition body => .steps [.when condition (arrangedAll body).inOrder]
  | .whenElse condition body otherwise =>
    .steps [.whenElse condition (arrangedAll body).inOrder (arrangedAll otherwise).inOrder]
  | call => .steps [call]

/-- The blocks of a body. -/
def arrangedAll : List Call → Blocks Call
  | [] => {}
  | call :: rest => call.arranged.append (arrangedAll rest)

end

/-- **The outline** of a list of calls: the same tree of calls, with the bindings of each body in
front of its flow. -/
def outline (calls : List Call) : List Call :=
  (arrangedAll calls).inOrder

end Call

/-! ## §2 Marks -/

/-- A part of a program that its tokens show. -/
inductive Mark where
  | binding (name value : String)
  | target (target : Target)
  /-- The head of a function. -/
  | opening (name : String) (params : List String)
  /-- The end of a function. -/
  | closing
  /-- A step without a body. -/
  | step (call : Call)
  /-- The head of a branch. Its end does not show. -/
  | branch (condition : String)
  /-- Between the two bodies of a branch. Which branch it is does not show. -/
  | otherwise

namespace Call

mutual

/-- The marks of a call. -/
def marks : Call → List Mark
  | .on target => [.target target]
  | .assign name value => [.binding name value]
  | .define name params body => .opening name params :: marksAll body ++ [.closing]
  | .when condition body => .branch condition :: marksAll body
  | .whenElse condition body otherwise =>
    .branch condition :: marksAll body ++ .otherwise :: marksAll otherwise
  | call => [.step call]

/-- The marks of a list of calls. -/
def marksAll : List Call → List Mark
  | [] => []
  | call :: rest => call.marks ++ marksAll rest

end

/-- **The reading** of a list of calls: the marks of the two blocks of its outline. -/
def reading (calls : List Call) : Blocks Mark :=
  ⟨marksAll (arrangedAll calls).bindings, marksAll (arrangedAll calls).flow⟩

theorem marksAll_append (calls calls' : List Call) :
    marksAll (calls ++ calls') = marksAll calls ++ marksAll calls' := by
  induction calls with
  | nil => rfl
  | cons call rest ih => rw [List.cons_append, marksAll, marksAll, ih, List.append_assoc]

end Call

namespace Mark

/-- The tokens of a mark. Steps and branches have a pipe in front. -/
def tokens : Mark → List Token
  | .binding name value => words name ++ "<|".toList :: words value ++ ["|".toList]
  | .target t => ["TARGET".toList, "<|".toList, t.word.toList, "|".toList]
  | .opening name params => words name ++ "<|>".toList :: paramTokens params
  | .closing => ["|".toList]
  | .step call => Token.pipe :: call.stepTokens
  | .branch condition => Token.pipe :: "WHEN".toList :: words condition ++ ["THEN".toList]
  | .otherwise => ["ELSE".toList]

/-- The tokens of marks. -/
def stream (marks : List Mark) : List Token :=
  marks.flatMap tokens

theorem stream_cons (m : Mark) (marks : List Mark) :
    stream (m :: marks) = m.tokens ++ stream marks :=
  List.flatMap_cons

theorem stream_append (marks marks' : List Mark) :
    stream (marks ++ marks') = stream marks ++ stream marks' :=
  List.flatMap_append

end Mark

namespace Call

open Mark (stream stream_cons stream_append)

/-- The marks of a step without a body have its tokens. -/
theorem stream_steps {call : Call} (hmarks : call.marks = [.step call]) {ts : List Token}
    (htokens : call.tokens = .steps [ts]) (times : ℕ) :
    stream (marksAll (List.replicate times call)) =
      (List.replicate times ts).flatMap fun step => Token.pipe :: step := by
  induction times with
  | zero => rfl
  | succ times ih =>
    have hstep : (Mark.step call).tokens = Token.pipe :: ts := by
      simp [Mark.tokens, stepTokens, htokens, Blocks.steps]
    rw [List.replicate_succ, List.replicate_succ, marksAll, hmarks, List.singleton_append,
      stream_cons, hstep, ih, List.flatMap_cons]

mutual

/-- The marks of a call have the tokens of the call, block by block. -/
theorem stream_arranged : ∀ call : Call,
    stream (marksAll call.arranged.bindings) = call.tokens.bindings.flatten ∧
      stream (marksAll call.arranged.flow) = call.tokens.flow.flatMap fun step => Token.pipe :: step
  | .navigate _ => ⟨rfl, stream_steps rfl rfl 1⟩
  | .clickTimes selector times => by
    refine ⟨rfl, stream_steps rfl rfl times⟩
  | .enter _ _ => ⟨rfl, stream_steps rfl rfl 1⟩
  | .dive _ => ⟨rfl, stream_steps rfl rfl 1⟩
  | .imitate _ => ⟨rfl, stream_steps rfl rfl 1⟩
  | .on _ => ⟨rfl, rfl⟩
  | .group _ => ⟨rfl, stream_steps rfl rfl 1⟩
  | .select _ => ⟨rfl, stream_steps rfl rfl 1⟩
  | .distinct _ => ⟨rfl, stream_steps rfl rfl 1⟩
  | .window _ _ _ => ⟨rfl, stream_steps rfl rfl 1⟩
  | .assign _ _ => ⟨rfl, rfl⟩
  | .define name params body => by
    refine ⟨?_, rfl⟩
    simp only [arranged, Blocks.binding, marksAll, marks, List.append_nil, List.cons_append,
      stream_cons, stream_append, stream_inOrder body, tokens, Mark.tokens]
    simp [stream]
  | .applyWith _ _ => ⟨rfl, stream_steps rfl rfl 1⟩
  | .when condition body => by
    refine ⟨rfl, ?_⟩
    simp only [arranged, Blocks.steps, marksAll, marks, List.append_nil, stream_cons,
      stream_inOrder body, tokens, Mark.tokens]
    simp
  | .whenElse condition body otherwise => by
    refine ⟨rfl, ?_⟩
    simp only [arranged, Blocks.steps, marksAll, marks, List.append_nil, List.cons_append,
      stream_cons, stream_append, stream_inOrder body, stream_inOrder otherwise, tokens,
      Mark.tokens]
    simp

/-- The marks of a body have the tokens of the body, block by block. -/
theorem stream_arrangedAll : ∀ calls : List Call,
    stream (marksAll (arrangedAll calls).bindings) = (tokensAll calls).bindings.flatten ∧
      stream (marksAll (arrangedAll calls).flow) =
        (tokensAll calls).flow.flatMap fun step => Token.pipe :: step
  | [] => ⟨rfl, rfl⟩
  | call :: rest => by
    obtain ⟨hbindings, hflow⟩ := stream_arranged call
    obtain ⟨hbindings', hflow'⟩ := stream_arrangedAll rest
    constructor
    · rw [arrangedAll, tokensAll, Blocks.append, Blocks.append, marksAll_append, stream_append,
        hbindings, hbindings', List.flatten_append]
    · rw [arrangedAll, tokensAll, Blocks.append, Blocks.append, marksAll_append, stream_append,
        hflow, hflow', List.flatMap_append]

/-- The marks of a body have the tokens of the body. -/
theorem stream_inOrder (calls : List Call) :
    stream (marksAll (arrangedAll calls).inOrder) = (tokensAll calls).nested := by
  obtain ⟨hbindings, hflow⟩ := stream_arrangedAll calls
  rw [Blocks.inOrder, marksAll_append, stream_append, hbindings, hflow, Blocks.nested]

end

end Call

end WebTrip
