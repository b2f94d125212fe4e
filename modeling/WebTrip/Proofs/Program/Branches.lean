import WebTrip.Proofs.Program.Reading

/-!
# Branches in programs

The program of a trip shows the marks of its calls, but neither the end of a branch nor the `WHEN`
of an `ELSE`. Two trees of calls with different branches may therefore have the same program. In a
settled tree every branch goes as far as it can and every `ELSE` belongs to the nearest open
`WHEN`; the program of a settled tree shows all of it.

## Main definitions

- `Call.isSettledAll`: nothing follows a branch in its body, and no `WHEN` is left open in front of
  an `ELSE`
- `Call.settleAll`: what follows a branch goes to its last body, and an `ELSE` to the nearest `WHEN`
- `Call.settled`: the settled outline of calls

## Main statements

- `Call.marksAll_injective`: settled calls are told by their marks
- `Call.marksAll_settleAll`, `Call.isSettledAll_settleAll`: settling keeps the marks
- `Call.settleAll_of_settled`: settled calls stay as they are
- `Call.program_shows_branches`: what the program of a clean trip shows of its branches
- `Call.program_hides_branches`: what it does not show
-/

namespace WebTrip

open WebTrip.Text

namespace Call

/-! ## §1 Settled calls -/

/-- Whether a call is a branch. -/
def isBranch : Call → Bool
  | .when _ _ | .whenElse _ _ _ => true
  | _ => false

mutual

/-- Whether an `ELSE` behind the call would belong to a branch at its end. -/
def isOpen : Call → Bool
  | .when _ _ => true
  | .whenElse _ _ otherwise => endsOpen otherwise
  | _ => false

/-- Whether the last call is open. -/
def endsOpen : List Call → Bool
  | [] => false
  | call :: rest => if rest.isEmpty then call.isOpen else endsOpen rest

end

mutual

/-- Whether the bodies of a call are settled, and no branch is open in front of its `ELSE`. -/
def isSettled : Call → Bool
  | .define _ _ body => isSettledAll body
  | .when _ body => isSettledAll body
  | .whenElse _ body otherwise => isSettledAll body && !endsOpen body && isSettledAll otherwise
  | _ => true

/-- Whether calls are settled, and nothing follows a branch. -/
def isSettledAll : List Call → Bool
  | [] => true
  | call :: rest => call.isSettled && (!call.isBranch || rest.isEmpty) && isSettledAll rest

end

/-! ## §2 Marks of settled calls -/

/-- Marks that end calls: nothing, the end of a function, or an `ELSE` if the calls do not end
open. -/
def Ends (opened : Bool) : List Mark → Prop
  | [] | .closing :: _ => True
  | .otherwise :: _ => opened = false
  | _ => False

theorem ends_closing {opened : Bool} {r : List Mark} : Ends opened (.closing :: r) :=
  trivial

theorem ends_otherwise {opened : Bool} {r : List Mark} (h : opened = false) :
    Ends opened (.otherwise :: r) :=
  h

theorem Ends.of_open {opened : Bool} {r : List Mark} (h : Ends opened r) : Ends false r := by
  cases r with
  | nil => trivial
  | cons m rest =>
    cases m with
    | otherwise => rfl
    | _ => exact h

theorem Ends.of_all {opened : Bool} {r : List Mark} (h : Ends true r) : Ends opened r := by
  cases r with
  | nil => trivial
  | cons m rest =>
    cases m with
    | otherwise => cases h
    | _ => exact h

/-- No call starts with marks that end calls. -/
theorem not_ends_marks {opened : Bool} (call : Call) (r : List Mark) :
    ¬ Ends opened (call.marks ++ r) := by
  cases call <;> exact id

/-- A step is told by its mark. -/
theorem eq_of_step {call call' : Call} {r r' : List Mark}
    (heq : Mark.step call :: r = call'.marks ++ r') : call = call' ∧ r = r' := by
  cases call' with
  | on | assign | define | when | whenElse => cases heq
  | _ =>
    obtain ⟨hstep, hrest⟩ := List.cons.inj heq
    exact ⟨Mark.step.inj hstep, hrest⟩

section Cons

variable {call : Call} {rest : List Call} {r : List Mark}

theorem settled_head (h : isSettledAll (call :: rest) = true) : call.isSettled = true := by
  rw [isSettledAll, Bool.and_eq_true, Bool.and_eq_true] at h
  exact h.1.1

theorem settled_tail (h : isSettledAll (call :: rest) = true) : isSettledAll rest = true := by
  rw [isSettledAll, Bool.and_eq_true] at h
  exact h.2

theorem not_branch_of_followed (h : isSettledAll (call :: rest) = true)
    (hrest : ¬ rest.isEmpty = true) : call.isBranch = false := by
  simp only [isSettledAll, hrest, Bool.and_eq_true] at h
  simpa using h.1.2

/-- What ends settled calls also ends the calls behind the first one. -/
theorem ends_tail (hr : Ends (endsOpen (call :: rest)) r) : Ends (endsOpen rest) r := by
  cases rest with
  | nil => exact hr.of_open
  | cons next rest => exact hr

/-- A branch at the front of settled calls is the only one of them, and ended by what ends them. -/
theorem ends_branch (h : isSettledAll (call :: rest) = true)
    (hr : Ends (endsOpen (call :: rest)) r) :
    call.isBranch = true → Ends call.isOpen (marksAll rest ++ r) := by
  intro hbranch
  simp only [isSettledAll, hbranch, Bool.and_eq_true] at h
  cases rest with
  | nil => exact hr
  | cons next rest => simp at h

end Cons

-- The induction is on the first calls. What comes behind is arbitrary, but for marks that would
-- continue a branch: nothing tells where a branch ends except that its calls do.
mutual

/-- A settled call is told by its marks, in front of marks that end it if it is a branch. -/
theorem marks_unique : ∀ call call' : Call, ∀ r r' : List Mark, call.isSettled = true →
    call'.isSettled = true → (call.isBranch = true → Ends call.isOpen r) →
    (call'.isBranch = true → Ends call'.isOpen r') → call.marks ++ r = call'.marks ++ r' →
    call = call' ∧ r = r'
  | .on t, call', r, r', _, _, _, _, heq => by
    cases call' with
    | on t' =>
      cases heq
      exact ⟨rfl, rfl⟩
    | _ => cases heq
  | .assign name value, call', r, r', _, _, _, _, heq => by
    cases call' with
    | assign name' value' =>
      cases heq
      exact ⟨rfl, rfl⟩
    | _ => cases heq
  | .define name params body, call', r, r', h, h', _, _, heq => by
    cases call' with
    | define name' params' body' =>
      simp only [marks, List.cons_append, List.append_assoc, List.cons.injEq,
        Mark.opening.injEq] at heq
      obtain ⟨⟨rfl, rfl⟩, hrest⟩ := heq
      obtain ⟨rfl, hclosing⟩ := marksAll_unique body body' _ _ h h' ends_closing ends_closing hrest
      exact ⟨rfl, (List.cons.inj hclosing).2⟩
    | _ => cases heq
  | .when condition body, call', r, r', h, h', hr, hr', heq => by
    have hends : Ends true r := hr rfl
    cases call' with
    | when condition' body' =>
      simp only [marks, List.cons_append, List.cons.injEq, Mark.branch.injEq] at heq
      obtain ⟨rfl, hrest⟩ := heq
      have hends' : Ends true r' := hr' rfl
      obtain ⟨rfl, rfl⟩ := marksAll_unique body body' _ _ h h' hends.of_all hends'.of_all hrest
      exact ⟨rfl, rfl⟩
    | whenElse condition' body' otherwise' =>
      simp only [isSettled, Bool.and_eq_true, Bool.not_eq_true'] at h'
      simp only [marks, List.cons_append, List.append_assoc, List.cons.injEq] at heq
      obtain ⟨-, rfl⟩ := marksAll_unique body body' _ _ h h'.1.1 hends.of_all
        (ends_otherwise h'.1.2) heq.2
      -- the `ELSE` would belong to the first branch
      cases hends
    | _ => cases heq
  | .whenElse condition body otherwise, call', r, r', h, h', hr, hr', heq => by
    simp only [isSettled, Bool.and_eq_true, Bool.not_eq_true'] at h
    cases call' with
    | when condition' body' =>
      have hends' : Ends true r' := hr' rfl
      simp only [marks, List.cons_append, List.append_assoc, List.cons.injEq] at heq
      obtain ⟨-, rfl⟩ := marksAll_unique body body' _ _ h.1.1 h' (ends_otherwise h.1.2)
        hends'.of_all heq.2
      -- the `ELSE` would belong to the second branch
      cases hends'
    | whenElse condition' body' otherwise' =>
      simp only [isSettled, Bool.and_eq_true, Bool.not_eq_true'] at h'
      simp only [marks, List.cons_append, List.append_assoc, List.cons.injEq,
        Mark.branch.injEq] at heq
      obtain ⟨rfl, hrest⟩ := heq
      obtain ⟨rfl, hotherwise⟩ := marksAll_unique body body' _ _ h.1.1 h'.1.1
        (ends_otherwise h.1.2) (ends_otherwise h'.1.2) hrest
      obtain ⟨rfl, rfl⟩ := marksAll_unique otherwise otherwise' r r' h.2 h'.2 (hr rfl) (hr' rfl)
        (List.cons.inj hotherwise).2
      exact ⟨rfl, rfl⟩
    | _ => cases heq
  | .navigate _, _, _, _, _, _, _, _, heq => eq_of_step heq
  | .clickTimes _ _, _, _, _, _, _, _, _, heq => eq_of_step heq
  | .enter _ _, _, _, _, _, _, _, _, heq => eq_of_step heq
  | .dive _, _, _, _, _, _, _, _, heq => eq_of_step heq
  | .imitate _, _, _, _, _, _, _, _, heq => eq_of_step heq
  | .group _, _, _, _, _, _, _, _, heq => eq_of_step heq
  | .select _, _, _, _, _, _, _, _, heq => eq_of_step heq
  | .distinct _, _, _, _, _, _, _, _, heq => eq_of_step heq
  | .window _ _ _, _, _, _, _, _, _, _, heq => eq_of_step heq
  | .applyWith _ _, _, _, _, _, _, _, _, heq => eq_of_step heq

/-- Settled calls are told by their marks, in front of marks that end them. -/
theorem marksAll_unique : ∀ calls calls' : List Call, ∀ r r' : List Mark,
    isSettledAll calls = true → isSettledAll calls' = true → Ends (endsOpen calls) r →
    Ends (endsOpen calls') r' → marksAll calls ++ r = marksAll calls' ++ r' →
    calls = calls' ∧ r = r'
  | [], calls', r, r', _, _, hr, _, heq => by
    cases calls' with
    | nil => exact ⟨rfl, heq⟩
    | cons call' rest' =>
      rw [marksAll, marksAll, List.append_assoc, List.nil_append] at heq
      exact absurd (heq ▸ hr) (not_ends_marks call' _)
  | call :: rest, calls', r, r', h, h', hr, hr', heq => by
    cases calls' with
    | nil =>
      rw [marksAll, marksAll, List.append_assoc, List.nil_append] at heq
      exact absurd (heq ▸ hr') (not_ends_marks call _)
    | cons call' rest' =>
      rw [marksAll, marksAll, List.append_assoc, List.append_assoc] at heq
      obtain ⟨rfl, hrest⟩ := marks_unique call call' _ _ (settled_head h) (settled_head h')
        (ends_branch h hr) (ends_branch h' hr') heq
      obtain ⟨rfl, rfl⟩ := marksAll_unique rest rest' r r' (settled_tail h) (settled_tail h')
        (ends_tail hr) (ends_tail hr') hrest
      exact ⟨rfl, rfl⟩

end

/-- **Settled calls** are told by their marks. -/
theorem marksAll_injective {calls calls' : List Call} (h : isSettledAll calls = true)
    (h' : isSettledAll calls' = true) (heq : marksAll calls = marksAll calls') :
    calls = calls' :=
  (marksAll_unique calls calls' [] [] h h' trivial trivial (by rw [heq])).1

/-! ## §3 Settling -/

mutual

/-- A call with more calls behind it. Behind a branch they go to its last body. -/
def followedBy (more : List Call) : Call → List Call
  | .when condition body => [.when condition (followedAllBy more body)]
  | .whenElse condition body otherwise =>
    [.whenElse condition body (followedAllBy more otherwise)]
  | call => call :: more

/-- Calls with more calls behind the last one. -/
def followedAllBy (more : List Call) : List Call → List Call
  | [] => more
  | call :: rest =>
    if rest.isEmpty then call.followedBy more else call :: followedAllBy more rest

end

mutual

/-- An open call with a body for the `ELSE` of its innermost open `WHEN`. -/
def withElse (otherwise : List Call) : Call → Call
  | .when condition body =>
    if endsOpen body then .when condition (withElseAll otherwise body)
    else .whenElse condition body otherwise
  | .whenElse condition body last => .whenElse condition body (withElseAll otherwise last)
  | call => call

/-- Calls with a body for an `ELSE` of the last one. -/
def withElseAll (otherwise : List Call) : List Call → List Call
  | [] => []
  | call :: rest =>
    if rest.isEmpty then [call.withElse otherwise] else call :: withElseAll otherwise rest

end

mutual

/-- The call with settled bodies. -/
def settle : Call → Call
  | .define name params body => .define name params (settleAll body)
  | .when condition body => .when condition (settleAll body)
  | .whenElse condition body otherwise =>
    (Call.when condition (settleAll body)).withElse (settleAll otherwise)
  | call => call

/-- **Settling** calls: what follows a branch goes to its last body, and an `ELSE` goes to the
nearest open `WHEN`. -/
def settleAll : List Call → List Call
  | [] => []
  | call :: rest => call.settle.followedBy (settleAll rest)

end

mutual

theorem marksAll_followedBy (more : List Call) : ∀ call : Call,
    marksAll (call.followedBy more) = call.marks ++ marksAll more
  | .when condition body => by
    simp [followedBy, marksAll, marks, marksAll_followedAllBy more body]
  | .whenElse condition body otherwise => by
    simp [followedBy, marksAll, marks, marksAll_followedAllBy more otherwise]
  | .navigate _ | .clickTimes _ _ | .enter _ _ | .dive _ | .imitate _ | .on _ | .group _
  | .select _ | .distinct _ | .window _ _ _ | .assign _ _ | .define _ _ _ | .applyWith _ _ => rfl

/-- Calls behind calls have their marks behind the marks of these. -/
theorem marksAll_followedAllBy (more : List Call) : ∀ calls : List Call,
    marksAll (followedAllBy more calls) = marksAll calls ++ marksAll more
  | [] => rfl
  | call :: rest => by
    rw [followedAllBy, marksAll]
    split_ifs with hrest
    · obtain rfl := List.isEmpty_iff.mp hrest
      rw [marksAll_followedBy more call, marksAll, List.append_nil]
    · rw [marksAll, marksAll_followedAllBy more rest, List.append_assoc]

end

mutual

theorem marks_withElse (otherwise : List Call) : ∀ call : Call, call.isOpen = true →
    (call.withElse otherwise).marks = call.marks ++ .otherwise :: marksAll otherwise
  | .when condition body, _ => by
    rw [withElse]
    split_ifs with hopen
    · rw [marks, marks, marksAll_withElseAll otherwise body hopen, List.cons_append]
    · rw [marks, marks]
  | .whenElse condition body last, hopen => by
    simp only [withElse, marks, marksAll_withElseAll otherwise last hopen, List.cons_append,
      List.append_assoc]
  | .navigate _, h | .clickTimes _ _, h | .enter _ _, h | .dive _, h | .imitate _, h | .on _, h
  | .group _, h | .select _, h | .distinct _, h | .window _ _ _, h | .assign _ _, h
  | .define _ _ _, h | .applyWith _ _, h => nomatch h

/-- Open calls with a body for an `ELSE` have its marks behind theirs. -/
theorem marksAll_withElseAll (otherwise : List Call) : ∀ calls : List Call,
    endsOpen calls = true →
    marksAll (withElseAll otherwise calls) = marksAll calls ++ .otherwise :: marksAll otherwise
  | call :: rest, hopen => by
    rw [endsOpen] at hopen
    rw [withElseAll, marksAll]
    split_ifs with hrest
    · rw [if_pos hrest] at hopen
      obtain rfl := List.isEmpty_iff.mp hrest
      simp only [marksAll, marks_withElse otherwise call hopen, List.append_nil]
    · rw [if_neg hrest] at hopen
      rw [marksAll, marksAll_withElseAll otherwise rest hopen, List.append_assoc]

end

mutual

theorem marks_settle : ∀ call : Call, call.settle.marks = call.marks
  | .define _ _ body => by rw [settle, marks, marks, marksAll_settleAll body]
  | .when _ body => by rw [settle, marks, marks, marksAll_settleAll body]
  | .whenElse condition body otherwise => by
    rw [settle, marks_withElse _ _ rfl, marks, marks, marksAll_settleAll body,
      marksAll_settleAll otherwise]
  | .navigate _ | .clickTimes _ _ | .enter _ _ | .dive _ | .imitate _ | .on _ | .group _
  | .select _ | .distinct _ | .window _ _ _ | .assign _ _ | .applyWith _ _ => rfl

/-- Settling keeps the marks. -/
theorem marksAll_settleAll : ∀ calls : List Call, marksAll (settleAll calls) = marksAll calls
  | [] => rfl
  | call :: rest => by
    rw [settleAll, marksAll_followedBy, marks_settle call, marksAll_settleAll rest, marksAll]

end

mutual

theorem isSettledAll_followedBy {more : List Call} (hmore : isSettledAll more = true) :
    ∀ call : Call, call.isSettled = true → isSettledAll (call.followedBy more) = true
  | .when condition body, h => by
    simpa [followedBy, isSettledAll, isSettled] using isSettledAll_followedAllBy hmore body h
  | .whenElse condition body otherwise, h => by
    simp only [isSettled, Bool.and_eq_true] at h
    simpa [followedBy, isSettledAll, isSettled, h.1] using
      isSettledAll_followedAllBy hmore otherwise h.2
  | .define _ _ _, h => by simpa [followedBy, isSettledAll, isBranch, hmore] using h
  | .navigate _, _ | .clickTimes _ _, _ | .enter _ _, _ | .dive _, _ | .imitate _, _ | .on _, _
  | .group _, _ | .select _, _ | .distinct _, _ | .window _ _ _, _ | .assign _ _, _
  | .applyWith _ _, _ => hmore

theorem isSettledAll_followedAllBy {more : List Call} (hmore : isSettledAll more = true) :
    ∀ calls : List Call, isSettledAll calls = true →
      isSettledAll (followedAllBy more calls) = true
  | [], _ => hmore
  | call :: rest, h => by
    rw [followedAllBy]
    split_ifs with hrest
    · exact isSettledAll_followedBy hmore call (settled_head h)
    · have ih := isSettledAll_followedAllBy hmore rest (settled_tail h)
      simp [isSettledAll, ih, settled_head h, not_branch_of_followed h hrest]

end

mutual

theorem isSettled_withElse {otherwise : List Call} (hotherwise : isSettledAll otherwise = true) :
    ∀ call : Call, call.isSettled = true → (call.withElse otherwise).isSettled = true
  | .when condition body, h => by
    rw [withElse]
    split_ifs with hopen
    · exact isSettledAll_withElseAll hotherwise body h
    · simpa [isSettled, hotherwise, hopen] using h
  | .whenElse condition body last, h => by
    simp only [isSettled, Bool.and_eq_true] at h
    simpa [withElse, isSettled, h.1] using isSettledAll_withElseAll hotherwise last h.2
  | .define _ _ _, h => h
  | .navigate _, _ | .clickTimes _ _, _ | .enter _ _, _ | .dive _, _ | .imitate _, _ | .on _, _
  | .group _, _ | .select _, _ | .distinct _, _ | .window _ _ _, _ | .assign _ _, _
  | .applyWith _ _, _ => rfl

theorem isSettledAll_withElseAll {otherwise : List Call}
    (hotherwise : isSettledAll otherwise = true) : ∀ calls : List Call,
    isSettledAll calls = true → isSettledAll (withElseAll otherwise calls) = true
  | [], _ => rfl
  | call :: rest, h => by
    rw [withElseAll]
    split_ifs with hrest
    · simpa [isSettledAll] using isSettled_withElse hotherwise call (settled_head h)
    · have ih := isSettledAll_withElseAll hotherwise rest (settled_tail h)
      simp [isSettledAll, ih, settled_head h, not_branch_of_followed h hrest]

end

mutual

theorem isSettled_settle : ∀ call : Call, call.settle.isSettled = true
  | .define _ _ body => isSettledAll_settleAll body
  | .when _ body => isSettledAll_settleAll body
  | .whenElse condition body otherwise =>
    isSettled_withElse (isSettledAll_settleAll otherwise) (.when condition (settleAll body))
      (isSettledAll_settleAll body)
  | .navigate _ | .clickTimes _ _ | .enter _ _ | .dive _ | .imitate _ | .on _ | .group _
  | .select _ | .distinct _ | .window _ _ _ | .assign _ _ | .applyWith _ _ => rfl

/-- Settled calls come of settling. -/
theorem isSettledAll_settleAll : ∀ calls : List Call, isSettledAll (settleAll calls) = true
  | [] => rfl
  | call :: rest =>
    isSettledAll_followedBy (isSettledAll_settleAll rest) call.settle (isSettled_settle call)

end

/-- Calls settle to the same calls exactly if their marks are the same. -/
theorem settleAll_eq_iff {calls calls' : List Call} :
    settleAll calls = settleAll calls' ↔ marksAll calls = marksAll calls' := by
  constructor
  · intro heq
    rw [← marksAll_settleAll calls, heq, marksAll_settleAll]
  · intro heq
    refine marksAll_injective (isSettledAll_settleAll calls) (isSettledAll_settleAll calls') ?_
    rw [marksAll_settleAll, marksAll_settleAll, heq]

/-- Settled calls stay as they are. -/
theorem settleAll_of_settled {calls : List Call} (h : isSettledAll calls = true) :
    settleAll calls = calls :=
  marksAll_injective (isSettledAll_settleAll calls) h (marksAll_settleAll calls)

/-! ## §4 What programs show -/

/-- The outline of calls with both of its blocks settled. -/
def settled (calls : List Call) : Blocks Call :=
  ⟨settleAll (arrangedAll calls).bindings, settleAll (arrangedAll calls).flow⟩

theorem settled_eq_iff {calls calls' : List Call} :
    settled calls = settled calls' ↔ reading calls = reading calls' := by
  rw [settled, settled, reading, reading, Blocks.mk.injEq, Blocks.mk.injEq, settleAll_eq_iff,
    settleAll_eq_iff]

/-- **What a program shows.** Clean trips with the same program have the same outline once it is
settled: they differ at most in where bindings are recorded in a body, in whether steps behind a
branch are counted into its last body, and in which open `WHEN` an `ELSE` is counted to. Trips with
the same settled outline have the same tokens, so that this is all that is shown. Among settled
outlines the program shows the whole tree. -/
theorem program_shows_branches {calls calls' : List Call} (h : isCleanAll calls = true)
    (h' : isCleanAll calls' = true) :
    ((Trip.empty.performAll calls).program = (Trip.empty.performAll calls').program →
      settled calls = settled calls') ∧
    (settled calls = settled calls' → words (Trip.empty.performAll calls).program =
      words (Trip.empty.performAll calls').program) ∧
    (isSettledAll (outline calls) = true → isSettledAll (outline calls') = true →
      (Trip.empty.performAll calls).program = (Trip.empty.performAll calls').program →
      outline calls = outline calls') := by
  have hread : (Trip.empty.performAll calls).program = (Trip.empty.performAll calls').program →
      reading calls = reading calls' :=
    fun heq => (reading_eq_iff h h').mpr (congrArg words heq)
  refine ⟨fun heq => settled_eq_iff.mpr (hread heq),
    fun heq => (reading_eq_iff h h').mp (settled_eq_iff.mp heq), fun hsettled hsettled' heq => ?_⟩
  refine marksAll_injective hsettled hsettled' ?_
  rw [outline, outline, Blocks.inOrder, Blocks.inOrder, marksAll_append, marksAll_append]
  exact congrArg Blocks.inOrder (hread heq)

/-- A step and a settled branch. A binding is hoisted in its first body. -/
def hoisting : List Call :=
  [.navigate "x", .whenElse "ready" [.click "a", .assign "n" "v"] [.when "new" [.dive "b"]]]

/-- The same calls, with the binding in front. -/
def hoisted : List Call :=
  [.navigate "x", .whenElse "ready" [.assign "n" "v", .click "a"] [.when "new" [.dive "b"]]]

theorem program_shows_branches_hoisting :
    isCleanAll hoisting = true ∧ isCleanAll hoisted = true ∧
      isSettledAll (outline hoisting) = true ∧ isSettledAll (outline hoisted) = true ∧
      (Trip.empty.performAll hoisting).program = (Trip.empty.performAll hoisted).program ∧
      settled hoisting = settled hoisted ∧ outline hoisting = outline hoisted := by
  have hclean : isCleanAll hoisting = true := by decide
  have hclean' : isCleanAll hoisted = true := by decide
  have hprogram : (Trip.empty.performAll hoisting).program =
      (Trip.empty.performAll hoisted).program := by decide +kernel
  obtain ⟨hsettled, -, houtline⟩ := program_shows_branches hclean hclean'
  exact ⟨hclean, hclean', rfl, rfl, hprogram, hsettled hprogram, houtline rfl rfl hprogram⟩

/-! ## §5 What programs hide -/

mutual

/-- Whether every body in the call has a step. -/
def hasSteps : Call → Bool
  | .define _ _ body => (recordAll body).any (!·.isBinding) && hasStepsAll body
  | .when _ body => (recordAll body).any (!·.isBinding) && hasStepsAll body
  | .whenElse _ body otherwise =>
    (recordAll body).any (!·.isBinding) && hasStepsAll body &&
      ((recordAll otherwise).any (!·.isBinding) && hasStepsAll otherwise)
  | _ => true

/-- Whether every body in the calls has a step. -/
def hasStepsAll : List Call → Bool
  | [] => true
  | call :: rest => call.hasSteps && hasStepsAll rest

end

/-- A branch with two steps. -/
def stepInside : List Call :=
  [.when "ready" [.navigate "x", .navigate "y"]]

/-- A branch with one step, and the other step behind it. -/
def stepBehind : List Call :=
  [.when "ready" [.navigate "x"], .navigate "y"]

/-- The inner one of two branches has an `ELSE`. -/
def innerElse : List Call :=
  [.when "ready" [.whenElse "new" [.navigate "x"] [.navigate "y"]]]

/-- The outer one of two branches has an `ELSE`. -/
def outerElse : List Call :=
  [.whenElse "ready" [.when "new" [.navigate "x"]] [.navigate "y"]]

/-- **What a program hides.** The end of a branch and the `WHEN` of an `ELSE` are not in the program
of a trip, even if all its texts are clean and all its bodies have steps. -/
theorem program_hides_branches :
    [stepInside, stepBehind, innerElse, outerElse].all
        (fun calls => isCleanAll calls && hasStepsAll calls) = true ∧
      (Trip.empty.performAll stepInside).program = "WHEN ready THEN |> FROM x |> FROM y" ∧
      (Trip.empty.performAll stepBehind).program = "WHEN ready THEN |> FROM x |> FROM y" ∧
      outline stepInside ≠ outline stepBehind ∧
      (Trip.empty.performAll innerElse).program =
        "WHEN ready THEN |> WHEN new THEN |> FROM x ELSE |> FROM y" ∧
      (Trip.empty.performAll outerElse).program =
        "WHEN ready THEN |> WHEN new THEN |> FROM x ELSE |> FROM y" ∧
      outline innerElse ≠ outline outerElse := by
  refine ⟨by decide +kernel, by decide +kernel, by decide +kernel, nofun, by decide +kernel,
    by decide +kernel, nofun⟩

end Call

end WebTrip
