import WebTrip.Proofs.Program.Tokens

/-!
# Hoisting

Bindings stand in front of the flow of a program wherever they were recorded. A program therefore
depends on two sequences only: the bindings in their order, and the steps in theirs. How the two
were interleaved does not show, in the calls of a trip and in the body of any function or branch
below them: bodies are compiled to the same text, so that what a call records is the same too.

## Main definitions

- `Call.Rearranged`: the same bindings and the same steps, interleaved in any way at any depth
- `Call.Alike`: calls whose bodies are rearranged

## Main statements

- `compile_eq_of_sameBlocks`: the program of a log depends on its two blocks
- `Call.Alike.record_eq`: calls that are alike record the same instructions
- `Call.Rearranged.of_move`: a binding may be moved across steps
- `compile_ignores_interleaving`: programs of logs and of trips
-/

namespace WebTrip

/-! ## §1 Logs -/

/-- The logs have the same bindings in the same order, and the same steps in the same order. -/
def SameBlocks (log log' : List Instruction) : Prop :=
  log.filter (·.isBinding) = log'.filter (·.isBinding) ∧
    log.filter (!·.isBinding) = log'.filter (!·.isBinding)

theorem SameBlocks.append_left {log log' : List Instruction} (h : SameBlocks log log')
    (before : List Instruction) : SameBlocks (before ++ log) (before ++ log') := by
  simp only [SameBlocks, List.filter_append, h.1, h.2, and_self]

/-- The program of a log depends on its two blocks only. -/
theorem compile_eq_of_sameBlocks {log log' : List Instruction} (h : SameBlocks log log')
    (placement : Placement) : compile placement log = compile placement log' := by
  simp only [compile, Program.bindings, Program.flow, h.1, h.2]

namespace Call

/-! ## §2 Calls -/

/-- Whether a call is hoisted ahead of the flow. -/
def isBinding : Call → Bool
  | .on _ | .assign _ _ | .define _ _ _ => true
  | _ => false

mutual

/-- The calls are the same, but for the places of bindings among the steps of their bodies. -/
inductive Alike : Call → Call → Prop where
  | same (call : Call) : Alike call call
  | define (name : String) (params : List String) {body body' : List Call} :
      Rearranged body body' → Alike (.define name params body) (.define name params body')
  | when (condition : String) {body body' : List Call} :
      Rearranged body body' → Alike (.when condition body) (.when condition body')
  | whenElse (condition : String) {body body' otherwise otherwise' : List Call} :
      Rearranged body body' → Rearranged otherwise otherwise' →
      Alike (.whenElse condition body otherwise) (.whenElse condition body' otherwise')

/-- The calls of two lists are alike one by one. -/
inductive AlikeAll : List Call → List Call → Prop where
  | nil : AlikeAll [] []
  | cons {call call' : Call} {rest rest' : List Call} :
      Alike call call' → AlikeAll rest rest' → AlikeAll (call :: rest) (call' :: rest')

/-- The bindings are alike in their order, and the steps in theirs, however both are interleaved. -/
inductive Rearranged : List Call → List Call → Prop where
  | blocks {calls calls' : List Call} :
      AlikeAll (calls.filter isBinding) (calls'.filter isBinding) →
      AlikeAll (calls.filter (!·.isBinding)) (calls'.filter (!·.isBinding)) →
      Rearranged calls calls'

end

theorem AlikeAll.refl (calls : List Call) : AlikeAll calls calls := by
  induction calls with
  | nil => exact .nil
  | cons call rest ih => exact .cons (.same call) ih

/-- **Moves.** A binding may be moved across steps, in either direction. -/
theorem Rearranged.of_move {binding : Call} (hbinding : binding.isBinding = true)
    {steps : List Call} (hsteps : ∀ step ∈ steps, step.isBinding = false)
    (before after : List Call) :
    Rearranged (before ++ binding :: (steps ++ after)) (before ++ (steps ++ binding :: after)) := by
  have hnone : steps.filter isBinding = [] :=
    List.filter_eq_nil_iff.mpr fun step hmem => by simp [hsteps step hmem]
  have hbindings : (before ++ binding :: (steps ++ after)).filter isBinding =
      (before ++ (steps ++ binding :: after)).filter isBinding := by
    simp [hbinding, hnone]
  have hflow : (before ++ binding :: (steps ++ after)).filter (!·.isBinding) =
      (before ++ (steps ++ binding :: after)).filter (!·.isBinding) := by
    simp [hbinding]
  constructor
  · rw [hbindings]
    exact .refl _
  · rw [hflow]
    exact .refl _

/-! ## §3 What calls record -/

/-- A call records bindings only, or steps only. -/
theorem isBinding_of_mem_record {call : Call} {i : Instruction} (h : i ∈ call.record) :
    i.isBinding = call.isBinding := by
  cases call with
  | clickTimes selector times =>
    obtain rfl := List.eq_of_mem_replicate h
    rfl
  | _ =>
    obtain rfl := List.mem_singleton.mp h
    rfl

/-- The bindings of what calls record are those of the bindings among them, and so for steps. -/
theorem filter_recordAll (wanted : Bool → Bool) (calls : List Call) :
    (recordAll calls).filter (fun i => wanted i.isBinding) =
      recordAll (calls.filter fun call => wanted call.isBinding) := by
  induction calls with
  | nil => rfl
  | cons call rest ih =>
    -- what one call records is kept as a whole or left out as a whole
    rw [recordAll, List.filter_append, ih, List.filter_cons]
    split_ifs with hcall
    · have hall : call.record.filter (fun i => wanted i.isBinding) = call.record :=
        List.filter_eq_self.mpr fun i hi => by rw [isBinding_of_mem_record hi, hcall]
      rw [recordAll, hall]
    · have hnone : call.record.filter (fun i => wanted i.isBinding) = [] :=
        List.filter_eq_nil_iff.mpr fun i hi => by rwa [isBinding_of_mem_record hi]
      rw [hnone, List.nil_append]

mutual

/-- Calls that are alike record the same instructions: their bodies have the same programs. -/
theorem Alike.record_eq {call call' : Call} : Alike call call' → call.record = call'.record
  | .same _ => rfl
  | .define name params hbody => by
    rw [record, record, compile_eq_of_sameBlocks hbody.sameBlocks]
  | .when condition hbody => by
    rw [record, record, compile_eq_of_sameBlocks hbody.sameBlocks]
  | .whenElse condition hbody hotherwise => by
    rw [record, record, compile_eq_of_sameBlocks hbody.sameBlocks,
      compile_eq_of_sameBlocks hotherwise.sameBlocks]

theorem AlikeAll.recordAll_eq {calls calls' : List Call} :
    AlikeAll calls calls' → recordAll calls = recordAll calls'
  | .nil => rfl
  | .cons hfirst hrest => by rw [recordAll, recordAll, hfirst.record_eq, hrest.recordAll_eq]

/-- Calls that are rearranged record the same blocks. -/
theorem Rearranged.sameBlocks {calls calls' : List Call} :
    Rearranged calls calls' → SameBlocks (recordAll calls) (recordAll calls')
  | @Rearranged.blocks calls calls' hbindings hsteps => by
    constructor
    · exact (filter_recordAll id calls).trans
        (hbindings.recordAll_eq.trans (filter_recordAll id calls').symm)
    · exact (filter_recordAll not calls).trans
        (hsteps.recordAll_eq.trans (filter_recordAll not calls').symm)

end

end Call

/-! ## §4 Programs -/

/-- **Hoisting.** Logs with the same bindings and the same steps have the same program in either
placement, however the two are interleaved. So have trips, whatever is in their logs already, when
the same bindings and the same steps are recorded in another interleaving, at any depth. -/
theorem compile_ignores_interleaving :
    (∀ (placement : Placement) (log log' : List Instruction), SameBlocks log log' →
      compile placement log = compile placement log') ∧
    ∀ (t : Trip) (calls calls' : List Call), Call.Rearranged calls calls' →
      (t.performAll calls).program = (t.performAll calls').program := by
  refine ⟨fun placement log log' h => compile_eq_of_sameBlocks h placement, ?_⟩
  intro t calls calls' h
  rw [Trip.program, Trip.program, Trip.performAll_log, Trip.performAll_log]
  exact compile_eq_of_sameBlocks (h.sameBlocks.append_left t.log) .topLevel

/-- A trip with its bindings in front, also in the body of a function and in a branch there. -/
def gathered : List Call :=
  [.define "next" ["n"] [.assign "k" "v", .click "a", .when "ready" [.on .browser, .dive "b"]],
    .navigate "x", .group "li"]

/-- The same trip with every binding among or behind the steps. -/
def scattered : List Call :=
  [.navigate "x", .define "next" ["n"] [.click "a", .when "ready" [.dive "b", .on .browser],
    .assign "k" "v"], .group "li"]

theorem compile_ignores_interleaving_scattered :
    SameBlocks (Call.recordAll gathered) (Call.recordAll scattered) ∧
      compile .nested (Call.recordAll gathered) = compile .nested (Call.recordAll scattered) ∧
      Call.Rearranged gathered scattered ∧
      (Trip.empty.performAll gathered).program = (Trip.empty.performAll scattered).program := by
  have hdive : ∀ step ∈ [Call.dive "b"], step.isBinding = false := by simp [Call.isBinding]
  have hbranch : Call.Rearranged [.on .browser, .dive "b"] [.dive "b", .on .browser] :=
    .of_move rfl hdive [] []
  have hbody : Call.Rearranged
      [.assign "k" "v", .click "a", .when "ready" [.on .browser, .dive "b"]]
      [.click "a", .when "ready" [.dive "b", .on .browser], .assign "k" "v"] :=
    .blocks (.refl _) (.cons (.same _) (.cons (.when "ready" hbranch) .nil))
  have hcalls : Call.Rearranged gathered scattered :=
    .blocks (.cons (.define "next" ["n"] hbody) .nil) (.refl _)
  obtain ⟨hlogs, htrips⟩ := compile_ignores_interleaving
  exact ⟨hcalls.sameBlocks, hlogs .nested _ _ hcalls.sameBlocks, hcalls, htrips .empty _ _ hcalls⟩

end WebTrip
