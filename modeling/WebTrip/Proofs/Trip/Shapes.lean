import Mathlib.Tactic.Choose
import Mathlib.Tactic.MkIffOfInductiveProp
import WebTrip.Proofs.Program.Steps

/-!
# Shapes of instructions

Each operation uses some slots of an instruction and leaves the others empty. A log that was read
from a text may have instructions of any shape, and the templates have placeholders for what such an
instruction lacks. Builder calls record nothing but instructions in the shape of their operation, at
any depth, so that the placeholders are never used for them.

Whether a placeholder is used is said by taking the placeholders for a parameter: a fragment that is
the same for all placeholders does not show any.

## Main definitions

- `Instruction.WellShaped`: the slots of an instruction are filled as its operation uses them
- `Instruction.fragmentOr`: the program text of an instruction for given placeholders
- `Call.Records`: what calls record, at any depth

## Main statements

- `Instruction.fragmentOr_eq_fragment_iff`: when placeholders do not matter
- `Call.exists_record`: a call records one instruction, in the shape of its operation
- `Trip.calls_append_wellShaped`: what calls do to the log of a trip
-/

namespace WebTrip

/-! ## §1 Shapes -/

/-- Whether an operation takes these plain arguments. -/
def Operation.takes : Operation → List String → Bool
  | .select, args | .branch, args => args.isEmpty
  | .window, mode :: _ :: radius =>
    [TimeMode.after, .before, .around].any (·.word == mode) && decide (radius.length ≤ 1)
  | .window, _ => false
  | .enter, args => args.length == 2
  | .run, args => !args.isEmpty
  | _, args => args.length == 1

namespace Instruction

/-- An instruction has the shape of its operation: it has plain arguments as the operation takes
them, columns only for a selection, and for a branch one condition, one sub-program for when it
holds and at most one for when it does not. -/
@[mk_iff]
structure WellShaped (i : Instruction) : Prop where
  args : i.operation.takes i.args = true
  extractions : i.operation ≠ .select → i.extractions = []
  conditions : i.conditions.length = if i.operation = .branch then 1 else 0
  thenFlow : i.thenFlow.length = if i.operation = .branch then 1 else 0
  elseFlow : i.elseFlow.length ≤ if i.operation = .branch then 1 else 0

instance (i : Instruction) : Decidable i.WellShaped :=
  decidable_of_iff' _ (wellShaped_iff i)

theorem wellShaped_plain {op : Operation} {args : List String} (hop : op ≠ .branch)
    (hargs : op.takes args = true) : (plain op args).WellShaped where
  args := hargs
  extractions _ := rfl
  conditions := (if_neg hop).symm
  thenFlow := (if_neg hop).symm
  elseFlow := Nat.zero_le _

theorem wellShaped_selection (extractions : List Extraction) :
    (selection extractions).WellShaped where
  args := rfl
  extractions hop := absurd rfl hop
  conditions := rfl
  thenFlow := rfl
  elseFlow := Nat.zero_le _

theorem wellShaped_branch (condition thenFlow : String) (elseFlow : Option String) :
    (branch condition thenFlow elseFlow).WellShaped where
  args := rfl
  extractions _ := rfl
  conditions := rfl
  thenFlow := rfl
  elseFlow := by
    cases elseFlow with
    | none => exact Nat.zero_le _
    | some _ => exact Nat.le_refl _

end Instruction

/-! ## §2 Placeholders -/

/-- What the templates show for an operation whose arguments are missing. -/
def Operation.placeholder : Operation → String
  | .according => "yev/hn"
  | .assign => ""
  | .click => "a"
  | .dive => "invalid"
  | .enter => "input \"text\""
  | .navigate => "https://lsd.so"
  | .group => "div"
  | .run => ""
  | .select => ""
  | .target => "TRAVERSER"
  | .branch => "1 = 1"
  | .window => ""
  | .distinct => "DISTINCT"

namespace Instruction

/-- The program text of an instruction for given placeholders. -/
def fragmentOr (placeholder : Operation → String) (i : Instruction) : String :=
  match i.operation with
  | .according => "ACCORDING TO " ++ i.argsOr (placeholder .according)
  | .assign => i.args.headD (placeholder .assign)
  | .click => "CLICK ON " ++ i.argsOr (placeholder .click)
  | .dive => "DIVE INTO " ++ i.argsOr (placeholder .dive)
  | .enter => "ENTER INTO " ++ i.argsOr (placeholder .enter)
  | .navigate => "FROM " ++ i.argsOr (placeholder .navigate)
  | .group => "GROUP BY " ++ i.argsOr (placeholder .group)
  | .run => " ".intercalate i.args
  | .select => "SELECT " ++ ", ".intercalate (i.args ++ i.extractions.map Extraction.fragment)
  | .target => "TARGET <| " ++ i.argsOr (placeholder .target) ++ " |"
  | .branch =>
    "WHEN " ++ (if i.conditions.isEmpty then placeholder .branch else " ".intercalate i.conditions)
      ++ arm "THEN" i.thenFlow ++ arm "ELSE" i.elseFlow
  | .window =>
    if i.args.isEmpty then placeholder .window else "WITH TIME " ++ " ".intercalate i.args
  | .distinct =>
    if i.args.isEmpty then placeholder .distinct else "DISTINCT " ++ " ".intercalate i.args

theorem fragmentOr_placeholder (i : Instruction) :
    i.fragmentOr Operation.placeholder = i.fragment := by
  unfold fragmentOr fragment
  cases i.operation <;> rfl

/-- Whether the slot is empty for which the template of an instruction has a placeholder. -/
def needsPlaceholder (i : Instruction) : Bool :=
  match i.operation with
  | .run | .select => false
  | .branch => i.conditions.isEmpty
  | _ => i.args.isEmpty

/-- **Placeholders do not matter** exactly for the instructions that do not need one. -/
theorem fragmentOr_eq_fragment_iff (i : Instruction) :
    (∀ placeholder, i.fragmentOr placeholder = i.fragment) ↔ i.needsPlaceholder = false := by
  unfold needsPlaceholder
  constructor
  · intro h
    -- a longer placeholder makes a longer fragment
    have hlength := congrArg String.length (h fun op => op.placeholder ++ "x")
    rw [← fragmentOr_placeholder] at hlength
    unfold fragmentOr at hlength
    by_contra hneeds
    cases hop : i.operation <;> simp_all [argsOr]
  · intro hneeds placeholder
    rw [← fragmentOr_placeholder]
    unfold fragmentOr
    cases hop : i.operation with
    | assign =>
      have hargs : i.args ≠ [] := by simpa [hop] using hneeds
      obtain ⟨first, rest, hargs⟩ := List.exists_cons_of_ne_nil hargs
      rw [hargs, List.headD_cons, List.headD_cons]
    | _ => simp_all [argsOr]

/-- Instructions in the shape of their operation need no placeholder. -/
theorem WellShaped.needsPlaceholder_eq {i : Instruction} (h : i.WellShaped) :
    i.needsPlaceholder = false := by
  have hargs := h.args
  have hconditions := h.conditions
  unfold needsPlaceholder
  cases hop : i.operation with
  | run | select => rfl
  | branch =>
    rw [hop, if_pos rfl] at hconditions
    exact List.isEmpty_eq_false_iff.mpr (List.ne_nil_of_length_eq_add_one hconditions)
  | _ =>
    -- no operation that is left takes an empty list of arguments
    rw [hop] at hargs
    cases hempty : i.args with
    | nil =>
      rw [hempty] at hargs
      cases hargs
    | cons => rfl

example : ¬ (plain .click []).WellShaped ∧
    (plain .click []).fragmentOr (fun _ => "?") = "CLICK ON ?" := by
  decide

end Instruction

/-! ## §3 What calls record -/

namespace Call

/-- How many times a call records its instruction. -/
def times : Call → Nat
  | .clickTimes _ times => times
  | _ => 1

/-- The bodies of a call. -/
def bodies : Call → List (List Call)
  | .define _ _ body | .when _ body => [body]
  | .whenElse _ body otherwise => [body, otherwise]
  | _ => []

/-- An instruction is recorded by calls, in their own log or, at any depth, in that of a body. -/
inductive Records : List Call → Instruction → Prop where
  /-- The calls leave the instruction on an empty trip. -/
  | here {calls : List Call} {i : Instruction} (mem : i ∈ (Trip.empty.performAll calls).log) :
      Records calls i
  /-- A body of one of the calls records the instruction. -/
  | inside {calls : List Call} {call : Call} {body : List Call} {i : Instruction}
      (mem : call ∈ calls) (mem_bodies : body ∈ call.bodies) (records : Records body i) :
      Records calls i

/-- The sub-programs of the bodies of a call: the programs of what they leave on an empty trip. -/
def subPrograms (call : Call) : List String :=
  call.bodies.map fun body => compile .nested (Trip.empty.performAll body).log

theorem subPrograms_eq (call : Call) :
    call.subPrograms = call.bodies.map fun body => compile .nested (recordAll body) :=
  List.map_congr_left fun body _ => by rw [(Trip.appends_performAll body).log_empty]

/-- **A call records one instruction**, that of its operation and in its shape. The flows of a
branch are the sub-programs of its bodies. -/
theorem exists_record (call : Call) : ∃ i : Instruction, i.operation = call.operation ∧
    i.WellShaped ∧ (i.operation = .branch → i.thenFlow ++ i.elseFlow = call.subPrograms) ∧
      call.record = List.replicate call.times i := by
  rw [subPrograms_eq]
  cases call with
  | select extractions =>
    exact ⟨_, rfl, Instruction.wellShaped_selection extractions, nofun, rfl⟩
  | when condition body =>
    exact ⟨_, rfl, Instruction.wellShaped_branch condition _ none, fun _ => rfl, rfl⟩
  | whenElse condition body otherwise =>
    exact ⟨_, rfl, Instruction.wellShaped_branch condition _ (some _), fun _ => rfl, rfl⟩
  | window mode timestamp radius =>
    have htakes : Operation.takes .window ([mode.word, timestamp] ++ radius.toList) = true := by
      cases mode <;> cases radius <;> rfl
    exact ⟨_, rfl, Instruction.wellShaped_plain nofun htakes, nofun, rfl⟩
  | _ => exact ⟨_, rfl, Instruction.wellShaped_plain nofun rfl, nofun, rfl⟩

theorem recordAll_eq_flatMap (calls : List Call) : recordAll calls = calls.flatMap record := by
  induction calls with
  | nil => rfl
  | cons call rest ih => rw [recordAll, ih, List.flatMap_cons]

theorem wellShaped_of_mem_recordAll {calls : List Call} {i : Instruction}
    (h : i ∈ recordAll calls) : i.WellShaped := by
  rw [recordAll_eq_flatMap, List.mem_flatMap] at h
  obtain ⟨call, -, hmem⟩ := h
  obtain ⟨i', -, hshape, -, hrecord⟩ := call.exists_record
  rw [hrecord] at hmem
  rwa [List.eq_of_mem_replicate hmem]

/-- **Instructions at every depth** have the shape of their operation. -/
theorem Records.wellShaped {calls : List Call} {i : Instruction} (h : Records calls i) :
    i.WellShaped := by
  induction h with
  | here hmem =>
    rw [(Trip.appends_performAll _).log_empty] at hmem
    exact wellShaped_of_mem_recordAll hmem
  | inside _ _ _ ih => exact ih

end Call

/-! ## §4 What trips grow by -/

namespace Trip

/-- **Logs of trips** are kept and grow at their end. Whatever is on a trip already, calls add to it
what they leave on an empty trip: for each call one instruction of its operation, the same one on
every trip, as often as the call says. The flows of a branch are the sub-programs of what its bodies
leave on an empty trip. At every depth, what is recorded has the shape of its operation, and
placeholders do not matter to it. -/
theorem calls_append_wellShaped (calls : List Call) :
    (∀ t : Trip, (t.performAll calls).log = t.log ++ (empty.performAll calls).log) ∧
    (∃ made : Call → Instruction,
      (∀ call, (made call).operation = call.operation ∧ ((made call).operation = .branch →
        (made call).thenFlow ++ (made call).elseFlow = call.subPrograms)) ∧
      (∀ (t : Trip) (call : Call),
        (t.perform call).log = t.log ++ List.replicate call.times (made call)) ∧
      (empty.performAll calls).log =
        calls.flatMap fun call => List.replicate call.times (made call)) ∧
    ∀ i, Call.Records calls i →
      i.WellShaped ∧ ∀ placeholder, i.fragmentOr placeholder = i.fragment := by
  refine ⟨fun t => t.performAll_log_eq_append calls, ?_, fun i h => ⟨h.wellShaped, ?_⟩⟩
  · choose made hoperation _ hflows hrecord using Call.exists_record
    refine ⟨made, fun call => ⟨hoperation call, hflows call⟩, fun t call => ?_, ?_⟩
    · rw [appends_perform, hrecord]
    · rw [(appends_performAll calls).log_empty, Call.recordAll_eq_flatMap, funext hrecord]
  · exact i.fragmentOr_eq_fragment_iff.mpr h.wellShaped.needsPlaceholder_eq

/-- A log whose only instruction lacks its argument. -/
def unfinished : Trip :=
  ⟨[.plain .click []]⟩

/-- A function whose body branches, and steps around it. -/
def nestedBodies : List Call :=
  [.define "open" ["link"]
      [.dive "link", .whenElse "fresh" [.clickTimes "a" 2] [.window .around "ANYTIME" none]],
    .clickTimes "b" 2, .clickTimes "c" 0, .select []]

theorem calls_append_wellShaped_nestedBodies :
    (unfinished.performAll nestedBodies).log =
        [.plain .click [],
          .plain .assign ["open <|> link <| \n|> DIVE INTO link |> WHEN fresh THEN " ++
            "|> CLICK ON a |> CLICK ON a ELSE |> WITH TIME AROUND ANYTIME |"],
          .plain .click ["b"], .plain .click ["b"], .selection []] ∧
      Call.Records nestedBodies (.plain .window ["AROUND", "ANYTIME"]) ∧
      (Instruction.plain .window ["AROUND", "ANYTIME"]).WellShaped ∧
      ∀ placeholder, (Instruction.plain .window ["AROUND", "ANYTIME"]).fragmentOr placeholder =
        "WITH TIME AROUND ANYTIME" := by
  obtain ⟨hlog, -, hshape⟩ := calls_append_wellShaped nestedBodies
  have hrecords : Call.Records nestedBodies (.plain .window ["AROUND", "ANYTIME"]) :=
    .inside List.mem_cons_self List.mem_cons_self
      (.inside (List.mem_cons_of_mem _ List.mem_cons_self)
        (List.mem_cons_of_mem _ List.mem_cons_self) (.here (by decide)))
  obtain ⟨hwindow, hfragment⟩ := hshape _ hrecords
  refine ⟨(hlog unfinished).trans ?_, hrecords, hwindow, fun placeholder => ?_⟩
  · decide +kernel
  · rw [hfragment]
    rfl

end Trip

end WebTrip
