import WebTrip.Program
import WebTrip.Proofs.Text.Trimming

/-!
# The two placements of a program

The flow of a program that stands on its own has its pipes between the fragments. A program behind a
pipeline that is already open has one more, in front of the first fragment. The two are built by
different joins and trimmed as a whole afterwards, so that it takes a first fragment that is not
blank to say where that pipe stands: behind it nothing is trimmed off, and in front of it only what
is trimmed off the bindings in either placement.

## Main definitions

- `Program.preamble`: what stands in front of the flow
- `Program.startsUnblank`: a text whose first character is kept by trimming

## Main statements

- `Program.pipeline_nested`: the two joins differ by one pipe
- `compile_placements`: and so do the programs
-/

namespace WebTrip

open WebTrip.Text

namespace Program

/-! ## §1 The joins -/

/-- **Joins.** Fragments with a pipe before each of them are those with a pipe between neighbours,
behind one more pipe. -/
theorem pipeline_nested (first : String) (rest : List String) :
    pipeline .nested (first :: rest) = "|> " ++ pipeline .topLevel (first :: rest) := by
  induction rest generalizing first with
  | nil => simp [pipeline]
  | cons second rest ih =>
    -- the pipe that is due before the second fragment is the one that separates it from the first
    have hnested : pipeline .nested (first :: second :: rest) =
        "|> " ++ first ++ " " ++ pipeline .nested (second :: rest) := by
      simp only [pipeline, List.map_cons, String.intercalate_cons_cons]
    have htop : pipeline .topLevel (first :: second :: rest) =
        first ++ " |> " ++ pipeline .topLevel (second :: rest) := by
      simp only [pipeline, String.intercalate_cons_cons]
    have hpipe : " |> " = " " ++ "|> " := rfl
    rw [hnested, htop, ih, hpipe]
    simp only [String.append_assoc]

/-- The first character of a flow is that of its first fragment. -/
theorem exists_pipeline_topLevel (first : String) (rest : List String) :
    ∃ after, pipeline .topLevel (first :: rest) = first ++ after := by
  cases rest with
  | nil => exact ⟨"", by simp [pipeline]⟩
  | cons second rest =>
    refine ⟨" |> " ++ pipeline .topLevel (second :: rest), ?_⟩
    simp only [pipeline, String.intercalate_cons_cons, String.append_assoc]

/-! ## §2 The two parts of a program -/

/-- What stands in front of the flow: the bindings with the line break behind them, without the
blanks at the start. Without any bindings this is nothing. -/
def preamble (log : List Instruction) : String :=
  trimStart (bindings log ++ "\n")

/-- The first character is not a blank. -/
def startsUnblank (s : String) : Bool :=
  s.toList.head?.any (!isBlank ·)

variable {log steps : List Instruction} {first : Instruction}

/-- A flow with a first fragment that is not blank is not blank at its start either. -/
theorem exists_flow_eq (hflow : log.filter (!·.isBinding) = first :: steps)
    (hstart : startsUnblank first.fragment = true) :
    ∃ c rest, (flow .topLevel log).toList = c :: rest ∧ isBlank c = false := by
  obtain ⟨after, hafter⟩ := exists_pipeline_topLevel first.fragment (steps.map Instruction.fragment)
  have hchars : (flow .topLevel log).toList = first.fragment.toList ++ after.toList := by
    rw [flow, hflow, List.map_cons, hafter, String.toList_append]
  cases hfragment : first.fragment.toList with
  | nil => simp [startsUnblank, hfragment] at hstart
  | cons c rest =>
    have hc : isBlank c = false := by simpa [startsUnblank, hfragment] using hstart
    exact ⟨c, rest ++ after.toList, by rw [hchars, hfragment, List.cons_append], hc⟩

theorem flow_nested_eq (hflow : log.filter (!·.isBinding) = first :: steps) :
    flow .nested log = "|> " ++ flow .topLevel log := by
  rw [flow, flow, hflow, List.map_cons, pipeline_nested]

end Program

/-! ## §3 The placements -/

/-- **Placements.** A program whose first fragment of the flow does not begin with a blank consists
of the bindings with their line break, trimmed at the start, and the flow, trimmed at the end; in
the nested placement one pipe stands between these two, and nothing else is different. Without a
flow there is no difference at all. -/
theorem compile_placements (log : List Instruction) :
    (∀ first steps, log.filter (!·.isBinding) = first :: steps →
      Program.startsUnblank first.fragment = true →
        compile .topLevel log = Program.preamble log ++ trimEnd (Program.flow .topLevel log) ∧
        compile .nested log =
          Program.preamble log ++ "|> " ++ trimEnd (Program.flow .topLevel log)) ∧
    (log.filter (!·.isBinding) = [] → compile .nested log = compile .topLevel log) := by
  constructor
  · -- the first character of the flow is the one at which trimming stops in both placements
    intro first steps hflow hstart
    obtain ⟨c, rest, hchars, hc⟩ := Program.exists_flow_eq hflow hstart
    constructor
    · exact trim_append _ hchars hc
    · -- trimming at the start stops at the pipe at the latest, and at the end behind it
      have hpipe : ("|> " ++ Program.flow .topLevel log).toList =
          '|' :: '>' :: ' ' :: (c :: rest) := by
        rw [String.toList_append, hchars]
        rfl
      rw [compile, Program.flow_nested_eq hflow, trim_append _ hpipe rfl,
        trimEnd_append _ hchars hc, Program.preamble, String.append_assoc]
  · intro hnone
    rw [compile, compile, Program.flow, Program.flow, hnone]
    rfl

/-- Two bindings, the first of them blank, around two steps. -/
def blankBindings : List Instruction :=
  [.plain .assign [" "], .plain .navigate ["x"], .plain .assign ["k <| v |"],
    .plain .click ["a\u00a0"]]

theorem compile_placements_blankBindings :
    compile .topLevel blankBindings = "k <| v |\nFROM x |> CLICK ON a" ∧
      compile .nested blankBindings = "k <| v |\n|> FROM x |> CLICK ON a" := by
  have hflow : blankBindings.filter (!·.isBinding) =
      [.plain .navigate ["x"], .plain .click ["a\u00a0"]] := by decide
  have hstart : Program.startsUnblank (Instruction.plain .navigate ["x"]).fragment = true := by
    decide
  obtain ⟨htop, hnested⟩ := (compile_placements blankBindings).1 _ _ hflow hstart
  rw [htop, hnested]
  constructor <;> rfl

end WebTrip
