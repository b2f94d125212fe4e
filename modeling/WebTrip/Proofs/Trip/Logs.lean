import WebTrip.Trip.Call

/-!
# Logs of trips

A builder call adds to the end of the log of the trip it is made on. What it adds is the same for
every log, because a body never gets to see the trip that its function or branch belongs to: it is
recorded on a trip of its own. So calls can be described by what they append, apart from any trip.

## Main definitions

- `Trip.Appends`: something appends the same instructions to every log

## Main statements

- `Trip.appends_perform`, `Trip.appends_performAll`: calls append what they record
- `Trip.performAll_log_eq_append`: calls append what they leave on an empty trip
-/

namespace WebTrip

namespace Trip

/-! ## §1 Appending -/

/-- What is done to trips appends instructions to the log, the same ones to every log. -/
def Appends (f : Trip → Trip) (log : List Instruction) : Prop :=
  ∀ t : Trip, (f t).log = t.log ++ log

theorem appends_nothing : Appends (fun t => t) [] :=
  fun t => (List.append_nil t.log).symm

theorem appends_push (i : Instruction) : Appends (fun t => t.push i) [i] :=
  fun _ => rfl

namespace Appends

variable {f g : Trip → Trip} {log log' : List Instruction}

theorem comp (hf : Appends f log) (hg : Appends g log') :
    Appends (fun t => g (f t)) (log ++ log') := by
  intro t
  rw [hg, hf, List.append_assoc]

/-- An empty trip shows what is appended. -/
theorem log_empty (hf : Appends f log) : (f empty).log = log := by
  rw [hf, empty, List.nil_append]

/-- The sub-program of a body is the program of what the body appends. -/
theorem subProgram_eq (hf : Appends f log) : subProgram f = compile .nested log := by
  rw [subProgram, hf.log_empty]

end Appends

theorem appends_clickTimes (selector : String) (times : Nat) :
    Appends (fun t => t.clickTimes selector times)
      (List.replicate times (.plain .click [selector])) := by
  induction times with
  | zero => exact appends_nothing
  | succ times ih => exact (appends_push (.plain .click [selector])).comp ih

/-! ## §2 Calls append what they record -/

mutual

/-- A call appends what it records. -/
theorem appends_perform : ∀ call : Call, Appends (fun t => t.perform call) call.record
  | .navigate _ | .enter _ _ | .dive _ | .imitate _ | .on _ | .group _ | .select _ | .distinct _
  | .window _ _ _ | .assign _ _ | .applyWith _ _ => appends_push _
  | .clickTimes selector times => appends_clickTimes selector times
  | .define name params body => by
    rw [Call.record, ← (appends_performAll body).subProgram_eq]
    exact appends_push _
  | .when condition body => by
    rw [Call.record, ← (appends_performAll body).subProgram_eq]
    exact appends_push _
  | .whenElse condition body otherwise => by
    rw [Call.record, ← (appends_performAll body).subProgram_eq,
      ← (appends_performAll otherwise).subProgram_eq]
    exact appends_push _

/-- Calls append what they record, one after the other. -/
theorem appends_performAll : ∀ calls : List Call,
    Appends (fun t => t.performAll calls) (Call.recordAll calls)
  | [] => appends_nothing
  | call :: rest => (appends_perform call).comp (appends_performAll rest)

end

theorem performAll_log (t : Trip) (calls : List Call) :
    (t.performAll calls).log = t.log ++ Call.recordAll calls :=
  appends_performAll calls t

/-- **Logs only grow at their end.** Calls append to any log what they leave on an empty trip. -/
theorem performAll_log_eq_append (t : Trip) (calls : List Call) :
    (t.performAll calls).log = t.log ++ (empty.performAll calls).log := by
  rw [performAll_log, (appends_performAll calls).log_empty]

end Trip

end WebTrip
