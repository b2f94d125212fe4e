import Mathlib.Data.List.Induction
import WebTrip.Proofs.Connection.Pools

/-!
# The life cycle of a connection

What calls that follow one another on a connection do on the wire, whatever succeeds or fails there.
A call can go five ways; all that is said about calls is read off these ways and the pools that are
open before the call.

## Main definitions

- `Course`: the ways a call can go, each with its events, its result and the pool held afterwards
- `CallLaws`: what is true of a call, whichever way it goes

## Main statements

- `Connection.execute_course`: every call goes one of these ways
- `Connection.calls_onlyOpen`: between calls the pool that is held is the only open one
- `Connection.calls_lawful`: `CallLaws` for each call of a sequence
-/

namespace WebTrip

/-! ## §1 The ways a call can go -/

/-- **The ways a call can go**: from the pool that is held before it, what happens on the wire, the
result, and the pool that is held afterwards. A pool that is opened is `new`. -/
inductive Course (c : Connection) (program : String) (new : Nat) :
    Option Nat → List WireEvent → Except Error (List Row) → Option Nat → Prop where
  /-- No pool is held, and none can be opened. -/
  | refused (fault : WireFault) :
      Course c program new none [.refused fault] (.error (c.unreachable fault)) none
  /-- No pool is held, and one is opened. -/
  | opened (answer : Except WireFault (List (List Cell))) :
      Course c program new none [.opened new, .queried new program answer] (c.readAnswer answer)
        (some new)
  /-- The pool that is held still answers. -/
  | reused (pool : Nat) (answer : Except WireFault (List (List Cell))) :
      Course c program new (some pool)
        [.ran pool probeProgram (.ok ()), .queried pool program answer] (c.readAnswer answer)
        (some pool)
  /-- The pool that is held does not answer, and no other can be opened. -/
  | lost (pool : Nat) (silence fault : WireFault) :
      Course c program new (some pool)
        [.ran pool probeProgram (.error silence), .closed pool, .refused fault]
        (.error (c.unreachable fault)) none
  /-- The pool that is held does not answer, and another is opened. -/
  | replaced (pool : Nat) (silence : WireFault) (answer : Except WireFault (List (List Cell))) :
      Course c program new (some pool)
        [.ran pool probeProgram (.error silence), .closed pool, .opened new,
          .queried new program answer]
        (c.readAnswer answer) (some new)

namespace Network

variable (net : Network) {history : List WireEvent}

theorem connect_run_ok {user database : String} (h : net.connect history user database = .ok ()) :
    (net.wire.connect user database).run history =
      (.ok (newPool history), history ++ [.opened (newPool history)]) := by
  simp [wire, opening, h, Except.map, StateT.run]

theorem connect_run_error {user database : String} {fault : WireFault}
    (h : net.connect history user database = .error fault) :
    (net.wire.connect user database).run history = (.error fault, history ++ [.refused fault]) := by
  simp [wire, opening, h, Except.map, StateT.run]

theorem run_run {pool : Nat} {program : String} {answer : Except WireFault Unit}
    (h : net.run history pool program = answer) :
    (net.wire.run pool program).run history = (answer, history ++ [.ran pool program answer]) := by
  rw [← h]
  rfl

end Network

namespace Connection

variable (c : Connection) (net : Network)

theorem openPool_run_ok {history : List WireEvent}
    (h : net.connect history c.credentials.user c.database = .ok ()) :
    (c.openPool net.wire).run history =
      ((.ok (newPool history), some (newPool history)),
        history ++ [.opened (newPool history)]) := by
  rw [openPool, StateT.run_bind, net.connect_run_ok h]
  rfl

theorem openPool_run_error {history : List WireEvent} {fault : WireFault}
    (h : net.connect history c.credentials.user c.database = .error fault) :
    (c.openPool net.wire).run history =
      ((.error (c.unreachable fault), none), history ++ [.refused fault]) := by
  rw [openPool, StateT.run_bind, net.connect_run_error h]
  rfl

theorem acquire_run_none (history : List WireEvent) :
    (c.acquire net.wire none).run history = (c.openPool net.wire).run history :=
  rfl

theorem acquire_run_ok {history : List WireEvent} {pool : Nat}
    (h : net.run history pool probeProgram = .ok ()) :
    (c.acquire net.wire (some pool)).run history =
      ((.ok pool, some pool), history ++ [.ran pool probeProgram (.ok ())]) := by
  rw [acquire, StateT.run_bind, net.run_run h]
  rfl

theorem acquire_run_error {history : List WireEvent} {pool : Nat} {silence : WireFault}
    (h : net.run history pool probeProgram = .error silence) :
    (c.acquire net.wire (some pool)).run history =
      (c.openPool net.wire).run
        (history ++ [.ran pool probeProgram (.error silence), .closed pool]) := by
  conv_rhs => rw [List.append_cons]
  rw [acquire, StateT.run_bind, net.run_run h]
  rfl

theorem execute_run_ok (program : String) {held held' : Option Nat}
    {history history' : List WireEvent} {pool : Nat}
    (h : (c.acquire net.wire held).run history = ((.ok pool, held'), history')) :
    (c.execute net.wire program held).run history =
      ((c.readAnswer (net.query history' pool program), held'),
        history' ++ [.queried pool program (net.query history' pool program)]) := by
  rw [execute, StateT.run_bind, h]
  rfl

theorem execute_run_error (program : String) {held held' : Option Nat}
    {history history' : List WireEvent} {e : Error}
    (h : (c.acquire net.wire held).run history = ((.error e, held'), history')) :
    (c.execute net.wire program held).run history = ((.error e, held'), history') := by
  rw [execute, StateT.run_bind, h]
  rfl

/-- Behind a probe that fails, a call is as one without a pool. -/
theorem execute_run_lost (program : String) {history : List WireEvent} {pool : Nat}
    {silence : WireFault} (h : net.run history pool probeProgram = .error silence) :
    (c.execute net.wire program (some pool)).run history =
      (c.execute net.wire program none).run
        (history ++ [.ran pool probeProgram (.error silence), .closed pool]) := by
  rw [execute, StateT.run_bind, c.acquire_run_error net h]
  rfl

theorem execute_course_none (program : String) (history : List WireEvent) :
    ∃ events result held',
      (c.execute net.wire program none).run history = ((result, held'), history ++ events) ∧
        Course c program (newPool history) none events result held' := by
  have hacquire := c.acquire_run_none net history
  rcases hconnect : net.connect history c.credentials.user c.database with fault | ⟨⟩
  · have hrun := c.execute_run_error net program
      (hacquire.trans (c.openPool_run_error net hconnect))
    exact ⟨_, _, _, hrun, .refused fault⟩
  · have hrun := c.execute_run_ok net program (hacquire.trans (c.openPool_run_ok net hconnect))
    rw [List.append_assoc] at hrun
    exact ⟨_, _, _, hrun, .opened _⟩

/-- **Every call goes one of these ways.** -/
theorem execute_course (program : String) (held : Option Nat) (history : List WireEvent) :
    ∃ events result held',
      (c.execute net.wire program held).run history = ((result, held'), history ++ events) ∧
        Course c program (newPool history) held events result held' := by
  cases held with
  | none => exact c.execute_course_none net program history
  | some pool =>
    rcases hprobe : net.run history pool probeProgram with silence | ⟨⟩
    · -- the pool is given up, and what follows is the call without one
      obtain ⟨events, result, held', hrun, hcourse⟩ := c.execute_course_none net program
        (history ++ [.ran pool probeProgram (.error silence), .closed pool])
      have hnew : newPool (history ++ [.ran pool probeProgram (.error silence), .closed pool]) =
          newPool history :=
        newPool_append history _
      rw [← c.execute_run_lost net program hprobe, List.append_assoc] at hrun
      rw [hnew] at hcourse
      cases hcourse with
      | refused fault => exact ⟨_, _, _, hrun, .lost pool silence fault⟩
      | opened answer => exact ⟨_, _, _, hrun, .replaced pool silence answer⟩
    · have hrun := c.execute_run_ok net program (c.acquire_run_ok net hprobe)
      rw [List.append_assoc] at hrun
      exact ⟨_, _, _, hrun, .reused pool _⟩

end Connection

/-! ## §2 Laws of a call -/

/-- Whether something has been run and its rows dropped, as for a probe. -/
def WireEvent.isRun : WireEvent → Bool
  | .ran _ _ _ => true
  | _ => false

/-- Whether a pool has been asked for. -/
def WireEvent.isAttempt : WireEvent → Bool
  | .opened _ | .refused _ => true
  | _ => false

/-- Whether a program has been sent for its rows. -/
def WireEvent.isQuery : WireEvent → Bool
  | .queried _ _ _ => true
  | _ => false

/-- **What is true of a call**, whichever way it goes: `held` is held before it, behind `history`;
it adds `events` to the record and returns `result`, and `held'` is held afterwards. -/
structure CallLaws (c : Connection) (program : String) (held : Option Nat)
    (history events : List WireEvent) (result : Except Error (List Row)) (held' : Option Nat) :
    Prop where
  /-- There is at most one probe, -/
  probe_once : events.countP WireEvent.isRun ≤ 1
  /-- at most one attempt to connect, -/
  connect_once : events.countP WireEvent.isAttempt ≤ 1
  /-- and the program is sent at most once; -/
  query_once : events.countP WireEvent.isQuery ≤ 1
  /-- nothing else is sent. -/
  query_program : ∀ pool text answer, .queried pool text answer ∈ events → text = program
  /-- A pool is probed exactly if it was held. -/
  probe_iff : ∀ pool, (∃ answer, .ran pool probeProgram answer ∈ events) ↔ held = some pool
  probe_program : ∀ pool text answer, .ran pool text answer ∈ events → text = probeProgram
  /-- The program is sent on a pool that this call has probed or opened before, with success, and
  that has never been closed. -/
  query_fit : ∀ earlier pool text answer later,
    events = earlier ++ .queried pool text answer :: later →
    (.ran pool probeProgram (.ok ()) ∈ earlier ∨ .opened pool ∈ earlier) ∧
      .closed pool ∉ history ++ events
  /-- Behind a failed attempt to connect, the call ends with the error for that, nothing is sent and
  no pool is held; -/
  refused : ∀ fault, .refused fault ∈ events →
    result = .error (.connectivity c.host fault.message) ∧
      (∀ pool text answer, .queried pool text answer ∉ events) ∧ held' = none
  /-- without such a failure the program is sent. -/
  sent : (∀ fault, .refused fault ∉ events) → ∃ pool answer, .queried pool program answer ∈ events
  /-- Without a pool the first thing is the attempt to connect. -/
  connect_first : held = none → ∃ attempt rest, events = attempt :: rest ∧ attempt.isAttempt
  /-- A program that has been sent leaves its pool in place, whatever the answer. -/
  query_keeps : ∀ pool text answer, .queried pool text answer ∈ events →
    held' = some pool ∧ result = c.readAnswer answer
  /-- The pool that is held afterwards is open, -/
  held_open : ∀ pool, held' = some pool → IsOpenAfter (history ++ events) pool
  /-- and every other one that has ever been opened has been closed. -/
  others_closed : ∀ pool, .opened pool ∈ history ++ events → held' ≠ some pool →
    .closed pool ∈ history ++ events

namespace Course

variable {c : Connection} {program : String} {history events : List WireEvent}
  {held held' : Option Nat} {result : Except Error (List Row)} {new : Nat}

/-- A call keeps it so that the pool that is held is the only open one. -/
theorem onlyOpen (h : Course c program (newPool history) held events result held')
    (hopen : OnlyOpen history held) : OnlyOpen (history ++ events) held' := by
  cases h with
  | refused fault => exact hopen.quiet rfl
  | opened answer =>
    rw [List.append_cons]
    exact hopen.opened.quiet rfl
  | reused pool answer =>
    rw [List.append_cons]
    exact (hopen.quiet rfl).quiet rfl
  | lost pool silence fault =>
    rw [List.append_cons, List.append_cons]
    exact (hopen.quiet rfl).closed.quiet rfl
  | replaced pool silence answer =>
    -- neither the probe nor the closing has used up the number of the new pool
    have hnew : newPool (history ++ [.ran pool probeProgram (.error silence)] ++ [.closed pool]) =
        newPool history := by
      rw [List.append_assoc]
      exact newPool_append history _
    rw [List.append_cons, List.append_cons, List.append_cons, ← hnew]
    exact (hopen.quiet rfl).closed.opened.quiet rfl

/-- The events of a call up to its query: the pool has been probed or opened before. -/
theorem query_fit (h : Course c program new held events result held')
    {earlier later : List WireEvent} {pool : Nat} {text : String}
    {answer : Except WireFault (List (List Cell))}
    (hsplit : events = earlier ++ .queried pool text answer :: later) :
    held' = some pool ∧ (.ran pool probeProgram (.ok ()) ∈ earlier ∨ .opened pool ∈ earlier) := by
  -- the query is the last event, so that `earlier` is all that comes before it
  cases h with
  | refused | lost => simp [List.cons_eq_append_iff] at hsplit
  | opened answer' =>
    obtain ⟨rfl, ⟨rfl, -, -⟩, -⟩ : earlier = [.opened new] ∧
        (pool = new ∧ text = program ∧ answer = answer') ∧ later = [] := by
      simpa [List.cons_eq_append_iff] using hsplit
    simp
  | reused pool' answer' =>
    obtain ⟨rfl, ⟨rfl, -, -⟩, -⟩ : earlier = [.ran pool' probeProgram (.ok ())] ∧
        (pool = pool' ∧ text = program ∧ answer = answer') ∧ later = [] := by
      simpa [List.cons_eq_append_iff] using hsplit
    simp
  | replaced pool' silence answer' =>
    obtain ⟨rfl, ⟨rfl, -, -⟩, -⟩ :
        earlier = [.ran pool' probeProgram (.error silence), .closed pool', .opened new] ∧
          (pool = new ∧ text = program ∧ answer = answer') ∧ later = [] := by
      simpa [List.cons_eq_append_iff] using hsplit
    simp

/-- **Laws of a call** on a connection that holds the only open pool. -/
theorem laws (h : Course c program (newPool history) held events result held')
    (hopen : OnlyOpen history held) :
    CallLaws c program held history events result held' where
  probe_once := by cases h <;> simp [List.countP_cons, WireEvent.isRun]
  connect_once := by cases h <;> simp [List.countP_cons, WireEvent.isAttempt]
  query_once := by cases h <;> simp [List.countP_cons, WireEvent.isQuery]
  query_program pool text answer hquery := by cases h <;> simp_all
  probe_iff pool := by cases h <;> simp [eq_comm]
  probe_program pool text answer hprobe := by cases h <;> simp_all
  query_fit earlier pool text answer later hsplit := by
    obtain ⟨hheld, hfit⟩ := h.query_fit hsplit
    exact ⟨hfit, (((h.onlyOpen hopen).open_iff pool).mpr hheld).2⟩
  refused fault hrefused := by cases h <;> simp_all [Connection.unreachable]
  sent hrefused := by cases h <;> simp_all
  connect_first hnone := by cases h <;> simp_all [WireEvent.isAttempt]
  query_keeps pool text answer hquery := by cases h <;> simp_all
  held_open pool hheld := ((h.onlyOpen hopen).open_iff pool).mpr hheld
  others_closed pool hopened hne := (h.onlyOpen hopen).closed_of_ne hopened hne

end Course

/-! ## §3 Calls one after the other -/

namespace Connection

variable (c : Connection) (net : Network)

/-- One more call goes on from the pool and the record that the calls before it have left. -/
theorem calls_append_singleton (before : List String) (program : String) :
    c.calls net (before ++ [program]) =
      let ((results, held), history) := c.calls net before
      let ((result, held'), history') := (c.execute net.wire program held).run history
      ((results ++ [result], held'), history') := by
  rw [calls, List.mapM_append]
  rfl

/-- Between calls, the pool that is held is the only open one. -/
theorem calls_onlyOpen (programs : List String) :
    OnlyOpen (c.calls net programs).2 (c.calls net programs).1.2 := by
  induction programs using List.reverseRecOn with
  | nil => exact OnlyOpen.nil
  | append_singleton before program ih =>
    obtain ⟨events, result, held', hrun, hcourse⟩ :=
      c.execute_course net program (c.calls net before).1.2 (c.calls net before).2
    rw [calls_append_singleton]
    simp only [hrun]
    exact hcourse.onlyOpen ih

/-- **The life cycle of a connection.** Whatever succeeds or fails on the wire, each call of a
sequence keeps the laws: it goes on from the pool and the record that the calls before it have
left. -/
theorem calls_lawful (before : List String) (program : String) :
    ∃ results held history result held' events,
      c.calls net before = ((results, held), history) ∧
        c.calls net (before ++ [program]) = ((results ++ [result], held'), history ++ events) ∧
        CallLaws c program held history events result held' := by
  obtain ⟨⟨⟨results, held⟩, history⟩, hbefore⟩ : ∃ run, c.calls net before = run := ⟨_, rfl⟩
  have hopen : OnlyOpen history held := by
    have hcalls := c.calls_onlyOpen net before
    rwa [hbefore] at hcalls
  obtain ⟨events, result, held', hrun, hcourse⟩ := c.execute_course net program held history
  refine ⟨results, held, history, result, held', events, hbefore, ?_, hcourse.laws hopen⟩
  rw [calls_append_singleton, hbefore]
  simp only [hrun]

end Connection

end WebTrip
