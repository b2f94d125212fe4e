import Mathlib.Logic.Function.Basic
import WebTrip.Trip.Replay
import WebTrip.Trip.Session

/-!
# Queries of sessions

The trips of a session share one executor. Which texts it is sent, and in which order, is settled by
the actions alone: an action that runs something sends one text, all others send nothing, and no
answer changes what is sent later. What an action does is said here without the executor and without
the representation of a session: it has a *turn*, and it leaves a trip behind.

## Main definitions

- `Action.Turn`, `Action.turn`: what an action asks the executor, and its reply
- `Action.leaves`, `Trips.after`: the trips behind an action
- `Trips.queries`, `Trips.replies`: the texts that actions send, and their replies to the answers

## Main statements

- `Session.exists_act`, `Session.exists_actAll`: actions in any monad ask for their queries in order
- `Session.actions_send_queries`: what a session sends, and what it does with the answers
-/

namespace WebTrip

open WebTrip.Json

/-! ## §1 Trips by name -/

/-- A trip for every name. -/
abbrev Trips := String → Trip

theorem lookup_filter_ne {other name : String} (h : other ≠ name)
    (entries : List (String × Trip)) :
    (entries.filter fun entry => entry.1 != name).lookup other = entries.lookup other := by
  induction entries with
  | nil => rfl
  | cons entry rest ih =>
    obtain ⟨key, t⟩ := entry
    by_cases hkey : key = name
    · -- the entry that goes is not the one that is looked up
      have hother : (other == key) = false := beq_eq_false_iff_ne.mpr (hkey ▸ h)
      rw [List.filter_cons_of_neg (by simp [hkey]), ih, List.lookup_cons, hother]
    · rw [List.filter_cons_of_pos (by simp [hkey]), List.lookup_cons, List.lookup_cons, ih]

/-- Replacing a trip changes no other one. -/
theorem Session.trip_set (s : Session) (name : String) (t : Trip) :
    (s.set name t).trip = Function.update s.trip name t := by
  funext other
  by_cases hother : other = name
  · subst hother
    simp [trip, set]
  · have hkey : (other == name) = false := beq_eq_false_iff_ne.mpr hother
    rw [Function.update_of_ne hother, trip, set, List.lookup_cons, hkey,
      lookup_filter_ne hother, trip]

/-! ## §2 Turns -/

/-- What an action does with the executor. -/
inductive Action.Turn where
  /-- It asks the executor once, and makes its reply of the answer. -/
  | asks (query : String) (reply : Answer → Reply)
  /-- It replies at once. -/
  | replies (reply : Reply)

/-- What is sent in a turn, if anything. -/
def Action.Turn.query? : Action.Turn → Option String
  | .asks query _ => some query
  | .replies _ => none

/-- Takes the turn with an executor. -/
def Action.Turn.perform {m : Type → Type} [Monad m] (executor : Executor m) :
    Action.Turn → m Reply
  | .asks query reply => reply <$> executor.execute query
  | .replies reply => pure reply

namespace Action

/-- **The turn of an action** on the trip with a name. Runs send the program that the trip has at
the moment, and look at the schema only if there are rows. -/
def turn (trips : Trips) (name : String) : Action → Turn
  | .build call => .replies (.changed ((trips name).perform call))
  | .restart => .replies (.changed Trip.empty)
  | .seed text =>
    match Instruction.parseLog text with
    | .ok log => .replies (.changed ⟨log⟩)
    | .error cause => .replies (.unreadable cause)
  | .copy other => .replies (.changed (trips other))
  | .showLog => .replies (.log (trips name).log)
  | .describe => .replies (.description (trips name).description)
  | .showProgram => .replies (.description (trips name).program)
  | .run schema =>
    .asks (trips name).program fun answer => .ofResult (answer >>= validateRows schema)
  | .execute query => .asks query fun answer => .ofResult (answer.map rowsValue)
  | .extrapolate type schema =>
    .asks (trips name).program fun answer =>
      .ofResult (readTyped type (answer >>= validateRows schema))

/-- The trip that an action leaves behind in place of the trip with a name. -/
def leaves (trips : Trips) (name : String) : Action → Trip
  | .build call => (trips name).perform call
  | .restart => Trip.empty
  | .seed text =>
    match Instruction.parseLog text with
    | .ok log => ⟨log⟩
    | .error _ => trips name
  | .copy other => trips other
  | .showLog | .describe | .showProgram | .run _ | .execute _ | .extrapolate _ _ => trips name

end Action

namespace Trips

/-- The trips behind an action on the trip with a name. -/
def after (trips : Trips) (step : String × Action) : Trips :=
  Function.update trips step.1 (step.2.leaves trips step.1)

/-- The trips behind actions. -/
def afterAll (trips : Trips) (steps : List (String × Action)) : Trips :=
  steps.foldl after trips

/-- **The queries** of actions: what each of them sends for the trips of its moment. -/
def queries (trips : Trips) : List (String × Action) → List String
  | [] => []
  | (name, action) :: rest =>
    (action.turn trips name).query?.toList ++ queries (trips.after (name, action)) rest

/-- The replies of actions, if their queries are answered in order. -/
def replies (trips : Trips) : List (String × Action) → List Answer → List Reply
  | [], _ => []
  | (name, action) :: rest, answers =>
    match action.turn trips name, answers with
    | .replies reply, answers => reply :: replies (trips.after (name, action)) rest answers
    | .asks _ reply, answer :: answers =>
      reply answer :: replies (trips.after (name, action)) rest answers
    | .asks _ _, [] => []

end Trips

/-! ## §3 Actions take their turns -/

/-- An action that leaves its trip as it was leaves all trips as they were. -/
theorem Trips.after_of_leaves {trips : Trips} {name : String} {action : Action}
    (h : action.leaves trips name = trips name) : trips.after (name, action) = trips := by
  rw [after, h, Function.update_eq_self]

/-- An action that asks the executor leaves its trip as it is, and replies with an error of the
executor as it is, whatever it would do with rows. -/
theorem Action.of_asks {trips : Trips} {name query : String} {action : Action}
    {reply : Answer → Reply} (h : action.turn trips name = .asks query reply) :
    action.leaves trips name = trips name ∧ ∀ e : Error, reply (.error e) = .failed e := by
  cases action with
  | run | execute | extrapolate =>
    obtain ⟨-, rfl⟩ := Action.Turn.asks.inj h
    exact ⟨rfl, fun e => rfl⟩
  | seed text =>
    -- readable or not, a text is replied to at once
    rw [Action.turn] at h
    split at h <;> cases h
  | _ => cases h

theorem Trip.run_eq_map {m : Type → Type} [Monad m] [LawfulMonad m] (executor : Executor m)
    (schema : Schema) (t : Trip) : t.run executor schema =
      (fun answer => answer >>= validateRows schema) <$> executor.execute t.program := by
  rw [run, map_eq_pure_bind]
  refine congrArg _ (funext fun answer => ?_)
  cases answer <;> rfl

namespace Session

/-- **An action takes its turn**, and leaves all trips but its own as they are. -/
theorem exists_act (s : Session) (name : String) (action : Action) :
    ∃ s' : Session, s'.trip = Trips.after s.trip (name, action) ∧
      ∀ {m : Type → Type} [Monad m] [LawfulMonad m] (executor : Executor m),
        s.act executor name action =
          (fun reply => (reply, s')) <$> (action.turn s.trip name).perform executor := by
  cases action with
  | build | restart | copy =>
    refine ⟨_, s.trip_set name _, fun executor => ?_⟩
    simp [act, change, Action.turn, Action.Turn.perform, Action.leaves]
  | seed text =>
    cases hlog : Instruction.parseLog text with
    | ok log =>
      refine ⟨s.set name ⟨log⟩, ?_, fun executor => ?_⟩
      · simp [trip_set, Trips.after, Action.leaves, hlog]
      · simp [act, Action.turn, Action.Turn.perform, change, hlog]
    | error cause =>
      refine ⟨s, (Trips.after_of_leaves ?_).symm, fun executor => ?_⟩
      · simp [Action.leaves, hlog]
      · simp [act, Action.turn, Action.Turn.perform, hlog]
  | showLog | describe | showProgram =>
    refine ⟨s, (Trips.after_of_leaves rfl).symm, fun executor => ?_⟩
    simp [act, Action.turn, Action.Turn.perform]
  | run schema =>
    refine ⟨s, (Trips.after_of_leaves rfl).symm, fun executor => ?_⟩
    simp [act, Action.turn, Action.Turn.perform, Trip.run_eq_map]
  | execute query =>
    refine ⟨s, (Trips.after_of_leaves rfl).symm, fun executor => ?_⟩
    simp [act, Action.turn, Action.Turn.perform]
  | extrapolate type schema =>
    refine ⟨s, (Trips.after_of_leaves rfl).symm, fun executor => ?_⟩
    simp [act, Action.turn, Action.Turn.perform, Trip.extrapolate, Trip.run_eq_map]

/-- **Actions in any monad** ask for their queries in order, and for nothing else. -/
theorem exists_actAll (s : Session) (steps : List (String × Action)) :
    ∃ s' : Session, s'.trip = Trips.afterAll s.trip steps ∧
      ∀ {m : Type → Type} [Monad m] [LawfulMonad m] (executor : Executor m),
        s.actAll executor steps =
          (fun answers => (Trips.replies s.trip steps answers, s')) <$>
            (Trips.queries s.trip steps).mapM executor.execute := by
  induction steps generalizing s with
  | nil => exact ⟨s, rfl, fun executor => by simp [actAll, Trips.queries, Trips.replies]⟩
  | cons step rest ih =>
    obtain ⟨name, action⟩ := step
    obtain ⟨s₁, htrips, hact⟩ := s.exists_act name action
    obtain ⟨s₂, htrips', hrest⟩ := ih s₁
    refine ⟨s₂, by rw [htrips', htrips]; rfl, fun executor => ?_⟩
    rw [htrips] at hrest
    rw [actAll, hact, Trips.queries]
    cases hturn : action.turn s.trip name with
    | asks query reply =>
      simp [Action.Turn.perform, Action.Turn.query?, hrest, Trips.replies, hturn]
    | replies reply =>
      simp [Action.Turn.perform, Action.Turn.query?, hrest, Trips.replies, hturn]

end Session

/-! ## §4 What an executor receives -/

/-- An executor that keeps a record has the queries in it, each once and in their order. -/
theorem sent_mapM_replay (queries : List String) (script : Replay) :
    ((queries.mapM replay.execute).run script).2.sent = queries.reverse ++ script.sent := by
  induction queries generalizing script with
  | nil => rfl
  | cons query rest ih =>
    have hsent : (script.answer query).2.sent = query :: script.sent := by
      unfold Replay.answer
      split <;> rfl
    have hrun : (((query :: rest).mapM replay.execute).run script).2 =
        ((rest.mapM replay.execute).run (script.answer query).2).2 := by
      rw [List.mapM_cons]
      rfl
    rw [hrun, ih, hsent, List.reverse_cons, List.append_assoc, List.singleton_append]

namespace Session

/-- **What a session sends.** However an executor answers, performing actions is asking it for the
queries of the actions, in order and each once: one for each run and each text that is sent as it
is, none for a builder call or a look at a trip. The queries do not depend on the answers, so that
nothing is sent again and nothing more is sent, whatever fails. No action changes another trip, and
none that asks the executor changes any. An error of the executor is the reply, without a look at
the schema, and a typed run fails as the run does. -/
theorem actions_send_queries (s : Session) (steps : List (String × Action)) :
    (∃ s' : Session, s'.trip = Trips.afterAll s.trip steps ∧
      ∀ {m : Type → Type} [Monad m] [LawfulMonad m] (executor : Executor m),
        s.actAll executor steps =
          (fun answers => (Trips.replies s.trip steps answers, s')) <$>
            (Trips.queries s.trip steps).mapM executor.execute) ∧
    (∀ script : Replay, ((s.actAll replay steps).run script).2.sent =
      (Trips.queries s.trip steps).reverse ++ script.sent) ∧
    (∀ (trips : Trips) (name : String) (action : Action),
      (∀ other ≠ name, trips.after (name, action) other = trips other) ∧
      ∀ query reply, action.turn trips name = .asks query reply →
        trips.after (name, action) = trips ∧ ∀ e : Error, reply (.error e) = .failed e) ∧
    (∀ (trips : Trips) (name : String) (type : RowType) (schema : Schema),
      ∃ reply typedReply,
        (Action.run schema).turn trips name = .asks (trips name).program reply ∧
        (Action.extrapolate type schema).turn trips name = .asks (trips name).program typedReply ∧
        ∀ answer e, reply answer = .failed e → typedReply answer = .failed e) := by
  refine ⟨s.exists_actAll steps, fun script => ?_, fun trips name action => ⟨?_, ?_⟩,
    fun trips name type schema => ⟨_, _, rfl, rfl, fun answer e hfailed => ?_⟩⟩
  · obtain ⟨s', -, hact⟩ := s.exists_actAll steps
    rw [hact, ← sent_mapM_replay]
    rfl
  · intro other hother
    exact Function.update_of_ne hother _ _
  · intro query reply hturn
    obtain ⟨hleaves, hreply⟩ := Action.of_asks hturn
    exact ⟨Trips.after_of_leaves hleaves, hreply⟩
  · -- only a run that failed has a failure for its reply
    cases hrun : answer >>= validateRows schema with
    | ok v =>
      rw [hrun] at hfailed
      cases hfailed
    | error cause =>
      rw [hrun] at hfailed
      rw [← hfailed]
      rfl

/-- Two trips: the second one starts as a copy of the first one, and each goes on by itself. The
first run fails, the second one finds rows without the field it wants. -/
def twoTrips : List (String × Action) :=
  [("first", .build (.navigate "x")), ("first", .run (.array .any)),
    ("second", .copy "first"), ("second", .build (.click "a")), ("first", .showProgram),
    ("second", .extrapolate .anything (.array (.object [("post", .any)]))),
    ("first", .execute "FROM y"), ("first", .run (.array .any))]

/-- An executor that fails first, and then answers with one empty row. -/
def failingFirst : Replay :=
  { answers := [.error (.execution "down"), .ok [[]]] }

theorem actions_send_queries_twoTrips :
    ((Session.actAll replay {} twoTrips).run failingFirst).2.sent.reverse =
        ["FROM x", "FROM x |> CLICK ON a", "FROM y", "FROM x"] ∧
      ((Session.actAll replay {} twoTrips).run failingFirst).1.1 =
        [.changed ⟨[.plain .navigate ["x"]]⟩, .failed (.execution "down"),
          .changed ⟨[.plain .navigate ["x"]]⟩,
          .changed ⟨[.plain .navigate ["x"], .plain .click ["a"]]⟩, .description "FROM x",
          .failed (.validation ⟨"$[0].post", "any value", "missing"⟩),
          .value (.array [.object []]), .value (.array [.object []])] := by
  obtain ⟨⟨s', -, hact⟩, hsent, -, -⟩ := actions_send_queries {} twoTrips
  constructor
  · rw [hsent]
    decide +kernel
  · rw [hact replay]
    rfl

end Session

end WebTrip
