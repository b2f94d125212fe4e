import Mathlib.Tactic.SplitIfs
import WebTrip.Schema.Validate

/-!
# Checks that keep track of their place

A check pushes a step onto the path before it looks at a part of the value, and pops it again once
the part is accepted. Nothing is popped after a mismatch, which is therefore left with its own place
on the path. However deep a check has been, by the time it accepts a value the path is what it was.
So the parts that came before a part make no difference to its place, and the outcome for a part
depends on that place alone.

## Main definitions

- `Walk.Tracks`: what a check leaves on the path
- `Schema.check`, `Schema.checkElements`, `Schema.checkFields`: the outcomes for a value, for
  elements and for fields, from the place at which they stand

## Main statements

- `Walk.Tracks.bind`, `Walk.Tracks.within`: one check after another, and a check of a part
- `Schema.walk_tracks`: every schema's check keeps track of its place
- `Schema.run_walk`: the path after a check
- `Schema.check_array`, `Schema.check_object`: each part is checked at its own place
-/

namespace WebTrip

open WebTrip.Json WebTrip.Text

/-! ## §1 Steps of a check -/

namespace Walk

variable {α β : Type} {x : Walk α} {f : α → Walk β}

theorem run_pure (a : α) (path : Place) : (pure a : Walk α).run path = (.ok a, path) :=
  rfl

theorem run_reject (s : Schema) (actual : String) (path : Place) :
    (reject s actual : Walk α).run path = (.error (s.mismatch path actual), path) :=
  rfl

theorem run_bind (x : Walk α) (f : α → Walk β) (path : Place) :
    (x >>= f).run path =
      match x.run path with
      | (.ok a, path') => (f a).run path'
      | (.error m, path') => (.error m, path') := by
  show StateT.run (ExceptT.run (x >>= f)) path = match StateT.run (ExceptT.run x) path with
    | (.ok a, path') => (f a).run path'
    | (.error m, path') => (.error m, path')
  rw [ExceptT.run_bind, StateT.run_bind]
  rcases StateT.run (ExceptT.run x) path with ⟨_ | _, _⟩ <;> rfl

/-- A part is checked with its step on the path, and the step is popped if the part is accepted. -/
theorem run_within (step : Step) (x : Walk α) (path : Place) :
    (within step x).run path =
      match x.run (path ++ [step]) with
      | (.ok a, path') => (.ok a, path'.dropLast)
      | (.error m, path') => (.error m, path') := by
  have hpush : (push step).run path = (.ok (), path ++ [step]) := rfl
  rw [within, run_bind, hpush]
  show (x >>= fun a => do pop; return a).run (path ++ [step]) = _
  rw [run_bind]
  rcases x.run (path ++ [step]) with ⟨_ | _, _⟩ <;> rfl

/-! ## §2 The path behind a check -/

/-- What a check leaves on the path. -/
structure Tracks (x : Walk α) : Prop where
  /-- A check that accepts leaves the path as it was. -/
  restores {path path' : Place} {a : α} : x.run path = (.ok a, path') → path' = path
  /-- A check that ends with a mismatch leaves the place of the mismatch. -/
  stops {path path' : Place} {m : Mismatch} : x.run path = (.error m, path') → path' = m.place

theorem Tracks.pure (a : α) : Tracks (pure a : Walk α) where
  restores h := by
    rw [run_pure] at h
    cases h
    rfl
  stops h := by
    rw [run_pure] at h
    cases h

/-- A rejection does not touch the path, and its place is the path. -/
theorem Tracks.reject (s : Schema) (actual : String) : Tracks (reject s actual : Walk α) where
  restores h := by
    rw [run_reject] at h
    cases h
  stops h := by
    rw [run_reject] at h
    cases h
    rfl

/-- The path behind a check is told from its outcome. -/
theorem Tracks.run_eq (hx : x.Tracks) (path : Place) :
    x.run path =
      match x.outcome path with
      | .ok a => (.ok a, path)
      | .error m => (.error m, m.place) := by
  rw [outcome]
  rcases hrun : x.run path with ⟨m | a, path'⟩
  · rw [hx.stops hrun]
  · rw [hx.restores hrun]

/-- The second check begins with the path with which the first one began. -/
theorem Tracks.bind (hx : x.Tracks) (hf : ∀ a, (f a).Tracks) : (x >>= f).Tracks where
  restores {path _ _} h := by
    rw [run_bind, hx.run_eq] at h
    cases hout : x.outcome path with
    | ok a =>
      rw [hout] at h
      exact (hf a).restores h
    | error m =>
      rw [hout] at h
      cases h
  stops {path _ _} h := by
    rw [run_bind, hx.run_eq] at h
    cases hout : x.outcome path with
    | ok a =>
      rw [hout] at h
      exact (hf a).stops h
    | error m =>
      rw [hout] at h
      cases h
      rfl

/-- The step that is popped is the one that was pushed, since the check of the part has left nothing
else behind. -/
theorem Tracks.within (hx : x.Tracks) (step : Step) : (within step x).Tracks where
  restores {path _ _} h := by
    rw [run_within, hx.run_eq] at h
    cases hout : x.outcome (path ++ [step]) with
    | ok a =>
      rw [hout] at h
      cases h
      exact List.dropLast_concat
    | error m =>
      rw [hout] at h
      cases h
  stops {path _ _} h := by
    rw [run_within, hx.run_eq] at h
    cases hout : x.outcome (path ++ [step]) with
    | ok a =>
      rw [hout] at h
      cases h
    | error m =>
      rw [hout] at h
      cases h
      rfl

/-! ## §3 Outcomes -/

theorem outcome_within (step : Step) (x : Walk α) (path : Place) :
    (within step x).outcome path = x.outcome (path ++ [step]) := by
  rw [outcome, outcome, run_within]
  rcases x.run (path ++ [step]) with ⟨_ | _, _⟩ <;> rfl

theorem Tracks.outcome_bind (hx : x.Tracks) (f : α → Walk β) (path : Place) :
    (x >>= f).outcome path = (x.outcome path).bind fun a => (f a).outcome path := by
  rw [outcome, run_bind, hx.run_eq]
  cases x.outcome path <;> rfl

/-- What is made of an accepted value does not touch the path. -/
theorem Tracks.outcome_map (hx : x.Tracks) (g : α → β) (path : Place) :
    (do return g (← x) : Walk β).outcome path = (x.outcome path).map g := by
  rw [hx.outcome_bind]
  cases x.outcome path <;> rfl

end Walk

namespace Schema

open Walk

/-! ## §4 Schemas -/

/-- Induction on schemas. An object's hypothesis is about each of its declared fields. -/
@[elab_as_elim, induction_eliminator]
theorem induct {motive : Schema → Prop} (any : motive .any)
    (string : ∀ pattern, motive (.string pattern))
    (number : ∀ numeric integer, motive (.number numeric integer)) (boolean : motive .boolean)
    (array : ∀ item, motive item → motive (.array item))
    (object : ∀ fields, (∀ field ∈ fields, motive field.2) → motive (.object fields))
    (optional : ∀ inner, motive inner → motive (.optional inner))
    (nullable : ∀ inner, motive inner → motive (.nullable inner)) (s : Schema) : motive s :=
  @Schema.rec motive (fun fields => ∀ field ∈ fields, motive field.2) (fun field => motive field.2)
    any string number boolean array object optional nullable
    (fun _ h => absurd h List.not_mem_nil)
    (fun _ _ hhead htail => List.forall_mem_cons.mpr ⟨hhead, htail⟩)
    (fun _ _ h => h) s

theorem walkElements_tracks {walk : Value → Walk Value} (h : ∀ v, (walk v).Tracks) (start : Nat)
    (elements : List Value) : (walkElements walk start elements).Tracks := by
  induction elements generalizing start with
  | nil => exact .pure []
  | cons v rest ih =>
    rw [walkElements]
    exact ((h v).within _).bind fun cast => (ih (start + 1)).bind fun casts => .pure _

theorem walkFields_tracks {found : Fields} {fields : List (String × Schema)}
    (h : ∀ field ∈ fields, ∀ v, (field.2.walk v).Tracks) (casts : Fields) :
    (walkFields found casts fields).Tracks := by
  induction fields generalizing casts with
  | nil => exact .pure casts
  | cons field rest ih =>
    obtain ⟨name, s⟩ := field
    obtain ⟨hs, hrest⟩ := List.forall_mem_cons.mp h
    rw [walkFields]
    refine Tracks.bind (Tracks.within ?_ _) fun casts => ih hrest casts
    cases field? name found with
    | some v => exact (hs v).bind fun cast => .pure _
    | none =>
      show Tracks (if s.acceptsMissing = true then _ else _)
      split_ifs
      · exact .pure casts
      · exact .reject s _

/-- **Paths.** Whatever a schema is checked against, an accepted value leaves the path as it was,
and a mismatch leaves its own place. -/
theorem walk_tracks (s : Schema) (v : Value) : (s.walk v).Tracks := by
  induction s generalizing v with
  | any => exact .pure v
  | string pattern =>
    cases v with
    | string text =>
      rw [walk]
      split_ifs
      · exact .pure _
      · exact .reject _ _
    | _ => exact .reject _ _
  | number numeric integer =>
    cases v with
    | number n =>
      cases n with
      | integer => exact .pure _
      | float x =>
        rw [walk]
        split_ifs
        · cases castFloat? x with
          | some n => exact .pure _
          | none => exact .reject _ _
        · exact .pure _
    | string text =>
      rw [walk]
      split_ifs
      · cases numberOfText? integer text with
        | some n => exact .pure _
        | none => exact .reject _ _
      · exact .reject _ _
    | _ => exact .reject _ _
  | boolean =>
    cases v with
    | bool b => exact .pure _
    | _ => exact .reject _ _
  | array item ih =>
    cases v with
    | array elements => exact (walkElements_tracks ih 0 elements).bind fun casts => .pure _
    | _ => exact .reject _ _
  | object fields ih =>
    cases v with
    | object found => exact (walkFields_tracks ih []).bind fun casts => .pure _
    | _ => exact .reject _ _
  | optional inner ih => exact ih v
  | nullable inner ih =>
    cases v with
    | null => exact .pure _
    | _ => exact ih _

/-! ## §5 Checks from a place -/

/-- The outcome for a value that stands at a place. -/
def check (place : Place) (s : Schema) (v : Value) : Except Mismatch Value :=
  (s.walk v).outcome place

theorem validate_eq_check (s : Schema) (v : Value) : s.validate v = check [] s v :=
  rfl

/-- The path after a check, whatever it was before. -/
theorem run_walk (s : Schema) (v : Value) (place : Place) :
    (s.walk v).run place =
      match check place s v with
      | .ok w => (.ok w, place)
      | .error m => (.error m, m.place) := by
  rw [(s.walk_tracks v).run_eq, check]
  cases (s.walk v).outcome place <;> rfl

/-- The outcome for the elements of an array from an index on. -/
def checkElements (check : Nat → Value → Except Mismatch Value) :
    Nat → List Value → Except Mismatch (List Value)
  | _, [] => .ok []
  | index, v :: rest => do
    let cast ← check index v
    let casts ← checkElements check (index + 1) rest
    return cast :: casts

/-- The outcome for the declared fields of an object that stands at a place. -/
def checkFields (place : Place) (found : Fields) (casts : Fields) :
    List (String × Schema) → Except Mismatch Fields
  | [] => .ok casts
  | (name, s) :: rest =>
    match field? name found with
    | some v => do
      let cast ← check (place ++ [.field name]) s v
      checkFields place found (insert name cast casts) rest
    | none =>
      if s.acceptsMissing then checkFields place found casts rest
      else .error (mismatch s (place ++ [.field name]) "missing")

theorem outcome_walkElements {walk : Value → Walk Value} (h : ∀ v, (walk v).Tracks)
    (place : Place) (start : Nat) (elements : List Value) :
    (walkElements walk start elements).outcome place =
      checkElements (fun index v => (walk v).outcome (place ++ [.index index])) start
        elements := by
  induction elements generalizing start with
  | nil => rfl
  | cons v rest ih =>
    rw [walkElements, ((h v).within _).outcome_bind, outcome_within, checkElements]
    refine congrArg _ (funext fun cast => ?_)
    rw [(walkElements_tracks h (start + 1) rest).outcome_bind, ih]
    rfl

theorem outcome_walkFields (place : Place) (found casts : Fields)
    (fields : List (String × Schema)) :
    (walkFields found casts fields).outcome place = checkFields place found casts fields := by
  induction fields generalizing casts with
  | nil => rfl
  | cons field rest ih =>
    obtain ⟨name, s⟩ := field
    rw [walkFields, checkFields]
    cases field? name found with
    | some v =>
      have hfield : Tracks (do return insert name (← s.walk v) casts) :=
        (s.walk_tracks v).bind fun cast => .pure _
      refine ((hfield.within _).outcome_bind _ place).trans ?_
      rw [outcome_within, (s.walk_tracks v).outcome_map (insert name · casts)]
      show ((check (place ++ [.field name]) s v).map _).bind _ =
        (check (place ++ [.field name]) s v).bind _
      cases check (place ++ [.field name]) s v with
      | error m => rfl
      | ok cast => exact ih _
    | none =>
      cases s.acceptsMissing with
      | true => exact (((Tracks.pure casts).within _).outcome_bind _ place).trans (ih casts)
      | false => exact ((Tracks.reject s _).within _).outcome_bind _ place

/-! ## §6 What a check is made of -/

section Parts

variable (place : Place)

theorem check_string (pattern : Option Pattern) (text : String) :
    check place (.string pattern) (.string text) =
      if pattern.all (·.isMatch text) then .ok (.string text)
      else .error (mismatch (.string pattern) place (quoted text)) := by
  rw [check, walk]
  split_ifs <;> rfl

/-- A float under a schema for integers is cast, or it is a mismatch. -/
theorem check_number_float (numeric integer : Bool) (x : Double) :
    check place (.number numeric integer) (.number (.float x)) =
      if integer then
        match castFloat? x with
        | some n => .ok (.number n)
        | none => .error (mismatch (.number numeric integer) place ("number " ++ x.written))
      else .ok (.number (.float x)) := by
  rw [check, walk]
  split_ifs
  · cases castFloat? x <;> rfl
  · rfl

/-- A string under a schema for numeric strings is the number that it spells, or a mismatch. -/
theorem check_number_string (numeric integer : Bool) (text : String) :
    check place (.number numeric integer) (.string text) =
      if numeric then
        match numberOfText? integer text with
        | some n => .ok (.number n)
        | none => .error (mismatch (.number numeric integer) place ("string " ++ quoted text))
      else .error (mismatch (.number numeric integer) place "string") := by
  rw [check, walk]
  split_ifs
  · cases numberOfText? integer text <;> rfl
  · rfl

/-- **Arrays.** Each element is checked at its own index. -/
theorem check_array (item : Schema) (elements : List Value) :
    check place (.array item) (.array elements) =
      (checkElements (fun index v => check (place ++ [.index index]) item v) 0 elements).map
        .array := by
  have helements := walkElements_tracks item.walk_tracks 0 elements
  refine (helements.outcome_map _ place).trans (congrArg _ ?_)
  exact outcome_walkElements item.walk_tracks place 0 elements

/-- **Objects.** Each field is checked at its own name. -/
theorem check_object (fields : List (String × Schema)) (found : Fields) :
    check place (.object fields) (.object found) =
      (checkFields place found [] fields).map .object := by
  have hfields : (walkFields found [] fields).Tracks :=
    walkFields_tracks (fun field _ => field.2.walk_tracks) []
  refine (hfields.outcome_map _ place).trans (congrArg _ ?_)
  exact outcome_walkFields place found [] fields

end Parts

end Schema

end WebTrip
