import WebTrip.Error
import WebTrip.Proofs.Schema.Contexts

/-!
# Stacks of wrappers

A schema may have any number of wrappers around it, in any order. What the stack means is which
wrappers it has: `nullable` somewhere in it lets null pass, `optional` somewhere in it lets a field
be absent, and neither the order nor a repetition makes a difference. The first is found by the
check of the value and the second by the object around it, so that both walks through the stack have
to find the same wrappers. The words of a mismatch do count the wrappers.

## Main definitions

- `Schema.wrapped`: a schema in a stack of wrappers
- `Schema.SameFind`: mismatches at one place, where the same was found

## Main statements

- `Schema.validate_wrapped_of_ne`, `Schema.validate_wrapped_null`: what a stack means for a value
- `Schema.acceptsMissing_wrapped`: what a stack means for an absent field
- `Schema.same_wrappers_same_outcome`: stacks with the same wrappers, at any spot of a schema
-/

namespace WebTrip.Schema

open WebTrip.Json

/-! ## §1 Stacks -/

/-- What a schema can be wrapped in. -/
inductive Wrapper where
  | optional
  | nullable
  deriving DecidableEq

/-- A schema in one wrapper. -/
def Wrapper.around : Wrapper → Schema → Schema
  | optional, s => .optional s
  | nullable, s => .nullable s

/-- A schema in a stack of wrappers, the outermost one first. -/
def wrapped (stack : List Wrapper) (s : Schema) : Schema :=
  stack.foldr Wrapper.around s

@[simp] theorem wrapped_nil (s : Schema) : wrapped [] s = s := rfl

@[simp] theorem wrapped_optional (stack : List Wrapper) (s : Schema) :
    wrapped (.optional :: stack) s = .optional (wrapped stack s) := rfl

@[simp] theorem wrapped_nullable (stack : List Wrapper) (s : Schema) :
    wrapped (.nullable :: stack) s = .nullable (wrapped stack s) := rfl

/-- The wrapper that lets a field be absent passes on every value there is. -/
theorem validate_optional (inner : Schema) (v : Value) :
    (Schema.optional inner).validate v = inner.validate v := rfl

/-- A stack passes every value on but null. -/
theorem validate_wrapped_of_ne {v : Value} (hv : v ≠ .null) (stack : List Wrapper) (s : Schema) :
    (wrapped stack s).validate v = s.validate v := by
  induction stack with
  | nil => rfl
  | cons wrapper stack ih =>
    cases wrapper with
    | optional => rw [wrapped_optional, validate_optional, ih]
    | nullable => rw [wrapped_nullable, validate_nullable_of_ne hv, ih]

/-- Null passes if any wrapper of the stack lets it pass. -/
theorem validate_wrapped_null (stack : List Wrapper) (s : Schema) :
    (wrapped stack s).validate .null =
      if .nullable ∈ stack then .ok .null else s.validate .null := by
  induction stack with
  | nil => simp
  | cons wrapper stack ih =>
    cases wrapper with
    | optional => simp [validate_optional, ih]
    | nullable =>
      rw [if_pos (List.mem_cons_self ..)]
      rfl

/-- A field may be absent if any wrapper of the stack lets it be so. -/
theorem acceptsMissing_wrapped (stack : List Wrapper) (s : Schema) :
    (wrapped stack s).acceptsMissing = (decide (.optional ∈ stack) || s.acceptsMissing) := by
  induction stack with
  | nil => simp
  | cons wrapper stack ih =>
    cases wrapper with
    | optional => simp [acceptsMissing]
    | nullable => simp [acceptsMissing, ih]

/-! ## §2 Stacks with the same wrappers -/

/-- The mismatches are at one place, and the same was found there. -/
def SameFind (m m' : Mismatch) : Prop :=
  m.place = m'.place ∧ m.actual = m'.actual

theorem forgetful_sameFind : Forgetful SameFind where
  words hplace hactual := ⟨hplace, hactual⟩
  under p h := ⟨congrArg (p ++ ·) h.1, h.2⟩

/-- Stacks with the same wrappers have the same outcome for every value, and for an absent field. -/
theorem interchangeable_wrapped {stack stack' : List Wrapper}
    (hoptional : .optional ∈ stack ↔ .optional ∈ stack')
    (hnullable : .nullable ∈ stack ↔ .nullable ∈ stack') (s : Schema) :
    Interchangeable SameFind (wrapped stack s) (wrapped stack' s) := by
  refine ⟨fun v => ?_, ?_⟩
  · -- a value has even the same words: only an absent field is reported in those of the stack
    have hvalidate : (wrapped stack s).validate v = (wrapped stack' s).validate v := by
      by_cases hv : v = .null
      · subst hv
        simp only [validate_wrapped_null, hnullable]
      · rw [validate_wrapped_of_ne hv, validate_wrapped_of_ne hv]
    rw [hvalidate]
    exact .refl forgetful_sameFind _
  · simp only [acceptsMissing_wrapped, hoptional]

/-- **Wrappers.** Stacks with the same wrappers around a schema, wherever it stands in another one,
accept the same values with the same casts. What they reject they reject at the same place, where
they find the same. -/
theorem same_wrappers_same_outcome {stack stack' : List Wrapper}
    (hoptional : .optional ∈ stack ↔ .optional ∈ stack')
    (hnullable : .nullable ∈ stack ↔ .nullable ∈ stack') (c : Context) (s : Schema) (v : Value) :
    (∀ w, (c.fill (wrapped stack s)).validate v = .ok w ↔
        (c.fill (wrapped stack' s)).validate v = .ok w) ∧
      ∀ m, (c.fill (wrapped stack s)).validate v = .error m →
        ∃ m', (c.fill (wrapped stack' s)).validate v = .error m' ∧
          m'.report.path = m.report.path ∧ m'.report.actual = m.report.actual := by
  have hfill := (interchangeable_wrapped hoptional hnullable s).fill forgetful_sameFind c
  refine ⟨(hfill.value v).ok_iff, fun m hm => ?_⟩
  obtain ⟨m', hm', hplace, hactual⟩ := (hfill.value v).exists_error hm
  exact ⟨m', hm', congrArg Place.written hplace.symm, hactual.symm⟩

/-- Posts with a score. -/
def scoreSpot : Context :=
  .array (.object [("title", .string none)] "score" .hole [])

/-- Two posts. The second one has no score. -/
def unscored : Value :=
  .array [.object [("score", .null), ("title", .string "t")], .object [("title", .string "u")]]

theorem same_wrappers_same_outcome_unscored :
    (Wrapper.optional ∈ [Wrapper.nullable] ↔ Wrapper.optional ∈ [Wrapper.nullable, .nullable]) ∧
      (Wrapper.nullable ∈ [Wrapper.nullable] ↔ Wrapper.nullable ∈ [Wrapper.nullable, .nullable]) ∧
      (scoreSpot.fill (wrapped [.nullable] (.number false false))).validate unscored =
        .error ⟨[.index 1, .field "score"], "number or null", "missing"⟩ ∧
      ∃ m', (scoreSpot.fill (wrapped [.nullable, .nullable] (.number false false))).validate
          unscored = .error m' ∧
        m'.report.path = "$[1].score" ∧ m'.report.actual = "missing" := by
  have hoptional : Wrapper.optional ∈ [Wrapper.nullable] ↔
      Wrapper.optional ∈ [Wrapper.nullable, .nullable] := by decide
  have hnullable : Wrapper.nullable ∈ [Wrapper.nullable] ↔
      Wrapper.nullable ∈ [Wrapper.nullable, .nullable] := by decide
  have herror : (scoreSpot.fill (wrapped [.nullable] (.number false false))).validate unscored =
      .error ⟨[.index 1, .field "score"], "number or null", "missing"⟩ := rfl
  have hpath : Place.written [.index 1, .field "score"] = "$[1].score" := by decide
  obtain ⟨-, hrejected⟩ :=
    same_wrappers_same_outcome hoptional hnullable scoreSpot (.number false false) unscored
  obtain ⟨m', hm', hplace, hactual⟩ := hrejected _ herror
  exact ⟨hoptional, hnullable, herror, m', hm', hplace.trans hpath, hactual⟩

end WebTrip.Schema
