import WebTrip.Proofs.Schema.FirstMismatch
import WebTrip.Proofs.Schema.Wrappers

/-!
# What a report expects

A report says what was expected at its place. The words depend on whether there is a value. A field
that is missing is reported in the words of its whole declaration, wrappers included, so that null
is named if it is allowed. A value that is present is passed on through the wrappers, and it is
reported in the words of the schema inside, which never name null, whether it is allowed or not.

## Main definitions

- `Schema.wrappers`: the stack of wrappers of a schema
- `NamesNull`: the words end by naming null

## Main statements

- `Schema.namesNull_expectation_iff`: the words of a schema name null if a wrapper allows it
- `Schema.FailsFirst.expected_eq`: whose words a report uses
- `Schema.namesNull_expected_iff`: a report names null exactly for a missing field that may be null
- `Schema.present_value_hides_null`: what allows null is not named for a value
-/

namespace WebTrip

open WebTrip.Json

/-! ## §1 Words -/

/-- The words end by naming null. -/
def NamesNull (words : String) : Prop :=
  ∃ head, words = head ++ " or null"

theorem not_namesNull_of_getLast {words : String} (h : words.toList.getLast? ≠ some 'l') :
    ¬ NamesNull words := by
  rintro ⟨head, rfl⟩
  simp at h

namespace Schema

/-- The wrappers of a schema, the outermost one first. -/
def wrappers : Schema → List Wrapper
  | .optional inner => .optional :: inner.wrappers
  | .nullable inner => .nullable :: inner.wrappers
  | _ => []

/-- A schema is its core in its wrappers. -/
theorem wrapped_wrappers (s : Schema) : wrapped s.wrappers s.core = s := by
  induction s with
  | optional inner ih => exact congrArg Schema.optional ih
  | nullable inner ih => exact congrArg Schema.nullable ih
  | _ => rfl

theorem expectation_optional (inner : Schema) :
    (Schema.optional inner).expectation = inner.expectation := rfl

theorem expectation_nullable (inner : Schema) :
    (Schema.nullable inner).expectation = inner.expectation ++ " or null" := rfl

/-- Without wrappers there is no null in the words. -/
theorem not_namesNull_core (s : Schema) : ¬ NamesNull s.core.expectation := by
  -- none of the words ends in the last letter of null
  have hwords : ∀ words ∈ ["any value", "string", "integer or integer string",
      "number or numeric string", "integer", "number", "boolean", "array", "object"],
      ¬ NamesNull words := by
    intro words hmem
    apply not_namesNull_of_getLast
    revert words
    decide
  induction s with
  | any => exact hwords "any value" (by decide)
  | string pattern =>
    cases pattern with
    | none => exact hwords "string" (by decide)
    | some pattern =>
      show ¬ NamesNull ("string matching /" ++ pattern.source ++ "/")
      apply not_namesNull_of_getLast
      rw [String.toList_append, List.getLast?_append]
      intro h
      exact absurd (Option.some.inj h) (by decide)
  | number numeric integer =>
    cases numeric with
    | false =>
      cases integer with
      | false => exact hwords "number" (by decide)
      | true => exact hwords "integer" (by decide)
    | true =>
      cases integer with
      | false => exact hwords "number or numeric string" (by decide)
      | true => exact hwords "integer or integer string" (by decide)
  | boolean => exact hwords "boolean" (by decide)
  | array => exact hwords "array" (by decide)
  | object => exact hwords "object" (by decide)
  | optional inner ih => exact ih
  | nullable inner ih => exact ih

/-- A stack adds null to the words exactly if one of its wrappers allows it. -/
theorem namesNull_expectation_wrapped {s : Schema} (hs : ¬ NamesNull s.expectation)
    (stack : List Wrapper) : NamesNull (wrapped stack s).expectation ↔ .nullable ∈ stack := by
  induction stack with
  | nil => exact iff_of_false hs List.not_mem_nil
  | cons wrapper stack ih =>
    cases wrapper with
    | optional => simpa [expectation_optional] using ih
    | nullable =>
      refine iff_of_true ⟨(wrapped stack s).expectation, ?_⟩ (List.mem_cons_self ..)
      rw [wrapped_nullable, expectation_nullable]

/-- The words of a schema name null exactly if one of its wrappers allows it. -/
theorem namesNull_expectation_iff (s : Schema) :
    NamesNull s.expectation ↔ .nullable ∈ s.wrappers := by
  simpa only [wrapped_wrappers] using
    namesNull_expectation_wrapped (not_namesNull_core s) s.wrappers

/-! ## §2 Whose words a report uses -/

/-- A value that is wrong by itself is reported in the words of the schema inside all wrappers. -/
theorem expected_eq_of_wrong {s : Schema} {v : Value} {expected actual : String}
    (h : s.validate v = .error ⟨[], expected, actual⟩) : expected = s.core.expectation := by
  induction s generalizing v with
  | any => cases h
  | string pattern =>
    obtain ⟨found, hm⟩ := eq_mismatch_of_scalar (.inl ⟨_, rfl⟩) h
    exact congrArg Mismatch.expected hm
  | number numeric integer =>
    obtain ⟨found, hm⟩ := eq_mismatch_of_scalar (.inr (.inl ⟨_, _, rfl⟩)) h
    exact congrArg Mismatch.expected hm
  | boolean =>
    obtain ⟨found, hm⟩ := eq_mismatch_of_scalar (.inr (.inr rfl)) h
    exact congrArg Mismatch.expected hm
  | array item =>
    cases v with
    | array elements =>
      -- what is wrong inside an array is not reported at its own place
      obtain ⟨before, v, after, m', -, -, -, hm⟩ := validate_array_error_iff.mp h
      cases hm
    | _ => cases h; rfl
  | object fields =>
    cases v with
    | object found =>
      obtain ⟨before, field, after, m', -, -, -, hm⟩ := validate_object_error_iff.mp h
      cases hm
    | _ => cases h; rfl
  | optional inner ih => exact ih h
  | nullable inner ih =>
    cases v with
    | null => cases h
    | _ => exact ih h

/-- A report uses the words of the schema at its place: all of them if nothing stands there, and
those inside the wrappers if something does. -/
theorem FailsFirst.expected_eq {s : Schema} {v : Value} {trail : Trail} {expected actual : String}
    (h : FailsFirst s v trail expected actual) :
    ∃ t, s.follow? trail = some t ∧
      (v.follow? trail.place = none ∧ expected = t.expectation ∨
        (v.follow? trail.place).isSome ∧ expected = t.core.expectation) := by
  induction h with
  | @here s v expected actual h => exact ⟨s, rfl, .inr ⟨rfl, expected_eq_of_wrong h⟩⟩
  | element hcore hbefore he hrest ih =>
    rw [follow?_element hcore, follow?_place_element he]
    exact ih
  | declaration hcore hbefore ht hv hrest ih =>
    rw [follow?_declaration hcore ht, follow?_place_declaration hv]
    exact ih
  | @missing s t fields found index name hcore hbefore ht hnone hm =>
    refine ⟨t, follow?_declaration hcore ht, .inl ⟨?_, rfl⟩⟩
    simp [Trail.place, Turn.step, Value.follow?, hnone]

/-! ## §3 Null in the words of a report -/

/-- **Null in a report.** What a report expects is named at the place where the value fails first,
by the schema that is declared there. The words name null exactly if a wrapper of this schema allows
it and the field is missing. -/
theorem namesNull_expected_iff {s : Schema} {v : Value} {m : Mismatch}
    (h : s.validate v = .error m) :
    ∃ (trail : Trail) (t : Schema), m.place = trail.place ∧
      FailsFirst s v trail m.expected m.actual ∧ s.follow? trail = some t ∧
      (v.follow? m.place = none → m.report.expected = t.expectation) ∧
      (∀ u, v.follow? m.place = some u → m.report.expected = t.core.expectation) ∧
      (NamesNull m.report.expected ↔ v.follow? m.place = none ∧ .nullable ∈ t.wrappers) := by
  obtain ⟨trail, hplace, hfails⟩ := validate_error_iff.mp h
  obtain ⟨t, ht, hwords⟩ := hfails.expected_eq
  refine ⟨trail, t, hplace, hfails, ht, ?_⟩
  rw [hplace]
  show (_ → m.expected = _) ∧ (∀ u, _ → m.expected = _) ∧ (NamesNull m.expected ↔ _)
  rcases hwords with ⟨hmissing, hexpected⟩ | ⟨hpresent, hexpected⟩
  · rw [hmissing, hexpected]
    refine ⟨fun _ => rfl, nofun, ?_⟩
    rw [namesNull_expectation_iff, and_iff_right rfl]
  · obtain ⟨u, hu⟩ := Option.isSome_iff_exists.mp hpresent
    rw [hu, hexpected]
    exact ⟨nofun, fun _ _ => rfl, iff_of_false (not_namesNull_core t) nofun⟩

/-- A row with a score, which may be null. -/
def nullableScore : Schema :=
  .array (.object [("score", .nullable (.number false false))])

/-- Two rows. The second one has no score. -/
def missingScore : Value :=
  .array [.object [("score", .null)], .object [("title", .string "t")]]

theorem namesNull_expected_iff_missingScore :
    nullableScore.validate missingScore =
        .error ⟨[.index 1, .field "score"], "number or null", "missing"⟩ ∧
      ∃ (trail : Trail) (t : Schema), [.index 1, .field "score"] = trail.place ∧
        FailsFirst nullableScore missingScore trail "number or null" "missing" ∧
        nullableScore.follow? trail = some t ∧ .nullable ∈ t.wrappers := by
  have herror : nullableScore.validate missingScore =
      .error ⟨[.index 1, .field "score"], "number or null", "missing"⟩ := rfl
  obtain ⟨trail, t, hplace, hfails, ht, -, -, hnull⟩ := namesNull_expected_iff herror
  exact ⟨herror, trail, t, hplace, hfails, ht, (hnull.mp ⟨"number", by decide⟩).2⟩

/-- Two rows. The score of the second one is not a number. -/
def wrongScore : Value :=
  .array [.object [("score", .null)], .object [("score", .bool true)]]

/-- For a value that is present, a report does not say that null is allowed, though the schema at
its place says so. -/
theorem present_value_hides_null :
    nullableScore.validate wrongScore =
        .error ⟨[.index 1, .field "score"], "number", "boolean"⟩ ∧
      nullableScore.follow? [.element 1, .declaration 0 "score"] =
        some (.nullable (.number false false)) ∧
      .nullable ∈ (Schema.nullable (.number false false)).wrappers ∧ ¬ NamesNull "number" :=
  ⟨rfl, rfl, List.mem_cons_self .., not_namesNull_of_getLast (by decide)⟩

end Schema

end WebTrip
