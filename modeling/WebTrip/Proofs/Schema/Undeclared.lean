import WebTrip.Proofs.Schema.Traversal

/-!
# Undeclared fields

A schema looks only at the fields that it declares. Which other fields an object has, and what they
hold, shows neither in the cast of the object nor in the report of a mismatch, wherever in the value
the object stands. Which fields are undeclared is a matter of the schema at the place of the object:
under a schema for anything every field is part of the result.

## Main definitions

- `Schema.AgreeOnDeclared`: two values differ only in undeclared fields

## Main statements

- `Schema.fieldCast_eq_of_agree`: a declared field has the same outcome in both objects
- `Schema.AgreeOnDeclared.eq_null`: null agrees with nothing else
- `Schema.validate_ignores_undeclared`: values that differ only in undeclared fields have the same
  outcome
-/

namespace WebTrip.Schema

open WebTrip.Json

/-! ## §1 Agreement -/

/-- The two values are the same but for fields of objects that the schema does not declare at their
place. Where a name is declared more than once, the values agree under each of its declarations. -/
inductive AgreeOnDeclared : Schema → Value → Value → Prop where
  | same (s : Schema) (v : Value) : AgreeOnDeclared s v v
  | array {item : Schema} {elements elements' : List Value} :
      elements.length = elements'.length →
      (∀ (index : ℕ) (e e' : Value), elements[index]? = some e → elements'[index]? = some e' →
        AgreeOnDeclared item e e') →
      AgreeOnDeclared (.array item) (.array elements) (.array elements')
  /-- A declared field is absent from both objects, or present in both with values that agree. -/
  | object {fields : List (String × Schema)} {found found' : Fields} :
      (∀ name s, (name, s) ∈ fields → (field? name found).isSome = (field? name found').isSome) →
      (∀ name s v v', (name, s) ∈ fields → field? name found = some v →
        field? name found' = some v' → AgreeOnDeclared s v v') →
      AgreeOnDeclared (.object fields) (.object found) (.object found')
  | optional {inner : Schema} {v v' : Value} :
      AgreeOnDeclared inner v v' → AgreeOnDeclared (.optional inner) v v'
  | nullable {inner : Schema} {v v' : Value} :
      AgreeOnDeclared inner v v' → AgreeOnDeclared (.nullable inner) v v'

/-- Only containers differ from values they agree with. -/
theorem AgreeOnDeclared.eq_null {s : Schema} {v v' : Value} (h : AgreeOnDeclared s v v') :
    v = .null ↔ v' = .null := by
  induction h with
  | same s v => exact Iff.rfl
  | array => exact ⟨nofun, nofun⟩
  | object => exact ⟨nofun, nofun⟩
  | optional _ ih => exact ih
  | nullable _ ih => exact ih

/-- Objects that have the same declared fields agree, whatever else they have. -/
theorem agreeOnDeclared_of_lookups {fields : List (String × Schema)} {found found' : Fields}
    (h : ∀ field ∈ fields, field? field.1 found = field? field.1 found') :
    AgreeOnDeclared (.object fields) (.object found) (.object found') := by
  refine .object (fun name s hmem => by rw [h _ hmem]) ?_
  intro name s v v' hmem hv hv'
  obtain rfl : v = v' := Option.some.inj (hv.symm.trans ((h _ hmem).trans hv'))
  exact .same s v

/-! ## §2 Containers -/

/-- Checks agree on arrays of the same length if they agree on the elements of each index. -/
theorem checkElements_congr {f : ℕ → Value → Except Mismatch Value}
    {elements elements' : List Value} (hlength : elements.length = elements'.length)
    (h : ∀ (index : ℕ) (e e' : Value), elements[index]? = some e → elements'[index]? = some e' →
      ∀ place, f place e = f place e') (start : ℕ) :
    checkElements f start elements = checkElements f start elements' := by
  induction elements generalizing elements' start with
  | nil =>
    obtain rfl : elements' = [] := List.length_eq_zero_iff.mp hlength.symm
    rfl
  | cons e rest ih =>
    cases elements' with
    | nil => cases hlength
    | cons e' rest' =>
      have hfirst : f start e = f start e' := h 0 e e' rfl rfl start
      have hrest := ih (Nat.succ.inj hlength) (fun index => h (index + 1)) (start + 1)
      rw [checkElements, checkElements, hfirst, hrest]

/-- The outcome for a declared field depends on that field alone. -/
theorem fieldCast_eq_of_agree {found found' : Fields} {name : String} {s : Schema}
    (hpresent : (field? name found).isSome = (field? name found').isSome)
    (h : ∀ v v', field? name found = some v → field? name found' = some v' →
      s.validate v = s.validate v') :
    fieldCast found (name, s) = fieldCast found' (name, s) := by
  unfold fieldCast
  cases hv : field? name found with
  | none =>
    have hv' : field? name found' = none := by simpa [hv] using hpresent
    simp only [hv']
  | some v =>
    obtain ⟨v', hv'⟩ : ∃ v', field? name found' = some v' := by
      rw [← Option.isSome_iff_exists, ← hpresent, hv, Option.isSome_some]
    simp only [hv', h v v' hv hv']

/-- Objects in which every declared field has the same outcome are checked alike. -/
theorem checkFields_congr {found found' : Fields} {fields : List (String × Schema)}
    (h : ∀ field ∈ fields, fieldCast found field = fieldCast found' field) (place : Place)
    (casts : Fields) :
    checkFields place found casts fields = checkFields place found' casts fields := by
  induction fields generalizing casts with
  | nil => rfl
  | cons field rest ih =>
    obtain ⟨hfirst, hrest⟩ := List.forall_mem_cons.mp h
    rw [checkFields_cons, checkFields_cons, hfirst]
    cases fieldCast found' field with
    | error m => rfl
    | ok cast =>
      cases cast with
      | none => exact ih hrest casts
      | some c => exact ih hrest (insert field.1 c casts)

/-! ## §3 Noninterference -/

/-- **Undeclared fields** have no influence: values that differ in nothing else have the same cast,
or are rejected at the same place with the same words. -/
theorem validate_ignores_undeclared {s : Schema} {v v' : Value} (h : AgreeOnDeclared s v v') :
    s.validate v = s.validate v' := by
  induction h with
  | same s v => rfl
  | @array item elements elements' hlength _ ih =>
    rw [validate_array, validate_array]
    have helements := checkElements_congr
      (f := fun index v => (item.validate v).mapError (·.under [.index index])) hlength
      (fun index e e' he he' place => by rw [ih index e e' he he']) 0
    rw [helements]
  | @object fields found found' hpresent _ ih =>
    have hfields : ∀ field ∈ fields, fieldCast found field = fieldCast found' field := by
      intro field hmem
      refine fieldCast_eq_of_agree (hpresent field.1 field.2 hmem) ?_
      intro v v' hv hv'
      exact ih field.1 field.2 v v' hmem hv hv'
    rw [validate_object, validate_object, checkFields_congr hfields]
  | optional _ ih => exact ih
  | @nullable inner v v' hagree ih =>
    -- null agrees with null only, so that the wrapper takes the same way for both values
    by_cases hv : v = .null
    · rw [hv, hagree.eq_null.mp hv]
    · have hv' : v' ≠ .null := fun h => hv (hagree.eq_null.mpr h)
      rw [validate_nullable_of_ne hv, validate_nullable_of_ne hv', ih]

/-- Posts that may have an author, who has a name. -/
def postAuthors : Schema :=
  .array (.object [("author", .optional (.nullable (.object [("name", .string none)])))])

/-- Three posts: the author of the first one has a name and a rank, the second one has no author,
and the author of the third one has null for a name. -/
def rankedAuthors : Value :=
  .array [.object [("author", .object [("name", .string "a"), ("rank", .bool true)])],
    .object [("section", .null)],
    .object [("author", .object [("name", .null)])]]

/-- The same posts with other undeclared fields. -/
def unrankedAuthors : Value :=
  .array [.object [("author", .object [("name", .string "a")]), ("views", .string "1204")],
    .object [],
    .object [("author", .object [("name", .null), ("rank", .bool false)])]]

theorem validate_ignores_undeclared_ranks :
    AgreeOnDeclared postAuthors rankedAuthors unrankedAuthors ∧
      postAuthors.validate rankedAuthors =
        .error ⟨[.index 2, .field "author", .field "name"], "string", "null"⟩ ∧
      postAuthors.validate rankedAuthors = postAuthors.validate unrankedAuthors := by
  -- posts whose authors have the same name agree
  have hpost : ∀ {found found' author author' : Fields},
      field? "author" found = some (.object author) →
      field? "author" found' = some (.object author') →
      field? "name" author = field? "name" author' →
      AgreeOnDeclared
        (.object [("author", .optional (.nullable (.object [("name", .string none)])))])
        (.object found) (.object found') := by
    intro found found' author author' hauthor hauthor' hname
    refine .object (by simp [hauthor, hauthor']) fun name s v v' hmem hv hv' => ?_
    obtain ⟨rfl, rfl⟩ := Prod.mk.inj (List.mem_singleton.mp hmem)
    obtain rfl := Option.some.inj (hauthor.symm.trans hv)
    obtain rfl := Option.some.inj (hauthor'.symm.trans hv')
    exact .optional (.nullable (agreeOnDeclared_of_lookups (by simpa using hname)))
  have hagree : AgreeOnDeclared postAuthors rankedAuthors unrankedAuthors := by
    refine .array rfl fun index e e' he he' => ?_
    match index with
    | 0 =>
      cases he
      cases he'
      exact hpost rfl rfl rfl
    | 1 =>
      cases he
      cases he'
      exact agreeOnDeclared_of_lookups (by simp [field?])
    | 2 =>
      cases he
      cases he'
      exact hpost rfl rfl rfl
    | index + 3 => cases he
  exact ⟨hagree, rfl, validate_ignores_undeclared hagree⟩

end WebTrip.Schema
