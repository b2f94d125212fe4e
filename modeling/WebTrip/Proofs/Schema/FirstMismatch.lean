import WebTrip.Error
import WebTrip.Proofs.Schema.Traversal

/-!
# The first mismatch

A validation that fails reports one mismatch. Its place can be followed through the value, and
through the schema with `optional` and `nullable` looked through; what is reported is wrong there;
everything that stands before it in the order of the traversal is accepted; and nothing that stands
behind it has any influence on the report.

A place does not say which of several declarations of a name is meant, so that ways into a schema
are told by trails, which do.

## Main definitions

- `Trail`: a way into a schema and a value at the same time
- `Value.follow?`, `Schema.follow?`: where a way leads
- `Schema.WrongAt`, `Schema.MissingAt`: the two kinds of mismatch at the end of a trail
- `Schema.EarlierAccepted`: everything before the end of a trail is accepted
- `Schema.AgreeUpTo`: two values differ only behind the end of a trail

## Main statements

- `Schema.validate_error_iff`: when a validation fails, and how
- `Schema.report_first_mismatch`: what the report of a failed validation says
-/

namespace WebTrip

open WebTrip.Json

/-! ## §1 Trails -/

/-- One turn of a way into a schema and a value. -/
inductive Turn where
  | element (index : ℕ)
  /-- The declaration with this index, which is one of this name. -/
  | declaration (index : ℕ) (name : String)

/-- A way into a schema and a value. -/
abbrev Trail := List Turn

/-- The step into the value. -/
def Turn.step : Turn → Step
  | .element index => .index index
  | .declaration _ name => .field name

/-- The place in the value. -/
def Trail.place (trail : Trail) : Place :=
  trail.map Turn.step

/-- Follows a place through a value. -/
def Json.Value.follow? : Place → Value → Option Value
  | [], v => some v
  | .field name :: rest, .object found => (field? name found).bind (follow? rest)
  | .index index :: rest, .array elements => elements[index]?.bind (follow? rest)
  | _, _ => none

namespace Schema

/-- The schema inside the wrappers. -/
def core : Schema → Schema
  | .optional inner => inner.core
  | .nullable inner => inner.core
  | s => s

/-- Follows a trail through a schema, looking through wrappers on the way. -/
def follow? : Trail → Schema → Option Schema
  | [], s => some s
  | .element _ :: rest, s =>
    match s.core with
    | .array item => follow? rest item
    | _ => none
  | .declaration index name :: rest, s =>
    match s.core with
    | .object fields =>
      match fields[index]? with
      | some (declared, t) => if declared = name then follow? rest t else none
      | none => none
    | _ => none

/-- Wrappers have no say on containers. -/
theorem validate_core {s : Schema} {v : Value} (hv : v ≠ .null) :
    s.validate v = s.core.validate v := by
  induction s with
  | optional inner ih => exact ih
  | nullable inner ih =>
    cases v with
    | null => exact absurd rfl hv
    | _ => exact ih
  | _ => rfl

/-! ## §2 The failing place -/

/-- The value fails first at the end of the trail, where `actual` was found and not `expected`. -/
inductive FailsFirst : Schema → Value → Trail → String → String → Prop where
  /-- The value itself is wrong. -/
  | here {s : Schema} {v : Value} {expected actual : String} :
      s.validate v = .error ⟨[], expected, actual⟩ → FailsFirst s v [] expected actual
  | element {s item : Schema} {elements : List Value} {index : ℕ} {e : Value} {trail : Trail}
      {expected actual : String} :
      s.core = .array item → (∀ other ∈ elements.take index, item.Accepts other) →
      elements[index]? = some e → FailsFirst item e trail expected actual →
      FailsFirst s (.array elements) (.element index :: trail) expected actual
  | declaration {s t : Schema} {fields : List (String × Schema)} {found : Fields} {index : ℕ}
      {name : String} {v : Value} {trail : Trail} {expected actual : String} :
      s.core = .object fields → (∀ other ∈ fields.take index, AcceptsField found other) →
      fields[index]? = some (name, t) → field? name found = some v →
      FailsFirst t v trail expected actual →
      FailsFirst s (.object found) (.declaration index name :: trail) expected actual
  | missing {s t : Schema} {fields : List (String × Schema)} {found : Fields} {index : ℕ}
      {name : String} :
      s.core = .object fields → (∀ other ∈ fields.take index, AcceptsField found other) →
      fields[index]? = some (name, t) → field? name found = none → t.acceptsMissing = false →
      FailsFirst s (.object found) [.declaration index name] t.expectation "missing"

/-- A wrapper that passes the value on fails where the wrapped schema fails. -/
theorem FailsFirst.wrap {s inner : Schema} {v : Value} {trail : Trail} {expected actual : String}
    (h : FailsFirst inner v trail expected actual) (hcore : s.core = inner.core)
    (hpass : s.validate v = inner.validate v) : FailsFirst s v trail expected actual := by
  cases h with
  | here hv => exact .here (hpass.trans hv)
  | element hitem hbefore he hrest => exact .element (hcore.trans hitem) hbefore he hrest
  | declaration hfields hbefore ht hv hrest =>
    exact .declaration (hcore.trans hfields) hbefore ht hv hrest
  | missing hfields hbefore ht hnone hm => exact .missing (hcore.trans hfields) hbefore ht hnone hm

/-- Outside containers a value can only be wrong itself, in the words of its schema. -/
theorem eq_mismatch_of_scalar {s : Schema} {v : Value} {m : Mismatch}
    (hscalar : (∃ pattern, s = .string pattern) ∨ (∃ numeric integer, s = .number numeric integer) ∨
      s = .boolean) (h : s.validate v = .error m) : ∃ actual, m = s.mismatch [] actual := by
  obtain ⟨pattern, rfl⟩ | ⟨numeric, integer, rfl⟩ | rfl := hscalar
  · cases v with
    | string text =>
      rw [validate_string] at h
      split_ifs at h
      cases h
      exact ⟨_, rfl⟩
    | _ => cases h; exact ⟨_, rfl⟩
  · cases v with
    | number n =>
      cases n with
      | integer => cases h
      | float x =>
        rw [validate_number_float] at h
        split_ifs at h
        cases hx : castFloat? x <;> rw [hx] at h <;> cases h
        exact ⟨_, rfl⟩
    | string text =>
      rw [validate_number_string] at h
      split_ifs at h
      · cases hn : numberOfText? integer text <;> rw [hn] at h <;> cases h
        exact ⟨_, rfl⟩
      · cases h
        exact ⟨_, rfl⟩
    | _ => cases h; exact ⟨_, rfl⟩
  · cases v <;> cases h <;> exact ⟨_, rfl⟩

theorem place_eq_nil_of_scalar {s : Schema} {v : Value} {m : Mismatch}
    (hscalar : (∃ pattern, s = .string pattern) ∨ (∃ numeric integer, s = .number numeric integer) ∨
      s = .boolean) (h : s.validate v = .error m) : m.place = [] := by
  obtain ⟨actual, rfl⟩ := eq_mismatch_of_scalar hscalar h
  rfl

/-- A failed validation has a place where the value fails first. -/
theorem failsFirst_of_validate_error {s : Schema} {v : Value} {m : Mismatch}
    (h : s.validate v = .error m) :
    ∃ trail : Trail, m.place = trail.place ∧ FailsFirst s v trail m.expected m.actual := by
  have here : ∀ {s : Schema} {v : Value} {m : Mismatch}, s.validate v = .error m →
      m.place = [] → ∃ trail : Trail, m.place = trail.place ∧
        FailsFirst s v trail m.expected m.actual := by
    rintro s v ⟨_, expected, actual⟩ h rfl
    exact ⟨[], rfl, .here h⟩
  induction s generalizing v m with
  | any => cases h
  | string pattern => exact here h (place_eq_nil_of_scalar (Or.inl ⟨_, rfl⟩) h)
  | number numeric integer =>
    exact here h (place_eq_nil_of_scalar (Or.inr (Or.inl ⟨_, _, rfl⟩)) h)
  | boolean => exact here h (place_eq_nil_of_scalar (Or.inr (Or.inr rfl)) h)
  | array item ih =>
    cases v with
    | array elements =>
      obtain ⟨before, e, after, m', rfl, hbefore, he, rfl⟩ := validate_array_error_iff.mp h
      obtain ⟨trail, hplace, htrail⟩ := ih he
      refine ⟨.element before.length :: trail, ?_, .element rfl ?_ ?_ htrail⟩
      · simp [Mismatch.under, hplace, Trail.place, Turn.step]
      · simpa using hbefore
      · simp
    | _ => exact here h (by cases h; rfl)
  | object fields ih =>
    cases v with
    | object found =>
      obtain ⟨before, ⟨name, t⟩, after, m', rfl, hbefore, hfield, rfl⟩ :=
        validate_object_error_iff.mp h
      have htake : ∀ other ∈ (before ++ (name, t) :: after).take before.length,
          AcceptsField found other := by simpa using hbefore
      have hget : (before ++ (name, t) :: after)[before.length]? = some (name, t) := by simp
      rw [fieldCast] at hfield
      cases hfound : field? name found with
      | some v =>
        simp only [hfound, map_eq_error_iff] at hfield
        obtain ⟨trail, hplace, htrail⟩ := ih (name, t) (by simp) hfield
        refine ⟨.declaration before.length name :: trail, ?_,
          .declaration rfl htake hget hfound htrail⟩
        simp [Mismatch.under, hplace, Trail.place, Turn.step]
      | none =>
        cases hm : t.acceptsMissing with
        | true => simp [hfound, hm] at hfield
        | false =>
          simp only [hfound, hm, Bool.false_eq_true, if_false] at hfield
          cases hfield
          exact ⟨[.declaration before.length name], rfl, .missing rfl htake hget hfound hm⟩
    | _ => exact here h (by cases h; rfl)
  | optional inner ih =>
    obtain ⟨trail, hplace, htrail⟩ := ih h
    exact ⟨trail, hplace, htrail.wrap rfl rfl⟩
  | nullable inner ih =>
    by_cases hv : v = .null
    · subst hv
      cases h
    · have hpass := validate_nullable_of_ne hv inner
      obtain ⟨trail, hplace, htrail⟩ := ih (hpass.symm.trans h)
      exact ⟨trail, hplace, htrail.wrap rfl hpass⟩

theorem validate_array_error_of_index {item : Schema} {elements : List Value} {index : ℕ}
    {e : Value} {m : Mismatch} (hbefore : ∀ other ∈ elements.take index, item.Accepts other)
    (he : elements[index]? = some e) (hm : item.validate e = .error m) :
    (Schema.array item).validate (.array elements) = .error (m.under [.index index]) := by
  obtain ⟨hlt, rfl⟩ := List.getElem?_eq_some_iff.mp he
  refine validate_array_error_iff.mpr ⟨elements.take index, elements[index],
    elements.drop (index + 1), m, ?_, hbefore, hm, ?_⟩
  · rw [← List.drop_eq_getElem_cons hlt, List.take_append_drop]
  · rw [List.length_take_of_le hlt.le]

theorem validate_object_error_of_index {fields : List (String × Schema)} {found : Fields}
    {index : ℕ} {field : String × Schema} {m : Mismatch}
    (hbefore : ∀ other ∈ fields.take index, AcceptsField found other)
    (hfield : fields[index]? = some field) (hm : fieldCast found field = .error m) :
    (Schema.object fields).validate (.object found) = .error (m.under [.field field.1]) := by
  obtain ⟨hlt, rfl⟩ := List.getElem?_eq_some_iff.mp hfield
  refine validate_object_error_iff.mpr ⟨fields.take index, fields[index],
    fields.drop (index + 1), m, ?_, hbefore, hm, rfl⟩
  rw [← List.drop_eq_getElem_cons hlt, List.take_append_drop]

theorem fieldCast_error_of_present {found : Fields} {name : String} {s : Schema} {v : Value}
    {m : Mismatch} (hv : field? name found = some v) (hm : s.validate v = .error m) :
    fieldCast found (name, s) = .error m := by
  simp only [fieldCast, hv, map_eq_error_iff, hm]

theorem fieldCast_error_of_absent {found : Fields} {name : String} {s : Schema}
    (hnone : field? name found = none) (hm : s.acceptsMissing = false) :
    fieldCast found (name, s) = .error (s.mismatch [] "missing") := by
  simp only [fieldCast, hnone, hm, Bool.false_eq_true, if_false]

/-- A value that fails first at a place is reported there. -/
theorem FailsFirst.validate_error {s : Schema} {v : Value} {trail : Trail}
    {expected actual : String} (h : FailsFirst s v trail expected actual) :
    s.validate v = .error ⟨trail.place, expected, actual⟩ := by
  induction h with
  | here h => exact h
  | @element _ _ elements _ _ _ _ _ hcore hbefore he _ ih =>
    rw [validate_core (v := .array elements) nofun, hcore]
    exact validate_array_error_of_index hbefore he ih
  | @declaration _ _ _ found _ _ _ _ _ _ hcore hbefore ht hv _ ih =>
    rw [validate_core (v := .object found) nofun, hcore]
    exact validate_object_error_of_index hbefore ht (fieldCast_error_of_present hv ih)
  | @missing _ _ _ found _ _ hcore hbefore ht hnone hm =>
    rw [validate_core (v := .object found) nofun, hcore]
    exact validate_object_error_of_index hbefore ht (fieldCast_error_of_absent hnone hm)

/-- **Failure.** A validation fails exactly when its value fails first somewhere, and that is what
it reports. -/
theorem validate_error_iff {s : Schema} {v : Value} {m : Mismatch} :
    s.validate v = .error m ↔
      ∃ trail : Trail, m.place = trail.place ∧ FailsFirst s v trail m.expected m.actual := by
  refine ⟨failsFirst_of_validate_error, ?_⟩
  rintro ⟨trail, hplace, htrail⟩
  rw [htrail.validate_error, ← hplace]

/-! ## §3 What stands there -/

/-- The part of the value at the end of the trail is present and wrong by itself: the part of the
schema there rejects it with the same words. -/
def WrongAt (s : Schema) (v : Value) (trail : Trail) (expected actual : String) : Prop :=
  ∃ t u, s.follow? trail = some t ∧ v.follow? trail.place = some u ∧
    t.validate u = .error ⟨[], expected, actual⟩

/-- The last turn of the trail is a declared field that its object does not have, though it may not
be absent. -/
def MissingAt (s : Schema) (v : Value) (trail : Trail) (expected actual : String) : Prop :=
  ∃ way index name parent fields found t, trail = way ++ [.declaration index name] ∧
    s.follow? way = some parent ∧ parent.core = .object fields ∧
    fields[index]? = some (name, t) ∧ v.follow? (Trail.place way) = some (.object found) ∧
    field? name found = none ∧ t.acceptsMissing = false ∧ actual = "missing" ∧
    expected = t.expectation

/-- At every turn of the trail the elements of a smaller index, or the fields declared earlier, are
accepted. -/
def EarlierAccepted (s : Schema) (v : Value) (trail : Trail) : Prop :=
  ∀ way turn rest, trail = way ++ turn :: rest → ∀ t u, s.follow? way = some t →
    v.follow? (Trail.place way) = some u →
      match turn with
      | .element index => ∀ item elements, t.core = .array item → u = .array elements →
          ∀ e ∈ elements.take index, item.Accepts e
      | .declaration index _ => ∀ fields found, t.core = .object fields → u = .object found →
          ∀ field ∈ fields.take index, AcceptsField found field

theorem follow?_element {s item : Schema} {index : ℕ} {rest : Trail} (h : s.core = .array item) :
    s.follow? (.element index :: rest) = item.follow? rest := by
  simp only [follow?, h]

theorem follow?_declaration {s t : Schema} {fields : List (String × Schema)} {index : ℕ}
    {name : String} {rest : Trail} (h : s.core = .object fields)
    (ht : fields[index]? = some (name, t)) :
    s.follow? (.declaration index name :: rest) = t.follow? rest := by
  simp only [follow?, h, ht, if_true]

theorem follow?_place_element {elements : List Value} {index : ℕ} {e : Value} {rest : Trail}
    (h : elements[index]? = some e) :
    (Value.array elements).follow? (Trail.place (.element index :: rest)) =
      e.follow? rest.place := by
  simp [Trail.place, Turn.step, Value.follow?, h]

theorem follow?_place_declaration {found : Fields} {index : ℕ} {name : String} {v : Value}
    {rest : Trail} (h : field? name found = some v) :
    (Value.object found).follow? (Trail.place (.declaration index name :: rest)) =
      v.follow? rest.place := by
  simp [Trail.place, Turn.step, Value.follow?, h]

/-- What is reported is wrong at the end of the trail. -/
theorem FailsFirst.wrongAt_or_missingAt {s : Schema} {v : Value} {trail : Trail}
    {expected actual : String} (h : FailsFirst s v trail expected actual) :
    WrongAt s v trail expected actual ∨ MissingAt s v trail expected actual := by
  induction h with
  | here h => exact Or.inl ⟨_, _, rfl, rfl, h⟩
  | element hcore hbefore he hrest ih =>
    refine ih.imp ?_ ?_
    · rintro ⟨t, u, ht, hu, herror⟩
      exact ⟨t, u, (follow?_element hcore).trans ht, (follow?_place_element he).trans hu, herror⟩
    · rintro ⟨way, index, name, parent, fields, found, t, rfl, hparent, hfields, ht, hfound, h⟩
      exact ⟨.element _ :: way, index, name, parent, fields, found, t, rfl,
        (follow?_element hcore).trans hparent, hfields, ht,
        (follow?_place_element he).trans hfound, h⟩
  | declaration hcore hbefore ht hv hrest ih =>
    refine ih.imp ?_ ?_
    · rintro ⟨t, u, ht', hu, herror⟩
      exact ⟨t, u, (follow?_declaration hcore ht).trans ht',
        (follow?_place_declaration hv).trans hu, herror⟩
    · rintro ⟨way, index, name, parent, fields, found, t, rfl, hparent, hfields, ht', hfound, h⟩
      exact ⟨.declaration _ _ :: way, index, name, parent, fields, found, t, rfl,
        (follow?_declaration hcore ht).trans hparent, hfields, ht',
        (follow?_place_declaration hv).trans hfound, h⟩
  | missing hcore hbefore ht hnone hm =>
    exact Or.inr ⟨[], _, _, _, _, _, _, rfl, rfl, hcore, ht, rfl, hnone, hm, rfl, rfl⟩

/-- Everything before the end of the trail is accepted. -/
theorem FailsFirst.earlierAccepted {s : Schema} {v : Value} {trail : Trail}
    {expected actual : String} (h : FailsFirst s v trail expected actual) :
    EarlierAccepted s v trail := by
  induction h with
  | here h =>
    intro way turn rest hsplit
    cases way <;> cases hsplit
  | @element s item elements index e trail expected actual hcore hbefore he hrest ih =>
    intro way turn rest hsplit t u ht hu
    cases way with
    | nil =>
      cases hsplit
      cases ht
      cases hu
      intro item' elements' hitem helements
      rw [hcore] at hitem
      cases hitem
      cases helements
      exact hbefore
    | cons first way =>
      cases hsplit
      exact ih way turn rest rfl t u ((follow?_element hcore).symm.trans ht)
        ((follow?_place_element he).symm.trans hu)
  | declaration hcore hbefore hfield hv hrest ih =>
    intro way turn rest hsplit t u ht hu
    cases way with
    | nil =>
      cases hsplit
      cases ht
      cases hu
      intro fields' found' hfields hfound
      rw [hcore] at hfields
      cases hfields
      cases hfound
      exact hbefore
    | cons first way =>
      cases hsplit
      exact ih way turn rest rfl t u ((follow?_declaration hcore hfield).symm.trans ht)
        ((follow?_place_declaration hv).symm.trans hu)
  | missing hcore hbefore hfield hnone hm =>
    intro way turn rest hsplit t u ht hu
    cases way with
    | nil =>
      cases hsplit
      cases ht
      cases hu
      intro fields' found' hfields hfound
      rw [hcore] at hfields
      cases hfields
      cases hfound
      exact hbefore
    | cons first way =>
      have := congrArg List.length hsplit
      simp at this

/-! ## §4 What stands behind it -/

/-- The two values look the same without looking inside: both arrays, both objects, or equal. -/
def SameFace : Value → Value → Prop
  | .array _, .array _ => True
  | .object _, .object _ => True
  | v, v' => v = v'

/-- The second value differs from the first only in what a traversal does not visit, or visits
after the end of the trail. -/
inductive AgreeUpTo : Trail → Schema → Value → Value → Prop where
  | here {s : Schema} {v v' : Value} : SameFace v v' → AgreeUpTo [] s v v'
  | element {s item : Schema} {elements elements' : List Value} {index : ℕ} {e e' : Value}
      {trail : Trail} :
      s.core = .array item → elements'.take index = elements.take index →
      elements[index]? = some e → elements'[index]? = some e' → AgreeUpTo trail item e e' →
      AgreeUpTo (.element index :: trail) s (.array elements) (.array elements')
  | declaration {s t : Schema} {fields : List (String × Schema)} {found found' : Fields}
      {index : ℕ} {name : String} {v v' : Value} {trail : Trail} :
      s.core = .object fields → fields[index]? = some (name, t) →
      (∀ other ∈ fields.take index, field? other.1 found' = field? other.1 found) →
      field? name found = some v → field? name found' = some v' → AgreeUpTo trail t v v' →
      AgreeUpTo (.declaration index name :: trail) s (.object found) (.object found')
  | missing {s : Schema} {fields : List (String × Schema)} {found found' : Fields}
      {index : ℕ} {name : String} :
      s.core = .object fields →
      (∀ other ∈ fields.take index, field? other.1 found' = field? other.1 found) →
      field? name found = none → field? name found' = none →
      AgreeUpTo [.declaration index name] s (.object found) (.object found')

theorem acceptsField_congr {found found' : Fields} {field : String × Schema}
    (h : field? field.1 found' = field? field.1 found) :
    AcceptsField found' field ↔ AcceptsField found field := by
  simp only [AcceptsField, fieldCast, h]

theorem validate_array_error_of_nil {s : Schema} {elements elements' : List Value}
    {expected actual : String} (h : s.validate (.array elements) = .error ⟨[], expected, actual⟩) :
    s.validate (.array elements') = .error ⟨[], expected, actual⟩ := by
  induction s with
  | any => cases h
  | array item =>
    -- inside the array there would be a step in the place
    obtain ⟨before, v, after, m', -, -, -, hm⟩ := validate_array_error_iff.mp h
    cases hm
  | optional inner ih => exact ih h
  | nullable inner ih => exact ih h
  | _ => exact h

theorem validate_object_error_of_nil {s : Schema} {found found' : Fields}
    {expected actual : String} (h : s.validate (.object found) = .error ⟨[], expected, actual⟩) :
    s.validate (.object found') = .error ⟨[], expected, actual⟩ := by
  induction s with
  | any => cases h
  | object fields =>
    obtain ⟨before, field, after, m', -, -, -, hm⟩ := validate_object_error_iff.mp h
    cases hm
  | optional inner ih => exact ih h
  | nullable inner ih => exact ih h
  | _ => exact h

/-- Whether a value is wrong by itself shows without looking inside. -/
theorem validate_error_of_sameFace {s : Schema} {v v' : Value} {expected actual : String}
    (h : s.validate v = .error ⟨[], expected, actual⟩) (hface : SameFace v v') :
    s.validate v' = .error ⟨[], expected, actual⟩ := by
  cases v with
  | array elements =>
    cases v' with
    | array elements' => exact validate_array_error_of_nil h
    | _ => cases hface
  | object found =>
    cases v' with
    | object found' => exact validate_object_error_of_nil h
    | _ => cases hface
  | _ =>
    cases hface
    exact h

/-- A value that agrees with another one up to its first failure fails there as well. -/
theorem FailsFirst.of_agreeUpTo {s : Schema} {v v' : Value} {trail : Trail}
    {expected actual : String} (h : FailsFirst s v trail expected actual)
    (hagree : AgreeUpTo trail s v v') : FailsFirst s v' trail expected actual := by
  have hearlier : ∀ {fields : List (String × Schema)} {found found' : Fields},
      (∀ other ∈ fields, AcceptsField found other) →
      (∀ other ∈ fields, field? other.1 found' = field? other.1 found) →
      ∀ other ∈ fields, AcceptsField found' other :=
    fun haccepts hsame other hmem =>
      (acceptsField_congr (hsame other hmem)).mpr (haccepts other hmem)
  induction h generalizing v' with
  | here h =>
    cases hagree with
    | here hface => exact .here (validate_error_of_sameFace h hface)
  | element hcore hbefore he _ ih =>
    cases hagree with
    | element hcore' htake he₁ he' hrest =>
      rw [hcore] at hcore'
      cases hcore'
      rw [he] at he₁
      cases he₁
      exact .element hcore (htake ▸ hbefore) he' (ih hrest)
  | declaration hcore hbefore ht hv _ ih =>
    cases hagree with
    | declaration hcore' ht' hsame hv₁ hv' hrest =>
      rw [hcore] at hcore'
      cases hcore'
      rw [ht] at ht'
      cases ht'
      rw [hv] at hv₁
      cases hv₁
      exact .declaration hcore (hearlier hbefore hsame) ht hv' (ih hrest)
    | missing _ _ hnone =>
      rw [hv] at hnone
      cases hnone
  | missing hcore hbefore ht hnone hm =>
    cases hagree with
    | declaration _ _ _ hv =>
      rw [hnone] at hv
      cases hv
    | missing hcore' hsame _ hnone' =>
      rw [hcore] at hcore'
      cases hcore'
      exact .missing hcore (hearlier hbefore hsame) ht hnone' hm

/-! ## §5 The report -/

/-- **The first mismatch.** The path of a report is that of a place at which the value is wrong by
itself or a declared field is missing, in the words of the report; everything before that place in
the order of the traversal is accepted; and every value that differs only behind it is reported in
the same way. -/
theorem report_first_mismatch {s : Schema} {v : Value} {m : Mismatch}
    (h : s.validate v = .error m) :
    ∃ trail : Trail, m.report.path = Place.written trail.place ∧
      (WrongAt s v trail m.report.expected m.report.actual ∨
        MissingAt s v trail m.report.expected m.report.actual) ∧
      EarlierAccepted s v trail ∧
      ∀ v', AgreeUpTo trail s v v' → ∃ m', s.validate v' = .error m' ∧ m'.report = m.report := by
  obtain ⟨trail, hplace, htrail⟩ := validate_error_iff.mp h
  refine ⟨trail, by rw [Mismatch.report, hplace], htrail.wrongAt_or_missingAt,
    htrail.earlierAccepted, fun v' hagree => ⟨m, ?_, rfl⟩⟩
  exact validate_error_iff.mpr ⟨trail, hplace, htrail.of_agreeUpTo hagree⟩

/-- Posts with comments, each of which has an author. -/
def commentAuthors : Schema :=
  .array (.object [("comments", .array (.object [("author", .string none)]))])

/-- Two posts. The second comment on the second one has no name for its author. -/
def unnamedAuthor : Value :=
  .array [
    .object [("comments", .array [.object [("author", .string "a")]])],
    .object [("comments",
      .array [.object [("author", .string "b")], .object [("author", .null)]])]]

theorem report_first_mismatch_unnamedAuthor :
    commentAuthors.validate unnamedAuthor = .error
        ⟨[.index 1, .field "comments", .index 1, .field "author"], "string", "null"⟩ ∧
      ∃ trail : Trail, "$[1].comments[1].author" = Place.written trail.place ∧
        (WrongAt commentAuthors unnamedAuthor trail "string" "null" ∨
          MissingAt commentAuthors unnamedAuthor trail "string" "null") ∧
        EarlierAccepted commentAuthors unnamedAuthor trail ∧
        ∀ v', AgreeUpTo trail commentAuthors unnamedAuthor v' →
          ∃ m', commentAuthors.validate v' = .error m' ∧
            m'.report = ⟨"$[1].comments[1].author", "string", "null"⟩ := by
  have herror : commentAuthors.validate unnamedAuthor = .error
      ⟨[.index 1, .field "comments", .index 1, .field "author"], "string", "null"⟩ := rfl
  have hpath : Place.written [.index 1, .field "comments", .index 1, .field "author"] =
      "$[1].comments[1].author" := by decide
  obtain ⟨trail, hplace, hwrong, hearlier, hbehind⟩ := report_first_mismatch herror
  rw [Mismatch.report, hpath] at hplace hbehind
  exact ⟨herror, trail, hplace, hwrong, hearlier, hbehind⟩

end Schema

end WebTrip
