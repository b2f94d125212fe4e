import WebTrip.Proofs.Schema.Traversal

/-!
# Schemas in their surroundings

A schema may stand at any spot of another one: as the item of an array, as a field of an object, or
under wrappers. Two schemas that give every value the same outcome do so at each such spot, provided
that an object may do without a field of the one schema whenever it may do without a field of the
other: that is asked of the schema itself, and its outcomes do not show it.

How much of a mismatch counts as the same outcome is left open. The words for what was expected do
not, because they name the schema, and where they are reported is moved along by every container.

## Main definitions

- `Schema.Context`: a schema with one open spot, and `Schema.Context.fill`, the schema with a
  schema at this spot
- `Schema.SameOutcome`: two outcomes have the same cast, or related mismatches
- `Schema.Interchangeable`: two schemas that nothing around them can tell apart

## Main statements

- `Schema.Interchangeable.fill`: schemas that are interchangeable are so at every spot
-/

namespace WebTrip.Schema

open WebTrip.Json

/-! ## §1 Contexts -/

/-- A schema with one open spot. -/
inductive Context where
  | hole
  | array (item : Context)
  /-- The open spot is in one of the fields. -/
  | object (before : List (String × Schema)) (name : String) (field : Context)
      (after : List (String × Schema))
  | optional (inner : Context)
  | nullable (inner : Context)

/-- The schema that comes of putting a schema at the open spot. -/
def Context.fill : Context → Schema → Schema
  | hole, s => s
  | array item, s => .array (item.fill s)
  | object before name field after, s => .object (before ++ (name, field.fill s) :: after)
  | optional inner, s => .optional (inner.fill s)
  | nullable inner, s => .nullable (inner.fill s)

/-! ## §2 Outcomes -/

/-- Two outcomes have the same cast, or mismatches in a relation. -/
inductive SameOutcome {α : Type} (E : Mismatch → Mismatch → Prop) :
    Except Mismatch α → Except Mismatch α → Prop where
  | ok (a : α) : SameOutcome E (.ok a) (.ok a)
  | error {m m' : Mismatch} : E m m' → SameOutcome E (.error m) (.error m')

/-- The relation has no regard for what was expected, and a container keeps it. -/
structure Forgetful (E : Mismatch → Mismatch → Prop) : Prop where
  words {m m' : Mismatch} : m.place = m'.place → m.actual = m'.actual → E m m'
  under {m m' : Mismatch} (p : Place) : E m m' → E (m.under p) (m'.under p)

section Outcome

variable {α β : Type} {E : Mismatch → Mismatch → Prop} {x y : Except Mismatch α}

theorem SameOutcome.refl (hE : Forgetful E) (x : Except Mismatch α) : SameOutcome E x x := by
  cases x with
  | ok a => exact .ok a
  | error m => exact .error (hE.words rfl rfl)

theorem SameOutcome.ok_iff (h : SameOutcome E x y) (a : α) : x = .ok a ↔ y = .ok a := by
  cases h with
  | ok => exact Iff.rfl
  | error => exact ⟨nofun, nofun⟩

theorem SameOutcome.exists_error (h : SameOutcome E x y) {m : Mismatch} (hm : x = .error m) :
    ∃ m', y = .error m' ∧ E m m' := by
  cases h with
  | ok => cases hm
  | error h =>
    cases hm
    exact ⟨_, rfl, h⟩

/-- Outcomes with the same casts differ in their mismatches only. -/
theorem sameOutcome_of_ok_iff (h : ∀ a, x = .ok a ↔ y = .ok a) :
    SameOutcome (fun _ _ => True) x y := by
  cases x with
  | ok a =>
    obtain rfl := (h a).mp rfl
    exact .ok a
  | error m =>
    cases y with
    | ok b => exact absurd ((h b).mpr rfl) nofun
    | error m' => exact .error trivial

theorem SameOutcome.map (h : SameOutcome E x y) (f : α → β) :
    SameOutcome E (x.map f) (y.map f) := by
  cases h with
  | ok a => exact .ok (f a)
  | error hm => exact .error hm

theorem SameOutcome.bind (h : SameOutcome E x y) {f g : α → Except Mismatch β}
    (hfg : ∀ a, SameOutcome E (f a) (g a)) : SameOutcome E (x >>= f) (y >>= g) := by
  cases h with
  | ok a => exact hfg a
  | error hm => exact .error hm

theorem SameOutcome.under (hE : Forgetful E) (h : SameOutcome E x y) (p : Place) :
    SameOutcome E (x.mapError (·.under p)) (y.mapError (·.under p)) := by
  cases h with
  | ok a => exact .ok a
  | error hm => exact .error (hE.under p hm)

end Outcome

/-! ## §3 Interchangeable schemas -/

/-- The schemas give every value the same outcome, and a field of the one may be absent if a field
of the other may. -/
structure Interchangeable (E : Mismatch → Mismatch → Prop) (s t : Schema) : Prop where
  value : ∀ v, SameOutcome E (s.validate v) (t.validate v)
  missing : s.acceptsMissing = t.acceptsMissing

section Interchangeable

variable {E : Mismatch → Mismatch → Prop} {s t : Schema}

theorem Interchangeable.refl (hE : Forgetful E) (s : Schema) : Interchangeable E s s :=
  ⟨fun v => .refl hE (s.validate v), rfl⟩

/-- Checks with the same outcomes have one for all elements together. -/
theorem checkElements_sameOutcome {f g : ℕ → Value → Except Mismatch Value}
    (h : ∀ index v, SameOutcome E (f index v) (g index v)) (start : ℕ) (elements : List Value) :
    SameOutcome E (checkElements f start elements) (checkElements g start elements) := by
  induction elements generalizing start with
  | nil => exact .ok []
  | cons v rest ih =>
    rw [checkElements, checkElements]
    exact (h start v).bind fun c => (ih (start + 1)).bind fun casts => .ok (c :: casts)

/-- A declared field has the same outcome under schemas that are interchangeable, be it present or
absent. -/
theorem Interchangeable.fieldCast (hE : Forgetful E) (h : Interchangeable E s t) (found : Fields)
    (name : String) :
    SameOutcome E (fieldCast found (name, s)) (fieldCast found (name, t)) := by
  unfold Schema.fieldCast
  cases hv : field? name found with
  | some v => exact (h.value v).map some
  | none =>
    -- a missing field is reported in words of its own schema
    simp only [h.missing]
    split_ifs
    · exact .ok none
    · exact .error (hE.words rfl rfl)

/-- One declaration of an object may be exchanged. -/
theorem checkFields_sameOutcome (hE : Forgetful E) {found : Fields} {name : String}
    (h : SameOutcome E (fieldCast found (name, s)) (fieldCast found (name, t)))
    (before after : List (String × Schema)) (casts : Fields) :
    SameOutcome E (checkFields [] found casts (before ++ (name, s) :: after))
      (checkFields [] found casts (before ++ (name, t) :: after)) := by
  induction before generalizing casts with
  | nil =>
    rw [List.nil_append, List.nil_append, checkFields_cons, checkFields_cons]
    generalize Schema.fieldCast found (name, s) = x at h ⊢
    generalize Schema.fieldCast found (name, t) = y at h ⊢
    cases h with
    | error hm => exact .error (hE.under [.field name] hm)
    | ok cast => cases cast <;> exact .refl hE _
  | cons first before ih =>
    rw [List.cons_append, List.cons_append, checkFields_cons, checkFields_cons]
    cases fieldCast found first with
    | error m => exact .error (hE.words rfl rfl)
    | ok cast =>
      cases cast with
      | none => exact ih casts
      | some c => exact ih (insert first.1 c casts)

/-- **Congruence.** Schemas that are interchangeable are so at every spot of every schema. -/
theorem Interchangeable.fill (hE : Forgetful E) (h : Interchangeable E s t) (c : Context) :
    Interchangeable E (c.fill s) (c.fill t) := by
  induction c with
  | hole => exact h
  | array item ih =>
    refine ⟨fun v => ?_, rfl⟩
    cases v with
    | array elements =>
      simp only [Context.fill, validate_array]
      refine (checkElements_sameOutcome (fun index v => ?_) 0 elements).map Value.array
      exact (ih.value v).under hE [.index index]
    -- other values are rejected before the item is asked
    | _ => exact .error (hE.words rfl rfl)
  | object before name field after ih =>
    refine ⟨fun v => ?_, rfl⟩
    cases v with
    | object found =>
      simp only [Context.fill, validate_object]
      exact (checkFields_sameOutcome hE (ih.fieldCast hE found name) before after []).map _
    | _ => exact .error (hE.words rfl rfl)
  | optional inner ih =>
    -- the field may be absent, whatever is inside
    exact ⟨ih.value, rfl⟩
  | nullable inner ih =>
    refine ⟨fun v => ?_, ih.missing⟩
    by_cases hv : v = .null
    · subst hv
      exact .ok Value.null
    · simp only [Context.fill, validate_nullable_of_ne hv]
      exact ih.value v

end Interchangeable

end WebTrip.Schema
