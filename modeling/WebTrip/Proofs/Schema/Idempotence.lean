import WebTrip.Proofs.Schema.Integers

/-!
# Casts are their own casts

What a validation returns is accepted by the schema that made it, and comes back as it is. The
second pass takes other ways than the first: strings have become numbers, floats have become
integers, and undeclared fields are gone. Every cast of a number is a number that no cast changes
any more, and every field of a cast is the cast of a field.

A name that is declared twice breaks this, because the cast of its last declaration need not have
the shape of its first one.

## Main definitions

- `Schema.DistinctNames`: no object schema declares a name twice

## Main statements

- `Schema.validate_number_cast`: casts of numbers are final
- `Schema.fieldCast_cast`: a field of a cast is accepted as it is
- `Schema.validate_idempotent`: casts are their own casts
-/

namespace WebTrip.Schema

open WebTrip.Json WebTrip.Text

/-! ## §1 Distinct names -/

mutual

/-- No object schema, at any depth, declares a name twice. -/
def DistinctNames : Schema → Prop
  | .array item => item.DistinctNames
  | .object fields => (fields.map Prod.fst).Nodup ∧ DistinctNamesAll fields
  | .optional inner => inner.DistinctNames
  | .nullable inner => inner.DistinctNames
  | _ => True

/-- No schema of a declared field declares a name twice in an object schema. -/
def DistinctNamesAll : List (String × Schema) → Prop
  | [] => True
  | (_, s) :: rest => s.DistinctNames ∧ DistinctNamesAll rest

end

theorem DistinctNamesAll.of_mem {fields : List (String × Schema)} (h : DistinctNamesAll fields)
    {field : String × Schema} (hmem : field ∈ fields) : field.2.DistinctNames := by
  induction fields with
  | nil => cases hmem
  | cons first rest ih =>
    rcases List.mem_cons.mp hmem with rfl | hrest
    · exact h.1
    · exact ih h.2 hrest

/-- Where every name is declared once, each declaration is the one that decides its cast. -/
theorem declaration?_of_mem {fields : List (String × Schema)} (h : (fields.map Prod.fst).Nodup)
    {name : String} {s : Schema} (hmem : (name, s) ∈ fields) :
    declaration? fields name = some s := by
  induction fields with
  | nil => cases hmem
  | cons first rest ih =>
    rw [List.map_cons, List.nodup_cons] at h
    rw [declaration?_cons]
    rcases List.mem_cons.mp hmem with rfl | hrest
    · -- the other fields have other names
      have hnone : declaration? rest name = none := by
        rw [Option.eq_none_iff_forall_ne_some]
        intro t ht
        exact h.1 (List.mem_map.mpr ⟨_, mem_of_declaration? ht, rfl⟩)
      rw [hnone, if_pos rfl, Option.none_or]
    · rw [ih h.2 hrest, Option.some_or]

/-! ## §2 Scalars -/

/-- A cast of a number is final: an integer, or a float that the schema leaves as it is. -/
theorem validate_number_cast {numeric integer : Bool} {v w : Value}
    (h : (Schema.number numeric integer).validate v = .ok w) :
    (Schema.number numeric integer).validate w = .ok w := by
  cases integer with
  | true =>
    rcases (integer_cast_iff numeric v w).mp h with ⟨n, fits, -, -, rfl⟩ | ⟨x, hlarge, -, rfl⟩
    · rfl
    · exact (integer_cast_iff numeric _ _).mpr (.inr ⟨x, hlarge, rfl, rfl⟩)
  | false =>
    -- without the restriction to integers every number is its own cast
    have hfinal : ∀ n : Number,
        (Schema.number numeric false).validate (.number n) = .ok (.number n) := by
      intro n
      cases n <;> rfl
    have hnumber : ∃ n, w = .number n := by
      cases v with
      | number n =>
        rw [hfinal n] at h
        exact ⟨n, (Except.ok.inj h).symm⟩
      | string text =>
        rw [validate_number_string] at h
        split_ifs at h
        cases hn : numberOfText? false text with
        | none =>
          rw [hn] at h
          cases h
        | some n =>
          rw [hn] at h
          exact ⟨n, (Except.ok.inj h).symm⟩
      | _ => cases h
    obtain ⟨n, rfl⟩ := hnumber
    exact hfinal n

/-- The cast of a string is the string. -/
theorem eq_of_validate_string {pattern : Option Pattern} {v w : Value}
    (h : (Schema.string pattern).validate v = .ok w) : w = v := by
  cases v with
  | string text =>
    rw [validate_string] at h
    split_ifs at h
    exact (Except.ok.inj h).symm
  | _ => cases h

theorem eq_of_validate_boolean {v w : Value} (h : Schema.boolean.validate v = .ok w) : w = v := by
  cases v with
  | bool b => exact (Except.ok.inj h).symm
  | _ => cases h

/-! ## §3 Objects -/

section Object

variable {fields : List (String × Schema)} {found casts : Fields}

/-- In the cast of an object every declared name has the cast of its field, if it has one. -/
theorem field?_cast (hnames : (fields.map Prod.fst).Nodup)
    (hlookup : ∀ name, field? name casts = castOf? fields found name) {name : String} {s : Schema}
    (hmem : (name, s) ∈ fields) {cast : Option Value}
    (hcast : fieldCast found (name, s) = .ok cast) : field? name casts = cast := by
  rw [hlookup, castOf?, declaration?_of_mem hnames hmem, Option.bind_some, hcast]
  rfl

/-- A field that is accepted in an object is accepted in its cast, and as it is there. -/
theorem fieldCast_cast {name : String} {s : Schema} {cast : Option Value}
    (ih : ∀ {v w}, s.validate v = .ok w → s.validate w = .ok w)
    (hcast : fieldCast found (name, s) = .ok cast) (hfield : field? name casts = cast) :
    fieldCast casts (name, s) = .ok cast := by
  unfold fieldCast at hcast ⊢
  simp only [hfield]
  cases hfound : field? name found with
  | some v =>
    -- a field that was present has been replaced by its cast
    simp only [hfound, map_eq_ok_iff] at hcast
    obtain ⟨c, hc, rfl⟩ := hcast
    simp only [ih hc]
    rfl
  | none =>
    -- a field that was absent still is
    simp only [hfound] at hcast
    split_ifs at hcast with hmissing
    obtain rfl : cast = none := (Except.ok.inj hcast).symm
    simp only [if_pos hmissing]

/-- The cast of an object whose declared fields' casts are final is final. -/
theorem validate_object_cast (hnames : (fields.map Prod.fst).Nodup)
    (ih : ∀ field ∈ fields, ∀ {v w}, field.2.validate v = .ok w → field.2.validate w = .ok w)
    {w : Value} (h : (Schema.object fields).validate (.object found) = .ok w) :
    (Schema.object fields).validate w = .ok w := by
  obtain ⟨haccepts, casts, rfl, hascending, hlookup⟩ := validate_object_ok_iff.mp h
  -- each declared field has one outcome, in the object and in its cast
  have hsame : ∀ field ∈ fields, fieldCast casts field = fieldCast found field := by
    intro field hmem
    obtain ⟨cast, hcast⟩ := haccepts field hmem
    have hfield := field?_cast hnames hlookup hmem hcast
    rw [hcast]
    exact fieldCast_cast (ih field hmem) hcast hfield
  refine validate_object_ok_iff.mpr ⟨?_, casts, rfl, hascending, ?_⟩
  · intro field hmem
    obtain ⟨cast, hcast⟩ := haccepts field hmem
    exact ⟨cast, (hsame field hmem).trans hcast⟩
  · intro name
    rw [hlookup, castOf?, castOf?]
    cases hs : declaration? fields name with
    | none => rfl
    | some s => rw [Option.bind_some, Option.bind_some, hsame _ (mem_of_declaration? hs)]

end Object

/-! ## §4 All schemas -/

/-- **Idempotence.** Where no object schema declares a name twice, a cast is accepted by the schema
that made it, and is its own cast. -/
theorem validate_idempotent {s : Schema} (hs : s.DistinctNames) {v w : Value}
    (h : s.validate v = .ok w) : s.validate w = .ok w := by
  induction s generalizing v w with
  | any => rfl
  | string pattern =>
    obtain rfl := eq_of_validate_string h
    exact h
  | number numeric integer => exact validate_number_cast h
  | boolean =>
    obtain rfl := eq_of_validate_boolean h
    exact h
  | array item ih =>
    cases v with
    | array elements =>
      obtain ⟨casts, rfl, hcasts⟩ := validate_array_ok_iff.mp h
      refine validate_array_ok_iff.mpr ⟨casts, rfl, ?_⟩
      -- along the pairs of elements and casts, every cast is paired with itself
      clear h
      induction hcasts with
      | nil => exact .nil
      | cons he _ htail => exact .cons (ih hs he) htail
    | _ => cases h
  | object fields ih =>
    cases v with
    | object found =>
      exact validate_object_cast hs.1 (fun field hmem => ih field hmem (hs.2.of_mem hmem)) h
    | _ => cases h
  | optional inner ih => exact ih hs h
  | nullable inner ih =>
    cases v with
    | null =>
      cases h
      rfl
    | _ =>
      -- a cast that is null is accepted at once, any other by the wrapped schema
      have hw := ih hs h
      cases w with
      | null => rfl
      | _ => exact hw

/-- Posts with a title, a count that may be spelled out, and a whole score. -/
def postCounts : Schema :=
  .array (.object [("title", .string none), ("views", .nullable (.number true true)),
    ("score", .optional (.number false true))])

/-- A post with its count in a string, its score in a float, and a field of its own. -/
def spelledCounts : Value :=
  .array [.object [("score", .number (.float ⟨false, 6755399441055744, -51, by decide⟩)),
    ("section", .null), ("title", .string "t"), ("views", .string " 1204 ")]]

/-- The same post with integers. -/
def castCounts : Value :=
  .array [.object [("score", .number (.integer 3 (by decide))), ("title", .string "t"),
    ("views", .number (.integer 1204 (by decide)))]]

theorem validate_idempotent_postCounts :
    postCounts.DistinctNames ∧ postCounts.validate spelledCounts = .ok castCounts ∧
      postCounts.validate castCounts = .ok castCounts := by
  have hnames : postCounts.DistinctNames := by
    simp [postCounts, DistinctNames, DistinctNamesAll]
  have hcast : postCounts.validate spelledCounts = .ok castCounts := by rfl
  exact ⟨hnames, hcast, validate_idempotent hnames hcast⟩

end WebTrip.Schema
