import Mathlib.Tactic.SplitIfs
import WebTrip.Proofs.Json.Fields
import WebTrip.Proofs.Schema.Walks

/-!
# Validation, part by part

How the outcome of a validation is put together from the outcomes for the parts of the value. The
place at which a value stands only ever shows in the mismatch, as a prefix, so that everything can
be said about `Schema.validate`.

## Main statements

- `Schema.check_eq_validate`: the place is a prefix of the mismatch's place
- `Schema.validate_nullable_of_ne`: the wrapper that allows null looks at nothing else
- `Schema.validate_array_ok_iff`, `Schema.validate_object_ok_iff`: when containers are accepted
- `Schema.validate_array_error_iff`, `Schema.validate_object_error_iff`: when they are rejected
-/

namespace WebTrip

open WebTrip.Json WebTrip.Text

/-! ## §1 Outcomes -/

section Outcome

variable {ε ε' α β : Type} {x : Except ε α}

@[simp] theorem map_eq_ok_iff {f : α → β} {b : β} :
    x.map f = .ok b ↔ ∃ a, x = .ok a ∧ f a = b := by
  cases x <;> simp [Except.map]

@[simp] theorem map_eq_error_iff {f : α → β} {e : ε} : x.map f = .error e ↔ x = .error e := by
  cases x <;> simp [Except.map]

@[simp] theorem mapError_eq_ok_iff {f : ε → ε'} {a : α} : x.mapError f = .ok a ↔ x = .ok a := by
  cases x <;> simp [Except.mapError]

@[simp] theorem mapError_eq_error_iff {f : ε → ε'} {e : ε'} :
    x.mapError f = .error e ↔ ∃ cause, x = .error cause ∧ f cause = e := by
  cases x <;> simp [Except.mapError]

end Outcome

/-! ## §2 Places -/

/-- The mismatch of a part that stands at a place, as a mismatch of the whole. -/
def Mismatch.under (place : Place) (m : Mismatch) : Mismatch :=
  { m with place := place ++ m.place }

@[simp] theorem Mismatch.under_nil (m : Mismatch) : m.under [] = m := rfl

namespace Schema

theorem mismatch_append (s : Schema) (p q : Place) (actual : String) :
    s.mismatch (p ++ q) actual = (s.mismatch q actual).under p := rfl

/-- Checks that differ by a prefix of places do so for all elements together. -/
theorem checkElements_under {f g : Nat → Value → Except Mismatch Value} {p : Place}
    (h : ∀ index v, f index v = (g index v).mapError (·.under p)) (start : Nat)
    (elements : List Value) :
    checkElements f start elements = (checkElements g start elements).mapError (·.under p) := by
  induction elements generalizing start with
  | nil => rfl
  | cons v rest ih =>
    rw [checkElements, checkElements, h, ih]
    cases g start v with
    | error m => rfl
    | ok cast => cases checkElements g (start + 1) rest <;> rfl

theorem checkFields_under {p q : Place} {found : Fields} {fields : List (String × Schema)}
    (h : ∀ field ∈ fields, ∀ q v,
      check (p ++ q) field.2 v = (check q field.2 v).mapError (·.under p)) (casts : Fields) :
    checkFields (p ++ q) found casts fields =
      (checkFields q found casts fields).mapError (·.under p) := by
  induction fields generalizing casts with
  | nil => rfl
  | cons field rest ih =>
    obtain ⟨name, s⟩ := field
    obtain ⟨hs, hrest⟩ := List.forall_mem_cons.mp h
    rw [checkFields, checkFields]
    cases field? name found with
    | none =>
      by_cases hm : s.acceptsMissing = true
      · simp only [hm, if_true, ih hrest]
      · simp only [hm, if_false, Bool.false_eq_true, List.append_assoc, mismatch_append]
        rfl
    | some v =>
      simp only [List.append_assoc, hs]
      cases check (q ++ [.field name]) s v with
      | error m => rfl
      | ok cast => exact ih hrest _

/-- A place in front of another one is a prefix of the mismatch's place. -/
theorem check_append (p q : Place) (s : Schema) (v : Value) :
    check (p ++ q) s v = (check q s v).mapError (·.under p) := by
  induction s generalizing q v with
  | any => rfl
  | string pattern =>
    cases v with
    | string text =>
      rw [check_string, check_string]
      split_ifs <;> rfl
    | _ => rfl
  | number numeric integer =>
    cases v with
    | number n =>
      cases n with
      | integer => rfl
      | float x =>
        rw [check_number_float, check_number_float]
        split_ifs
        · cases castFloat? x <;> rfl
        · rfl
    | string text =>
      rw [check_number_string, check_number_string]
      split_ifs
      · cases numberOfText? integer text <;> rfl
      · rfl
    | _ => rfl
  | boolean => cases v <;> rfl
  | array item ih =>
    cases v with
    | array elements =>
      have helements := checkElements_under
        (f := fun index v => check (p ++ (q ++ [.index index])) item v)
        (fun index v => ih (q ++ [.index index]) v) 0 elements
      simp only [check_array, List.append_assoc, helements]
      cases checkElements (fun index v => check (q ++ [.index index]) item v) 0 elements <;> rfl
    | _ => rfl
  | object fields ih =>
    cases v with
    | object found =>
      simp only [check_object, checkFields_under ih]
      cases checkFields q found [] fields <;> rfl
    | _ => rfl
  | optional inner ih => exact ih q v
  | nullable inner ih =>
    cases v with
    | null => rfl
    | _ => exact ih q _

/-- **Places.** A check at a place is a validation whose mismatch is reported under that place. -/
theorem check_eq_validate (place : Place) (s : Schema) (v : Value) :
    check place s v = (s.validate v).mapError (·.under place) := by
  simpa [validate_eq_check] using check_append place [] s v

/-! ## §3 Strings and numbers -/

theorem validate_string (pattern : Option Pattern) (text : String) :
    (Schema.string pattern).validate (.string text) =
      if pattern.all (·.isMatch text) then .ok (.string text)
      else .error (mismatch (.string pattern) [] (quoted text)) :=
  check_string [] pattern text

theorem validate_number_float (numeric integer : Bool) (x : Double) :
    (Schema.number numeric integer).validate (.number (.float x)) =
      if integer then
        match castFloat? x with
        | some n => .ok (.number n)
        | none => .error (mismatch (.number numeric integer) [] ("number " ++ x.written))
      else .ok (.number (.float x)) :=
  check_number_float [] numeric integer x

theorem validate_number_string (numeric integer : Bool) (text : String) :
    (Schema.number numeric integer).validate (.string text) =
      if numeric then
        match numberOfText? integer text with
        | some n => .ok (.number n)
        | none => .error (mismatch (.number numeric integer) [] ("string " ++ quoted text))
      else .error (mismatch (.number numeric integer) [] "string") :=
  check_number_string [] numeric integer text

/-! ## §4 Acceptance -/

/-- The schema accepts the value: there is a cast of it. -/
def Accepts (s : Schema) (v : Value) : Prop :=
  ∃ w, s.validate v = .ok w

/-- A schema that allows null passes on every other value. -/
theorem validate_nullable_of_ne {v : Value} (h : v ≠ .null) (inner : Schema) :
    (Schema.nullable inner).validate v = inner.validate v := by
  cases v with
  | null => exact absurd rfl h
  | _ => rfl

theorem accepts_nullable_of_ne {v : Value} (h : v ≠ .null) (inner : Schema) :
    (Schema.nullable inner).Accepts v ↔ inner.Accepts v := by
  rw [Accepts, Accepts, validate_nullable_of_ne h]

/-- The outcome for one declared field of an object: the cast of its value, or nothing if the field
is absent and may be so. -/
def fieldCast (found : Fields) (field : String × Schema) : Except Mismatch (Option Value) :=
  match field? field.1 found with
  | some v => (field.2.validate v).map some
  | none =>
    if field.2.acceptsMissing then .ok none else .error (field.2.mismatch [] "missing")

/-- An object has a declared field in its declared shape, or may do without it. -/
def AcceptsField (found : Fields) (field : String × Schema) : Prop :=
  ∃ cast, fieldCast found field = .ok cast

/-- A field that is present is accepted like any value. -/
theorem acceptsField_of_present {found : Fields} {name : String} {s : Schema} {v : Value}
    (h : field? name found = some v) : AcceptsField found (name, s) ↔ s.Accepts v := by
  simp only [AcceptsField, Accepts, fieldCast, h, map_eq_ok_iff]
  exact ⟨fun ⟨_, c, hc, _⟩ => ⟨c, hc⟩, fun ⟨c, hc⟩ => ⟨some c, c, hc, rfl⟩⟩

/-- A field that is absent is accepted if its schema accepts that. -/
theorem acceptsField_of_absent {found : Fields} {name : String} {s : Schema}
    (h : field? name found = none) :
    AcceptsField found (name, s) ↔ s.acceptsMissing = true := by
  simp only [AcceptsField, fieldCast, h]
  cases s.acceptsMissing <;> simp

/-! ## §5 Arrays -/

theorem checkElements_cons_ok_iff {f : Nat → Value → Except Mismatch Value} {start : Nat}
    {v : Value} {rest casts : List Value} :
    checkElements f start (v :: rest) = .ok casts ↔
      ∃ c others, f start v = .ok c ∧ checkElements f (start + 1) rest = .ok others ∧
        casts = c :: others := by
  rw [checkElements]
  cases f start v with
  | error m => simp [bind, Except.bind]
  | ok c =>
    cases checkElements f (start + 1) rest <;> simp [bind, Except.bind, pure, Except.pure, eq_comm]

theorem checkElements_cons_error_iff {f : Nat → Value → Except Mismatch Value} {start : Nat}
    {v : Value} {rest : List Value} {m : Mismatch} :
    checkElements f start (v :: rest) = .error m ↔
      f start v = .error m ∨
        (∃ c, f start v = .ok c) ∧ checkElements f (start + 1) rest = .error m := by
  rw [checkElements]
  cases f start v with
  | error m => simp [bind, Except.bind]
  | ok c => cases checkElements f (start + 1) rest <;> simp [bind, Except.bind, pure, Except.pure]

/-- The array's elements are validated from left to right, each under its index. -/
theorem validate_array (item : Schema) (elements : List Value) :
    (Schema.array item).validate (.array elements) =
      (checkElements (fun index v => (item.validate v).mapError (·.under [.index index])) 0
        elements).map .array := by
  simp only [← check_eq_validate]
  exact check_array [] item elements

/-- An array is accepted if its elements are, and its cast has their casts in order. -/
theorem validate_array_ok_iff {item : Schema} {elements : List Value} {w : Value} :
    (Schema.array item).validate (.array elements) = .ok w ↔
      ∃ casts, w = .array casts ∧
        List.Forall₂ (fun v c => item.validate v = .ok c) elements casts := by
  have hall : ∀ start casts,
      checkElements (fun index v => (item.validate v).mapError (·.under [.index index])) start
          elements = .ok casts ↔
        List.Forall₂ (fun v c => item.validate v = .ok c) elements casts := by
    induction elements with
    | nil => intro _ casts; cases casts <;> simp [checkElements]
    | cons v rest ih =>
      intro start casts
      simp only [checkElements_cons_ok_iff, mapError_eq_ok_iff, ih, List.forall₂_cons_left_iff]
  simp only [validate_array, map_eq_ok_iff, hall]
  constructor
  · rintro ⟨casts, hcasts, rfl⟩
    exact ⟨casts, rfl, hcasts⟩
  · rintro ⟨casts, rfl, hcasts⟩
    exact ⟨casts, hcasts, rfl⟩

/-- An array is rejected at its first element that is. -/
theorem validate_array_error_iff {item : Schema} {elements : List Value} {m : Mismatch} :
    (Schema.array item).validate (.array elements) = .error m ↔
      ∃ before v after m', elements = before ++ v :: after ∧ (∀ e ∈ before, item.Accepts e) ∧
        item.validate v = .error m' ∧ m = m'.under [.index before.length] := by
  have hfirst : ∀ start,
      checkElements (fun index v => (item.validate v).mapError (·.under [.index index])) start
          elements = .error m ↔
        ∃ before v after m', elements = before ++ v :: after ∧ (∀ e ∈ before, item.Accepts e) ∧
          item.validate v = .error m' ∧ m = m'.under [.index (start + before.length)] := by
    induction elements with
    | nil => simp [checkElements]
    | cons v rest ih =>
      intro start
      simp only [checkElements_cons_error_iff, mapError_eq_error_iff, mapError_eq_ok_iff, ih]
      constructor
      · rintro (⟨m', hv, hm⟩ | ⟨hv, before, e, after, m', rfl, hbefore, he, hm⟩)
        · exact ⟨[], v, rest, m', rfl, by simp, hv, hm.symm⟩
        · refine ⟨v :: before, e, after, m', rfl, List.forall_mem_cons.mpr ⟨hv, hbefore⟩, he, ?_⟩
          rw [hm, List.length_cons, Nat.add_right_comm, Nat.add_assoc]
      · rintro ⟨before, e, after, m', hsplit, hbefore, he, hm⟩
        cases before with
        | nil =>
          obtain ⟨rfl, rfl⟩ := List.cons.inj hsplit
          exact Or.inl ⟨m', he, hm.symm⟩
        | cons first before =>
          obtain ⟨rfl, rfl⟩ := List.cons.inj hsplit
          obtain ⟨hv, hbefore⟩ := List.forall_mem_cons.mp hbefore
          refine Or.inr ⟨hv, before, e, after, m', rfl, hbefore, he, ?_⟩
          rw [hm, List.length_cons, Nat.add_right_comm, Nat.add_assoc]
  simpa only [validate_array, map_eq_error_iff, Nat.zero_add] using hfirst 0

/-- An array is accepted if all its elements are. -/
theorem accepts_array_iff {item : Schema} {elements : List Value} :
    (Schema.array item).Accepts (.array elements) ↔ ∀ e ∈ elements, item.Accepts e := by
  constructor
  · rintro ⟨w, hw⟩ e he
    obtain ⟨casts, -, hall⟩ := validate_array_ok_iff.mp hw
    obtain ⟨hlength, hget⟩ := List.forall₂_iff_get.mp hall
    obtain ⟨index, rfl⟩ := List.mem_iff_get.mp he
    exact ⟨_, hget index index.2 (hlength ▸ index.2)⟩
  · intro hall
    cases hv : (Schema.array item).validate (.array elements) with
    | ok w => exact ⟨w, hv⟩
    | error m =>
      obtain ⟨before, v, after, m', rfl, -, hm', -⟩ := validate_array_error_iff.mp hv
      obtain ⟨w, hw⟩ := hall v (List.mem_append_right _ (List.mem_cons_self ..))
      rw [hm'] at hw
      cases hw

/-! ## §6 Objects -/

/-- The declaration of a name that decides its cast: the last one. -/
def declaration? (fields : List (String × Schema)) (name : String) : Option Schema :=
  fields.reverse.lookup name

/-- The cast of a declared field, by its last declaration. -/
def castOf? (fields : List (String × Schema)) (found : Fields) (name : String) : Option Value :=
  (declaration? fields name).bind fun s => (fieldCast found (name, s)).toOption.join

/-- The object's declared fields are validated in order. -/
theorem validate_object (fields : List (String × Schema)) (found : Fields) :
    (Schema.object fields).validate (.object found) =
      (checkFields [] found [] fields).map .object :=
  check_object [] fields found

/-- One step through the declared fields. -/
theorem checkFields_cons (place : Place) (found casts : Fields) (field : String × Schema)
    (rest : List (String × Schema)) :
    checkFields place found casts (field :: rest) =
      match fieldCast found field with
      | .error m => .error (m.under (place ++ [.field field.1]))
      | .ok none => checkFields place found casts rest
      | .ok (some c) => checkFields place found (insert field.1 c casts) rest := by
  obtain ⟨name, s⟩ := field
  rw [checkFields, fieldCast]
  cases field? name found with
  | none =>
    by_cases hm : s.acceptsMissing = true
    · simp only [hm, if_true]
    · simp only [hm, if_false, Bool.false_eq_true]
      rw [← mismatch_append, List.append_nil]
  | some v =>
    simp only [check_eq_validate]
    cases s.validate v <;> rfl

theorem declaration?_cons (field : String × Schema) (rest : List (String × Schema))
    (name : String) : declaration? (field :: rest) name =
      (declaration? rest name).or (if name = field.1 then some field.2 else none) := by
  rw [declaration?, List.reverse_cons, List.lookup_append, lookup_cons_ite, List.lookup_nil,
    declaration?]

theorem mem_of_declaration? {fields : List (String × Schema)} {name : String} {s : Schema}
    (h : declaration? fields name = some s) : (name, s) ∈ fields :=
  List.mem_reverse.mp (mem_of_lookup_eq_some h)

/-- The fields that are present have casts, and no others. -/
theorem isSome_of_fieldCast {found : Fields} {field : String × Schema} {cast : Option Value}
    (h : fieldCast found field = .ok cast) : cast.isSome = (field? field.1 found).isSome := by
  rw [fieldCast] at h
  cases hfound : field? field.1 found with
  | none =>
    rw [hfound] at h
    cases hm : field.2.acceptsMissing <;> simp [hm] at h
    simp [← h]
  | some v =>
    simp only [hfound, map_eq_ok_iff] at h
    obtain ⟨c, -, rfl⟩ := h
    rfl

/-- Casts of accepted fields come from the last declaration, so the first one matters only for a
name that is not declared again. -/
theorem castOf?_cons {found : Fields} {field : String × Schema} {rest : List (String × Schema)}
    {cast : Option Value} (hcast : fieldCast found field = .ok cast)
    (hrest : ∀ other ∈ rest, AcceptsField found other) (name : String) :
    castOf? (field :: rest) found name =
      (castOf? rest found name).or (if name = field.1 then cast else none) := by
  rw [castOf?, declaration?_cons, castOf?]
  cases hs : declaration? rest name with
  | none =>
    by_cases hn : name = field.1
    · subst hn
      simp [hcast, Except.toOption]
    · simp [hn]
  | some s =>
    obtain ⟨later, hlater⟩ := hrest _ (mem_of_declaration? hs)
    simp only [Option.some_or, Option.bind_some, hlater, Except.toOption, Option.join_some]
    cases later with
    | some c => rfl
    | none =>
      -- the name is absent, so that neither declaration has a cast
      have habsent := isSome_of_fieldCast hlater
      split_ifs with hn
      · have hfirst := isSome_of_fieldCast hcast
        simp only [← hn, ← habsent, Option.isSome_none, Option.isSome_eq_false_iff,
          Option.isNone_iff_eq_none] at hfirst
        rw [hfirst]
        rfl
      · rfl

/-- The casts of accepted fields: in order if they were so before, and each name with the cast of
its last declaration. -/
theorem checkFields_ok (place : Place) {found : Fields} {fields : List (String × Schema)}
    (h : ∀ field ∈ fields, AcceptsField found field) (casts : Fields) :
    ∃ out, checkFields place found casts fields = .ok out ∧ (Ascending casts → Ascending out) ∧
      ∀ name, field? name out = (castOf? fields found name).or (field? name casts) := by
  induction fields generalizing casts with
  | nil => exact ⟨casts, rfl, id, fun _ => rfl⟩
  | cons field rest ih =>
    obtain ⟨⟨cast, hcast⟩, hrest⟩ := List.forall_mem_cons.mp h
    cases cast with
    | none =>
      obtain ⟨out, hout, hasc, hlookup⟩ := ih hrest casts
      refine ⟨out, by rw [checkFields_cons, hcast]; exact hout, hasc, fun name => ?_⟩
      rw [hlookup, castOf?_cons hcast hrest]
      simp
    | some c =>
      obtain ⟨out, hout, hasc, hlookup⟩ := ih hrest (insert field.1 c casts)
      refine ⟨out, by rw [checkFields_cons, hcast]; exact hout, fun h => hasc h.insert, ?_⟩
      intro name
      rw [hlookup, castOf?_cons hcast hrest, Option.or_assoc, field?, lookup_insert]
      split_ifs <;> rfl

theorem acceptsField_of_checkFields_ok {place : Place} {found casts out : Fields}
    {fields : List (String × Schema)} (h : checkFields place found casts fields = .ok out) :
    ∀ field ∈ fields, AcceptsField found field := by
  induction fields generalizing casts with
  | nil => simp
  | cons field rest ih =>
    rw [checkFields_cons] at h
    cases hcast : fieldCast found field with
    | error m => simp [hcast] at h
    | ok cast =>
      refine List.forall_mem_cons.mpr ⟨⟨cast, hcast⟩, ?_⟩
      cases cast with
      | none => exact ih (by simpa only [hcast] using h)
      | some c => exact ih (by simpa only [hcast] using h)

theorem checkFields_error_iff {found : Fields} {fields : List (String × Schema)} {m : Mismatch}
    (casts : Fields) :
    checkFields [] found casts fields = .error m ↔
      ∃ before field after m', fields = before ++ field :: after ∧
        (∀ other ∈ before, AcceptsField found other) ∧ fieldCast found field = .error m' ∧
        m = m'.under [.field field.1] := by
  induction fields generalizing casts with
  | nil => simp [checkFields]
  | cons field rest ih =>
    rw [checkFields_cons]
    cases hcast : fieldCast found field with
    | error m' =>
      constructor
      · intro h
        exact ⟨[], field, rest, m', rfl, by simp, hcast, (Except.error.inj h).symm⟩
      · rintro ⟨before, other, after, m'', hsplit, hbefore, hother, rfl⟩
        cases before with
        | nil =>
          obtain ⟨rfl, rfl⟩ := List.cons.inj hsplit
          rw [hcast] at hother
          rw [Except.error.inj hother]
          rfl
        | cons first before =>
          obtain ⟨rfl, rfl⟩ := List.cons.inj hsplit
          obtain ⟨cast, hfirst⟩ := hbefore field (List.mem_cons_self ..)
          rw [hcast] at hfirst
          cases hfirst
    | ok cast =>
      -- an accepted field only moves the place of the first mismatch among the others
      have hshift : ∀ casts', checkFields [] found casts' rest = .error m ↔
          ∃ before other after m', field :: rest = before ++ other :: after ∧
            (∀ other ∈ before, AcceptsField found other) ∧ fieldCast found other = .error m' ∧
            m = m'.under [.field other.1] := by
        intro casts'
        rw [ih casts']
        constructor
        · rintro ⟨before, other, after, m', rfl, hbefore, hother, hm⟩
          exact ⟨field :: before, other, after, m', rfl,
            List.forall_mem_cons.mpr ⟨⟨cast, hcast⟩, hbefore⟩, hother, hm⟩
        · rintro ⟨before, other, after, m', hsplit, hbefore, hother, hm⟩
          cases before with
          | nil =>
            obtain ⟨rfl, rfl⟩ := List.cons.inj hsplit
            rw [hcast] at hother
            cases hother
          | cons first before =>
            obtain ⟨rfl, rfl⟩ := List.cons.inj hsplit
            exact ⟨before, other, after, m', rfl, (List.forall_mem_cons.mp hbefore).2, hother, hm⟩
      cases cast with
      | none => exact hshift casts
      | some c => exact hshift (insert field.1 c casts)

/-- An object is accepted if its declared fields are, and its cast has their casts in order. -/
theorem validate_object_ok_iff {fields : List (String × Schema)} {found : Fields} {w : Value} :
    (Schema.object fields).validate (.object found) = .ok w ↔
      (∀ field ∈ fields, AcceptsField found field) ∧ ∃ casts, w = .object casts ∧
        Ascending casts ∧ ∀ name, field? name casts = castOf? fields found name := by
  simp only [validate_object, map_eq_ok_iff]
  constructor
  · rintro ⟨casts, hcasts, rfl⟩
    have haccepts := acceptsField_of_checkFields_ok hcasts
    obtain ⟨out, hout, hasc, hlookup⟩ := checkFields_ok [] haccepts []
    obtain rfl : out = casts := Except.ok.inj (hout.symm.trans hcasts)
    refine ⟨haccepts, out, rfl, hasc List.Pairwise.nil, fun name => ?_⟩
    rw [hlookup]
    exact Option.or_none
  · rintro ⟨haccepts, casts, rfl, hasc, hlookup⟩
    obtain ⟨out, hout, hasc', hlookup'⟩ := checkFields_ok [] haccepts []
    refine ⟨out, hout, congrArg Value.object ?_⟩
    refine (hasc' List.Pairwise.nil).eq_of_lookup_eq hasc fun name => ?_
    exact (hlookup' name).trans (Option.or_none.trans (hlookup name).symm)

/-- An object is accepted if all its declared fields are. -/
theorem accepts_object_iff {fields : List (String × Schema)} {found : Fields} :
    (Schema.object fields).Accepts (.object found) ↔
      ∀ field ∈ fields, AcceptsField found field := by
  refine ⟨fun ⟨w, hw⟩ => (validate_object_ok_iff.mp hw).1, fun h => ?_⟩
  obtain ⟨out, hout, -⟩ := checkFields_ok [] h []
  rw [Accepts, validate_object, hout]
  exact ⟨.object out, rfl⟩

/-- An object is rejected at its first declared field that is. -/
theorem validate_object_error_iff {fields : List (String × Schema)} {found : Fields}
    {m : Mismatch} :
    (Schema.object fields).validate (.object found) = .error m ↔
      ∃ before field after m', fields = before ++ field :: after ∧
        (∀ other ∈ before, AcceptsField found other) ∧ fieldCast found field = .error m' ∧
        m = m'.under [.field field.1] := by
  simp only [validate_object, map_eq_error_iff]
  exact checkFields_error_iff []

end Schema

end WebTrip
