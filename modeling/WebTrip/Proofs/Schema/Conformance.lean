import WebTrip.Proofs.Number.Value
import WebTrip.Proofs.Schema.Traversal

/-!
# What validation accepts, and what it makes of it

Two relations say what a schema means without going through a check: which values have its shape,
and how the cast of such a value may differ from the value. Validation decides the first and
computes the second.

## Main definitions

- `Schema.Conforms`: a value has the shape of a schema
- `Schema.CastsTo`: a value and its cast

## Main statements

- `Schema.accepts_iff_conforms`: exactly the values of the right shape are accepted
- `Schema.validate_ok_iff`: the results are the casts of these values
- `Schema.validate_exact`: both together
-/

namespace WebTrip.Schema

open WebTrip.Json

/-! ## §1 Shapes -/

/-- A field of this shape may be absent: its wrappers hold an `optional` that is reached through
`nullable` wrappers only. -/
inductive MayBeAbsent : Schema → Prop where
  | optional (inner : Schema) : MayBeAbsent (.optional inner)
  | nullable {inner : Schema} : MayBeAbsent inner → MayBeAbsent (.nullable inner)

/-- The value has the shape of the schema. -/
inductive Conforms : Schema → Value → Prop where
  | any (v : Value) : Conforms .any v
  | text (s : String) : Conforms (.string none) (.string s)
  | matching {pattern : Pattern} {s : String} :
      pattern.isMatch s = true → Conforms (.string (some pattern)) (.string s)
  | number (numeric : Bool) (n : Number) : Conforms (.number numeric false) (.number n)
  | integer (numeric : Bool) (n : ℤ) (fits : FitsWord n) :
      Conforms (.number numeric true) (.number (.integer n fits))
  /-- A float is whole if its exact value is an integer, however large. -/
  | wholeFloat (numeric : Bool) {x : Double} {n : ℤ} :
      x.value = n → Conforms (.number numeric true) (.number (.float x))
  | numericText {integer : Bool} {s : String} {n : Number} :
      numberOfText? integer s = some n → Conforms (.number true integer) (.string s)
  | boolean (b : Bool) : Conforms .boolean (.bool b)
  | array {item : Schema} {elements : List Value} :
      (∀ e ∈ elements, Conforms item e) → Conforms (.array item) (.array elements)
  /-- Every declaration of a name counts: each one accepts the value, or its absence. -/
  | object {fields : List (String × Schema)} {found : Fields} :
      (∀ name s, (name, s) ∈ fields → ∀ v, field? name found = some v → Conforms s v) →
      (∀ name s, (name, s) ∈ fields → field? name found = none → MayBeAbsent s) →
      Conforms (.object fields) (.object found)
  | optional {inner : Schema} {v : Value} : Conforms inner v → Conforms (.optional inner) v
  | null (inner : Schema) : Conforms (.nullable inner) .null
  | nullable {inner : Schema} {v : Value} : Conforms inner v → Conforms (.nullable inner) v

/-! ## §2 Casts -/

/-- The second value is the cast of the first under the schema. Apart from whole floats, numeric
strings and undeclared fields the cast is the value itself. -/
inductive CastsTo : Schema → Value → Value → Prop where
  | any (v : Value) : CastsTo .any v v
  | text (pattern : Option Pattern) (s : String) :
      CastsTo (.string pattern) (.string s) (.string s)
  | integer (numeric integer : Bool) (n : ℤ) (fits : FitsWord n) :
      CastsTo (.number numeric integer) (.number (.integer n fits)) (.number (.integer n fits))
  | float (numeric : Bool) (x : Double) :
      CastsTo (.number numeric false) (.number (.float x)) (.number (.float x))
  /-- A whole float of 64 signed bits becomes that integer. -/
  | wholeFloat (numeric : Bool) {x : Double} {n : ℤ} (fits : FitsWord n) :
      x.value = n → -2 ^ 63 ≤ n → n < 2 ^ 63 →
      CastsTo (.number numeric true) (.number (.float x)) (.number (.integer n fits))
  /-- A whole float beyond that range stays as it is. -/
  | largeFloat (numeric : Bool) {x : Double} {n : ℤ} :
      x.value = n → ¬ (-2 ^ 63 ≤ n ∧ n < 2 ^ 63) →
      CastsTo (.number numeric true) (.number (.float x)) (.number (.float x))
  | numericText {integer : Bool} {s : String} {n : Number} :
      numberOfText? integer s = some n → CastsTo (.number true integer) (.string s) (.number n)
  | boolean (b : Bool) : CastsTo .boolean (.bool b) (.bool b)
  /-- As many elements, in the same order. -/
  | array {item : Schema} {elements casts : List Value} :
      elements.length = casts.length →
      (∀ (index : ℕ) (e c : Value), elements[index]? = some e → casts[index]? = some c →
        CastsTo item e c) →
      CastsTo (.array item) (.array elements) (.array casts)
  /-- The declared fields that are present and no others, each with its cast under the last
  declaration of its name. -/
  | object {fields : List (String × Schema)} {found casts : Fields} :
      Ascending casts →
      (∀ name, (field? name casts).isSome ↔
        (field? name found).isSome ∧ ∃ s, (name, s) ∈ fields) →
      (∀ name s v c, declaration? fields name = some s → field? name found = some v →
        field? name casts = some c → CastsTo s v c) →
      CastsTo (.object fields) (.object found) (.object casts)
  | optional {inner : Schema} {v w : Value} : CastsTo inner v w → CastsTo (.optional inner) v w
  | null (inner : Schema) : CastsTo (.nullable inner) .null .null
  | nullable {inner : Schema} {v w : Value} : CastsTo inner v w → CastsTo (.nullable inner) v w

/-- The cast of null is null. -/
theorem CastsTo.eq_null {s : Schema} {w : Value} (h : CastsTo s .null w) : w = .null := by
  induction s with
  | any => cases h; rfl
  | optional inner ih => cases h with | optional h => exact ih h
  | nullable inner ih =>
    cases h with
    | null => rfl
    | nullable h => exact ih h
  | _ => cases h

/-! ## §3 Parts that are decided without recursion -/

theorem acceptsMissing_iff (s : Schema) : s.acceptsMissing = true ↔ MayBeAbsent s := by
  induction s with
  | optional inner ih => exact ⟨fun _ => .optional inner, fun _ => rfl⟩
  | nullable inner ih => exact ⟨fun h => .nullable (ih.mp h), fun | .nullable h => ih.mpr h⟩
  | _ => exact ⟨fun h => absurd h Bool.false_ne_true, nofun⟩

/-- A float that is not whole is no integer. -/
theorem castFloat?_eq_none {x : Double} (h : ∀ n : ℤ, x.value ≠ n) : castFloat? x = none := by
  have hx : x.isWhole = false := by
    rw [← Bool.not_eq_true, Double.isWhole_iff]
    exact fun ⟨n, hn⟩ => h n hn
  rw [castFloat?, hx, if_neg Bool.false_ne_true]

/-- A whole float of 64 signed bits is taken for the integer it is equal to. -/
theorem castFloat?_of_small {x : Double} {n : ℤ} (h : x.value = n) (hmin : -2 ^ 63 ≤ n)
    (hmax : n < 2 ^ 63) (fits : FitsWord n) : castFloat? x = some (.integer n fits) := by
  have hx : x.isWhole = true := (Double.isWhole_iff x).mpr ⟨n, h⟩
  rw [castFloat?, if_pos hx, Double.truncate_of_value_eq h, if_pos ⟨hmin, hmax⟩, Number.ofInt?,
    dif_pos fits]

/-- A whole float beyond that range is taken for itself. -/
theorem castFloat?_of_large {x : Double} {n : ℤ} (h : x.value = n)
    (hlarge : ¬ (-2 ^ 63 ≤ n ∧ n < 2 ^ 63)) : castFloat? x = some (.float x) := by
  have hx : x.isWhole = true := (Double.isWhole_iff x).mpr ⟨n, h⟩
  rw [castFloat?, if_pos hx, Double.truncate_of_value_eq h, if_neg hlarge]

theorem fitsWord_of_signed {n : ℤ} (hmin : -2 ^ 63 ≤ n) (hmax : n < 2 ^ 63) : FitsWord n :=
  ⟨hmin, hmax.trans (by decide)⟩

/-! ## §4 Acceptance -/

/-- A value that is rejected is not of the right shape. -/
theorem iff_of_rejected {s : Schema} {v w : Value} (hrejected : s.validate v ≠ .ok w)
    (hshape : ¬ Conforms s v) : s.validate v = .ok w ↔ Conforms s v ∧ CastsTo s v w :=
  iff_of_false hrejected fun h => hshape h.1

/-- A number schema accepts the values of its shape, and casts them as stated. -/
theorem validate_number_ok_iff {numeric integer : Bool} {v w : Value} :
    (Schema.number numeric integer).validate v = .ok w ↔
      Conforms (.number numeric integer) v ∧ CastsTo (.number numeric integer) v w := by
  cases v with
  | number n =>
    cases n with
    | integer n fits =>
      constructor
      · intro h
        cases h
        refine ⟨?_, .integer numeric integer n fits⟩
        cases integer with
        | false => exact .number numeric _
        | true => exact .integer numeric n fits
      · rintro ⟨-, hcast⟩
        cases hcast
        rfl
    | float x =>
      cases integer with
      | false =>
        constructor
        · intro h
          cases h
          exact ⟨.number numeric _, .float numeric x⟩
        · rintro ⟨-, hcast⟩
          cases hcast
          rfl
      | true =>
        have hcheck : (Schema.number numeric true).validate (.number (.float x)) = .ok w ↔
            ∃ n, castFloat? x = some n ∧ w = .number n := by
          simp only [validate_number_float, if_true]
          cases castFloat? x <;> simp [eq_comm]
        rw [hcheck]
        constructor
        · rintro ⟨n, hn, rfl⟩
          by_cases hwhole : ∃ k : ℤ, x.value = k
          · obtain ⟨k, hk⟩ := hwhole
            refine ⟨.wholeFloat numeric hk, ?_⟩
            by_cases hrange : -2 ^ 63 ≤ k ∧ k < 2 ^ 63
            · have fits := fitsWord_of_signed hrange.1 hrange.2
              rw [castFloat?_of_small hk hrange.1 hrange.2 fits] at hn
              cases hn
              exact .wholeFloat numeric fits hk hrange.1 hrange.2
            · rw [castFloat?_of_large hk hrange] at hn
              cases hn
              exact .largeFloat numeric hk hrange
          · rw [castFloat?_eq_none (not_exists.mp hwhole)] at hn
            cases hn
        · rintro ⟨-, hcast⟩
          cases hcast with
          | wholeFloat _ fits hk hmin hmax => exact ⟨_, castFloat?_of_small hk hmin hmax fits, rfl⟩
          | largeFloat _ hk hrange => exact ⟨_, castFloat?_of_large hk hrange, rfl⟩
  | string s =>
    cases numeric with
    | false => exact iff_of_rejected (by intro h; cases h) (by intro h; cases h)
    | true =>
      have hcheck : (Schema.number true integer).validate (.string s) = .ok w ↔
          ∃ n, numberOfText? integer s = some n ∧ w = .number n := by
        simp only [validate_number_string, if_true]
        cases numberOfText? integer s <;> simp [eq_comm]
      rw [hcheck]
      constructor
      · rintro ⟨n, hn, rfl⟩
        exact ⟨.numericText hn, .numericText hn⟩
      · rintro ⟨-, hcast⟩
        cases hcast with
        | numericText hn => exact ⟨_, hn, rfl⟩
  | _ => exact iff_of_rejected (by intro h; cases h) (by intro h; cases h)

/-- A string schema accepts the strings that match its pattern, if it has one. -/
theorem validate_string_ok_iff {pattern : Option Pattern} {v w : Value} :
    (Schema.string pattern).validate v = .ok w ↔
      Conforms (.string pattern) v ∧ CastsTo (.string pattern) v w := by
  cases v with
  | string s =>
    have hcheck : (Schema.string pattern).validate (.string s) = .ok w ↔
        pattern.all (·.isMatch s) = true ∧ w = .string s := by
      rw [validate_string]
      split_ifs with h <;> simp [h, eq_comm]
    rw [hcheck]
    constructor
    · rintro ⟨hmatch, rfl⟩
      refine ⟨?_, .text pattern s⟩
      cases pattern with
      | none => exact .text s
      | some p => exact .matching hmatch
    · rintro ⟨hconf, hcast⟩
      cases hcast
      cases hconf with
      | text => exact ⟨rfl, rfl⟩
      | matching hmatch => exact ⟨hmatch, rfl⟩
  | _ => exact iff_of_rejected (by intro h; cases h) (by intro h; cases h)

/-- A value of a number's shape has a cast. -/
theorem exists_castsTo_number {numeric integer : Bool} {v : Value}
    (h : Conforms (.number numeric integer) v) :
    ∃ w, CastsTo (.number numeric integer) v w := by
  cases h with
  | number _ n =>
    cases n with
    | integer n fits => exact ⟨_, .integer numeric false n fits⟩
    | float x => exact ⟨_, .float numeric x⟩
  | integer _ n fits => exact ⟨_, .integer numeric true n fits⟩
  | @wholeFloat _ x n hvalue =>
    by_cases hrange : -2 ^ 63 ≤ n ∧ n < 2 ^ 63
    · exact ⟨_, .wholeFloat numeric (fitsWord_of_signed hrange.1 hrange.2) hvalue hrange.1 hrange.2⟩
    · exact ⟨_, .largeFloat numeric hvalue hrange⟩
  | numericText hn => exact ⟨_, .numericText hn⟩

/-- A field is accepted if it is present in its shape, or absent and may be so. -/
theorem acceptsField_iff {found : Fields} {name : String} {s : Schema}
    (h : ∀ v, s.Accepts v ↔ Conforms s v) :
    AcceptsField found (name, s) ↔
      (∀ v, field? name found = some v → Conforms s v) ∧
        (field? name found = none → MayBeAbsent s) := by
  cases hfound : field? name found with
  | none => simp [acceptsField_of_absent hfound, acceptsMissing_iff]
  | some v => simp [acceptsField_of_present hfound, h]

/-- **Acceptance.** Exactly the values of the right shape are accepted. -/
theorem accepts_iff_conforms (s : Schema) (v : Value) : s.Accepts v ↔ Conforms s v := by
  induction s generalizing v with
  | any => exact ⟨fun _ => .any v, fun _ => ⟨v, rfl⟩⟩
  | string pattern =>
    simp only [Accepts, validate_string_ok_iff]
    constructor
    · rintro ⟨w, h, -⟩
      exact h
    · intro h
      have hconf := h
      cases h <;> exact ⟨_, hconf, .text _ _⟩
  | number numeric integer =>
    simp only [Accepts, validate_number_ok_iff]
    constructor
    · rintro ⟨w, h, -⟩
      exact h
    · intro h
      obtain ⟨w, hw⟩ := exists_castsTo_number h
      exact ⟨w, h, hw⟩
  | boolean =>
    constructor
    · rintro ⟨w, hw⟩
      cases v with
      | bool b => exact .boolean b
      | _ => cases hw
    · rintro ⟨⟩
      exact ⟨_, rfl⟩
  | array item ih =>
    constructor
    · intro h
      cases v with
      | array elements => exact .array fun e he => (ih e).mp (accepts_array_iff.mp h e he)
      | _ =>
        obtain ⟨w, hw⟩ := h
        cases hw
    · intro h
      cases h with
      | array hall => exact accepts_array_iff.mpr fun e he => (ih e).mpr (hall e he)
  | object fields ih =>
    have hfields : ∀ {found : Fields}, (∀ field ∈ fields, AcceptsField found field) ↔
        Conforms (.object fields) (.object found) := by
      intro found
      constructor
      · intro h
        exact .object
          (fun name s hmem => ((acceptsField_iff (ih (name, s) hmem)).mp (h _ hmem)).1)
          (fun name s hmem => ((acceptsField_iff (ih (name, s) hmem)).mp (h _ hmem)).2)
      · intro h field hmem
        cases h with
        | object hpresent habsent =>
          exact (acceptsField_iff (ih field hmem)).mpr
            ⟨hpresent field.1 field.2 hmem, habsent field.1 field.2 hmem⟩
    cases v with
    | object found => exact accepts_object_iff.trans hfields
    | _ =>
      constructor
      · rintro ⟨w, hw⟩
        cases hw
      · intro h
        cases h
  | optional inner ih =>
    constructor
    · intro h
      exact .optional ((ih v).mp h)
    · intro h
      cases h with
      | optional h => exact (ih v).mpr h
  | nullable inner ih =>
    by_cases hv : v = .null
    · subst hv
      exact ⟨fun _ => .null inner, fun _ => ⟨.null, rfl⟩⟩
    · rw [accepts_nullable_of_ne hv, ih]
      refine ⟨.nullable, fun h => ?_⟩
      cases h with
      | null => exact absurd rfl hv
      | nullable h => exact h

/-! ## §5 Casts -/

/-- The cast of a name is that of its value under its last declaration. -/
theorem castOf?_eq_some_iff {fields : List (String × Schema)} {found : Fields} {name : String}
    {c : Value} : castOf? fields found name = some c ↔
      ∃ s v, declaration? fields name = some s ∧ field? name found = some v ∧
        s.validate v = .ok c := by
  rw [castOf?]
  cases hs : declaration? fields name with
  | none => simp
  | some s =>
    cases hfound : field? name found with
    | none =>
      cases hm : s.acceptsMissing <;> simp [fieldCast, hfound, hm, Except.toOption]
    | some v =>
      cases hv : s.validate v <;>
        simp [fieldCast, hfound, hv, Except.map, Except.toOption]

theorem exists_declaration?_iff {fields : List (String × Schema)} {name : String} :
    (∃ s, declaration? fields name = some s) ↔ ∃ s, (name, s) ∈ fields := by
  refine ⟨fun ⟨s, hs⟩ => ⟨s, mem_of_declaration? hs⟩, fun ⟨s, hmem⟩ => ?_⟩
  rw [← Option.isSome_iff_exists, declaration?, List.lookup_isSome_iff]
  exact ⟨(name, s), List.mem_reverse.mpr hmem, beq_self_eq_true name⟩

/-- The names of an accepted object's cast are the declared ones that are present. -/
theorem castOf?_isSome_iff {fields : List (String × Schema)} {found : Fields}
    (h : ∀ field ∈ fields, AcceptsField found field) (name : String) :
    (castOf? fields found name).isSome ↔
      (field? name found).isSome ∧ ∃ s, (name, s) ∈ fields := by
  simp only [Option.isSome_iff_exists, castOf?_eq_some_iff]
  constructor
  · rintro ⟨c, s, v, hs, hv, -⟩
    exact ⟨⟨v, hv⟩, s, mem_of_declaration? hs⟩
  · rintro ⟨⟨v, hv⟩, hdeclared⟩
    obtain ⟨s, hs⟩ := exists_declaration?_iff.mpr hdeclared
    obtain ⟨c, hc⟩ := (acceptsField_of_present hv).mp
      (h _ (mem_of_declaration? hs))
    exact ⟨c, s, v, hs, hv, hc⟩

theorem validate_array_ok_iff_of_item {item : Schema}
    (ih : ∀ v w, item.validate v = .ok w ↔ Conforms item v ∧ CastsTo item v w)
    {elements : List Value} {w : Value} :
    (Schema.array item).validate (.array elements) = .ok w ↔
      Conforms (.array item) (.array elements) ∧ CastsTo (.array item) (.array elements) w := by
  rw [validate_array_ok_iff]
  constructor
  · rintro ⟨casts, rfl, hall⟩
    obtain ⟨hlength, hget⟩ := List.forall₂_iff_get.mp hall
    have hparts : ∀ {index : ℕ} {e c : Value}, elements[index]? = some e →
        casts[index]? = some c → Conforms item e ∧ CastsTo item e c := by
      intro index e c he hc
      obtain ⟨hi, rfl⟩ := List.getElem?_eq_some_iff.mp he
      obtain ⟨hj, rfl⟩ := List.getElem?_eq_some_iff.mp hc
      exact (ih _ _).mp (hget index hi hj)
    refine ⟨.array fun e he => ?_, .array hlength fun index e c he hc => (hparts he hc).2⟩
    obtain ⟨index, hindex⟩ := List.mem_iff_getElem?.mp he
    obtain ⟨hi, -⟩ := List.getElem?_eq_some_iff.mp hindex
    exact (hparts hindex (List.getElem?_eq_getElem (hlength ▸ hi))).1
  · rintro ⟨hconf, hcast⟩
    cases hconf with
    | array hconf =>
      cases hcast with
      | array hlength hcast =>
        refine ⟨_, rfl, List.forall₂_iff_get.mpr ⟨hlength, fun index hi hj => ?_⟩⟩
        exact (ih _ _).mpr ⟨hconf _ (List.get_mem ..),
          hcast index _ _ (List.getElem?_eq_getElem hi) (List.getElem?_eq_getElem hj)⟩

theorem validate_object_ok_iff_of_fields {fields : List (String × Schema)}
    (ih : ∀ field ∈ fields, ∀ v w,
      field.2.validate v = .ok w ↔ Conforms field.2 v ∧ CastsTo field.2 v w)
    {found : Fields} {w : Value} :
    (Schema.object fields).validate (.object found) = .ok w ↔
      Conforms (.object fields) (.object found) ∧
        CastsTo (.object fields) (.object found) w := by
  have hdeclared : ∀ {name s}, declaration? fields name = some s → ∀ v w,
      s.validate v = .ok w ↔ Conforms s v ∧ CastsTo s v w :=
    fun hs => ih _ (mem_of_declaration? hs)
  rw [validate_object_ok_iff, ← accepts_iff_conforms, accepts_object_iff]
  refine and_congr_right fun haccepts => ?_
  constructor
  · rintro ⟨casts, rfl, hasc, hlookup⟩
    refine .object hasc (fun name => ?_) (fun name s v c hs hv hc => ?_)
    · rw [hlookup]
      exact castOf?_isSome_iff haccepts name
    · obtain ⟨s', v', hs', hv', hc'⟩ := castOf?_eq_some_iff.mp ((hlookup name).symm.trans hc)
      obtain rfl : s = s' := Option.some.inj (hs.symm.trans hs')
      obtain rfl : v = v' := Option.some.inj (hv.symm.trans hv')
      exact ((hdeclared hs v c).mp hc').2
  · intro hcast
    cases hcast with
    | @object _ _ casts hasc hnames hcasts =>
      refine ⟨casts, rfl, hasc, fun name => ?_⟩
      have hsome := (hnames name).trans (castOf?_isSome_iff haccepts name).symm
      cases hc : castOf? fields found name with
      | none => simpa [hc] using hsome
      | some c =>
        -- both are the cast of the same value under the same declaration
        obtain ⟨c', hc'⟩ := Option.isSome_iff_exists.mp (hsome.mpr (by simp [hc]))
        obtain ⟨s, v, hs, hv, hvalid⟩ := castOf?_eq_some_iff.mp hc
        have hconf := ((hdeclared hs v c).mp hvalid).1
        have hvalid' := (hdeclared hs v c').mpr ⟨hconf, hcasts name s v c' hs hv hc'⟩
        rw [hc', Except.ok.inj (hvalid'.symm.trans hvalid)]

/-- **Validation.** Its results are the casts of the values of the right shape. -/
theorem validate_ok_iff (s : Schema) (v w : Value) :
    s.validate v = .ok w ↔ Conforms s v ∧ CastsTo s v w := by
  induction s generalizing v w with
  | any =>
    constructor
    · rintro ⟨⟩
      exact ⟨.any _, .any _⟩
    · rintro ⟨-, ⟨⟩⟩
      rfl
  | string pattern => exact validate_string_ok_iff
  | number numeric integer => exact validate_number_ok_iff
  | boolean =>
    cases v with
    | bool b =>
      constructor
      · rintro ⟨⟩
        exact ⟨.boolean b, .boolean b⟩
      · rintro ⟨-, ⟨⟩⟩
        rfl
    | _ => exact iff_of_rejected (by intro h; cases h) (by intro h; cases h)
  | array item ih =>
    cases v with
    | array elements => exact validate_array_ok_iff_of_item ih
    | _ => exact iff_of_rejected (by intro h; cases h) (by intro h; cases h)
  | object fields ih =>
    cases v with
    | object found => exact validate_object_ok_iff_of_fields ih
    | _ => exact iff_of_rejected (by intro h; cases h) (by intro h; cases h)
  | optional inner ih =>
    refine (ih v w).trans ⟨fun ⟨h, hc⟩ => ⟨.optional h, .optional hc⟩, fun ⟨h, hc⟩ => ?_⟩
    cases h with
    | optional h =>
      cases hc with
      | optional hc => exact ⟨h, hc⟩
  | nullable inner ih =>
    by_cases hv : v = .null
    · subst hv
      constructor
      · rintro ⟨⟩
        exact ⟨.null inner, .null inner⟩
      · rintro ⟨-, hcast⟩
        rw [(hcast : CastsTo (.nullable inner) .null w).eq_null]
        rfl
    · rw [validate_nullable_of_ne hv, ih]
      refine ⟨fun ⟨h, hc⟩ => ⟨.nullable h, .nullable hc⟩, fun ⟨h, hc⟩ => ?_⟩
      cases h with
      | null => exact absurd rfl hv
      | nullable h =>
        cases hc with
        | null => exact absurd rfl hv
        | nullable hc => exact ⟨h, hc⟩

/-! ## §6 Exactness -/

/-- **Exactness.** Validation succeeds exactly on the values of the right shape, and its result is
then the one cast of the value. -/
theorem validate_exact (s : Schema) (v : Value) :
    ((∃ w, s.validate v = .ok w) ↔ Conforms s v) ∧
      ∀ w, s.validate v = .ok w ↔ Conforms s v ∧ CastsTo s v w :=
  ⟨accepts_iff_conforms s v, validate_ok_iff s v⟩

end WebTrip.Schema
