import Mathlib.Logic.Relation
import WebTrip.Proofs.Schema.Conformance

/-!
# Looser schemas

A schema is loosened by wrapping one of its parts in `optional` or `nullable`, or by letting one of
its number schemas accept numeric strings. What was accepted before is accepted afterwards, with the
same cast. Two sides have to keep in step for this: whether a field may be absent is asked of its
schema by the object around it, everything else by the check of its value.

## Main definitions

- `Schema.Loosening`: one loosening at one place, at any depth

## Main statements

- `Schema.Loosening.acceptsMissing`: a field that may be absent still may
- `Schema.Loosening.validate_ok`: one loosening keeps casts
- `Schema.validate_ok_of_loosened`: any number of loosenings keeps casts
-/

namespace WebTrip.Schema

open WebTrip.Json

/-! ## §1 Loosening -/

/-- The second schema comes of the first one by one loosening at one place. -/
inductive Loosening : Schema → Schema → Prop where
  | toOptional (s : Schema) : Loosening s (.optional s)
  | toNullable (s : Schema) : Loosening s (.nullable s)
  /-- Schemas other than those of numbers stay as they are. -/
  | toNumeric (s : Schema) : Loosening s s.asNumeric
  | item {s t : Schema} : Loosening s t → Loosening (.array s) (.array t)
  | field (before : List (String × Schema)) (name : String) {s t : Schema}
      (after : List (String × Schema)) :
      Loosening s t →
      Loosening (.object (before ++ (name, s) :: after)) (.object (before ++ (name, t) :: after))
  | underOptional {s t : Schema} : Loosening s t → Loosening (.optional s) (.optional t)
  | underNullable {s t : Schema} : Loosening s t → Loosening (.nullable s) (.nullable t)

/-- The parent's side: a field that may be absent still may. -/
theorem Loosening.acceptsMissing {s t : Schema} (h : Loosening s t)
    (hs : s.acceptsMissing = true) : t.acceptsMissing = true := by
  induction h with
  | toOptional s => rfl
  | toNullable s => exact hs
  | toNumeric s =>
    cases s with
    | number => cases hs
    | _ => exact hs
  | item _ _ => cases hs
  | field _ _ _ _ _ => cases hs
  | underOptional _ _ => rfl
  | underNullable _ ih => exact ih hs

/-! ## §2 Parts -/

/-- What a number schema accepts it still accepts, as it did, once strings will do as well. -/
theorem validate_asNumeric {s : Schema} {v w : Value} (h : s.validate v = .ok w) :
    s.asNumeric.validate v = .ok w := by
  cases s with
  | number numeric integer =>
    cases v with
    | number n =>
      cases n with
      | integer => exact h
      | float x =>
        cases integer with
        | false => exact h
        | true =>
          -- the two schemas differ in the words of a mismatch only
          simp only [asNumeric, validate_number_float, if_true] at h ⊢
          cases hx : castFloat? x with
          | none => simp [hx] at h
          | some n => simpa [hx] using h
    | string text =>
      cases numeric with
      | true => exact h
      | false => cases h
    | _ => cases h
  | _ => exact h

/-- What is accepted is accepted with null besides: the cast of null was null before. -/
theorem validate_nullable_ok {s : Schema} {v w : Value} (h : s.validate v = .ok w) :
    (Schema.nullable s).validate v = .ok w := by
  by_cases hv : v = .null
  · subst hv
    obtain rfl := ((validate_ok_iff s .null w).mp h).2.eq_null
    rfl
  · rwa [validate_nullable_of_ne hv]

/-- A declared field that is accepted under a schema is accepted under a looser one. -/
theorem fieldCast_ok_of_looser {found : Fields} {name : String} {s t : Schema}
    (hmissing : s.acceptsMissing = true → t.acceptsMissing = true)
    (hvalidate : ∀ v w, s.validate v = .ok w → t.validate v = .ok w) {cast : Option Value}
    (h : fieldCast found (name, s) = .ok cast) : fieldCast found (name, t) = .ok cast := by
  unfold fieldCast at h ⊢
  cases hv : field? name found with
  | some v =>
    simp only [hv, map_eq_ok_iff] at h ⊢
    obtain ⟨c, hc, hcast⟩ := h
    exact ⟨c, hvalidate v c hc, hcast⟩
  | none =>
    simp only [hv] at h ⊢
    split_ifs at h with hs
    rw [if_pos (hmissing hs)]
    exact h

/-- One declaration of an object may be exchanged for one that accepts as much. -/
theorem checkFields_ok_of_looser {found : Fields} {name : String} {s t : Schema}
    (hfield : ∀ cast, fieldCast found (name, s) = .ok cast → fieldCast found (name, t) = .ok cast)
    (before after : List (String × Schema)) {casts out : Fields}
    (h : checkFields [] found casts (before ++ (name, s) :: after) = .ok out) :
    checkFields [] found casts (before ++ (name, t) :: after) = .ok out := by
  induction before generalizing casts with
  | nil =>
    rw [List.nil_append, checkFields_cons] at h ⊢
    cases hcast : fieldCast found (name, s) with
    | error m => simp [hcast] at h
    | ok cast => simpa only [hcast, hfield cast hcast] using h
  | cons first before ih =>
    rw [List.cons_append, checkFields_cons] at h ⊢
    cases hcast : fieldCast found first with
    | error m => simp [hcast] at h
    | ok cast =>
      cases cast with
      | none => exact ih (by simpa only [hcast] using h)
      | some c => exact ih (by simpa only [hcast] using h)

/-! ## §3 Monotonicity -/

/-- **One loosening** keeps every cast. -/
theorem Loosening.validate_ok {s t : Schema} (hst : Loosening s t) {v w : Value}
    (h : s.validate v = .ok w) : t.validate v = .ok w := by
  induction hst generalizing v w with
  | toOptional s => exact h
  | toNullable s => exact validate_nullable_ok h
  | toNumeric s => exact validate_asNumeric h
  | item _ ih =>
    cases v with
    | array elements =>
      obtain ⟨casts, rfl, hcasts⟩ := validate_array_ok_iff.mp h
      exact validate_array_ok_iff.mpr ⟨casts, rfl, hcasts.imp fun _ _ => ih⟩
    | _ => cases h
  | field before name after hst ih =>
    cases v with
    | object found =>
      simp only [validate_object, map_eq_ok_iff] at h ⊢
      obtain ⟨out, hout, hw⟩ := h
      -- both sides are asked: the parent's for an absent field, the check's for a present one
      refine ⟨out, checkFields_ok_of_looser ?_ before after hout, hw⟩
      exact fun cast => fieldCast_ok_of_looser hst.acceptsMissing fun v w => ih
    | _ => cases h
  | underOptional _ ih => exact ih h
  | underNullable _ ih =>
    by_cases hv : v = .null
    · subst hv
      exact h
    · rw [validate_nullable_of_ne hv] at h ⊢
      exact ih h

/-- **Looser schemas.** However often a schema is loosened, at whatever places, what it accepted is
still accepted and has the same cast. -/
theorem validate_ok_of_loosened {s t : Schema} (hst : Relation.ReflTransGen Loosening s t)
    {v w : Value} (h : s.validate v = .ok w) : t.validate v = .ok w := by
  induction hst with
  | refl => exact h
  | tail _ hstep ih => exact hstep.validate_ok ih

/-- Posts with a title and a whole number of views. -/
def postViews : Schema :=
  .array (.object [("title", .string none), ("views", .number false true)])

/-- Posts whose title may be absent, and whose views may be null or spelled out. -/
def looseViews : Schema :=
  .array (.object [("title", .optional (.string none)), ("views", .nullable (.number true true))])

/-- A post with its views in a float and a field of its own. -/
def floatViews : Value :=
  .array [.object [("section", .null), ("title", .string "t"),
    ("views", .number (.float ⟨false, 7881299347898368, -50, by decide⟩))]]

/-- The post with its views in an integer. -/
def integerViews : Value :=
  .array [.object [("title", .string "t"), ("views", .number (.integer 7 (by decide)))]]

theorem validate_ok_of_loosened_views :
    Relation.ReflTransGen Loosening postViews looseViews ∧
      postViews.validate floatViews = .ok integerViews ∧
      looseViews.validate floatViews = .ok integerViews := by
  have hloosened : Relation.ReflTransGen Loosening postViews looseViews := by
    refine .head (.item (.field [] "title" _ (.toOptional _))) ?_
    refine .head (.item (.field [("title", .optional (.string none))] "views" [] (.toNumeric _))) ?_
    exact .single
      (.item (.field [("title", .optional (.string none))] "views" [] (.toNullable _)))
  have hvalidate : postViews.validate floatViews = .ok integerViews := by rfl
  exact ⟨hloosened, hvalidate, validate_ok_of_loosened hloosened hvalidate⟩

end WebTrip.Schema
