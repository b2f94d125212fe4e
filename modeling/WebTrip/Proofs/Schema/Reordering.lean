import Mathlib.Logic.Relation
import WebTrip.Proofs.Schema.Contexts
import WebTrip.Proofs.Schema.Idempotence

/-!
# The order of declarations

The fields of an object are checked in the order of their declarations, up to the first mismatch,
and their casts are put into the result one by one. Where no name is declared twice, the order
decides only which mismatch comes first: all fields have to be accepted in any order, and the
result, whose fields are in the order of their names, has the cast of each name under its one
declaration. A name that is declared twice would have the cast of the declaration that comes last.

## Main definitions

- `Schema.Reordering`: the fields of one object schema in another order, at any depth

## Main statements

- `Schema.declaration?_perm`: the declaration of a name does not depend on the order
- `Schema.validate_object_perm`: one object schema accepts the same objects in any order
- `Schema.Reordering.distinctNames`: no name comes to be declared twice
- `Schema.validate_ok_iff_of_reordered`: any number of reorderings keeps acceptance and casts
-/

namespace WebTrip.Schema

open WebTrip.Json

/-! ## §1 Reorderings -/

/-- The second schema comes of the first one by declaring the fields of one object schema in another
order. -/
inductive Reordering : Schema → Schema → Prop where
  | fields (c : Context) {fields fields' : List (String × Schema)} :
      fields.Perm fields' → Reordering (c.fill (.object fields)) (c.fill (.object fields'))

theorem distinctNamesAll_iff {fields : List (String × Schema)} :
    DistinctNamesAll fields ↔ ∀ field ∈ fields, field.2.DistinctNames := by
  refine ⟨fun h field hmem => h.of_mem hmem, fun h => ?_⟩
  induction fields with
  | nil => exact trivial
  | cons first rest ih =>
    obtain ⟨hfirst, hrest⟩ := List.forall_mem_cons.mp h
    exact ⟨hfirst, ih hrest⟩

theorem distinctNames_object_perm {fields fields' : List (String × Schema)}
    (hperm : fields.Perm fields') (h : (Schema.object fields).DistinctNames) :
    (Schema.object fields').DistinctNames := by
  refine ⟨(hperm.map Prod.fst).nodup_iff.mp h.1, distinctNamesAll_iff.mpr ?_⟩
  intro field hmem
  exact h.2.of_mem (hperm.mem_iff.mpr hmem)

theorem distinctNames_of_fill {c : Context} {s : Schema} (h : (c.fill s).DistinctNames) :
    s.DistinctNames := by
  induction c with
  | hole => exact h
  | array item ih => exact ih h
  | object before name field after ih =>
    exact ih (h.2.of_mem (List.mem_append_right before (List.mem_cons_self ..)))
  | optional inner ih => exact ih h
  | nullable inner ih => exact ih h

/-- What stands at a spot has no part in the names around it. -/
theorem distinctNames_fill {c : Context} {s t : Schema} (h : (c.fill s).DistinctNames)
    (ht : t.DistinctNames) : (c.fill t).DistinctNames := by
  induction c with
  | hole => exact ht
  | array item ih => exact ih h
  | object before name field after ih =>
    -- the field keeps its name, and the other fields are the same
    obtain ⟨hnames, hfields⟩ := h
    have hspot := hfields.of_mem (List.mem_append_right before (List.mem_cons_self ..))
    refine ⟨by simpa using hnames, distinctNamesAll_iff.mpr fun other hmem => ?_⟩
    rcases List.mem_append.mp hmem with hbefore | hafter
    · exact hfields.of_mem (List.mem_append_left _ hbefore)
    · rcases List.mem_cons.mp hafter with rfl | hafter
      · exact ih hspot
      · exact hfields.of_mem (List.mem_append_right _ (List.mem_cons_of_mem _ hafter))
  | optional inner ih => exact ih h
  | nullable inner ih => exact ih h

theorem Reordering.distinctNames {s t : Schema} (hst : Reordering s t) (hs : s.DistinctNames) :
    t.DistinctNames := by
  cases hst with
  | fields c hperm =>
    exact distinctNames_fill hs (distinctNames_object_perm hperm (distinctNames_of_fill hs))

/-! ## §2 One object -/

section Object

variable {fields fields' : List (String × Schema)}

/-- Where every name is declared once, its declaration does not depend on the order. -/
theorem declaration?_perm (hnames : (fields.map Prod.fst).Nodup) (hperm : fields.Perm fields')
    (name : String) : declaration? fields name = declaration? fields' name := by
  have hnames' : (fields'.map Prod.fst).Nodup := (hperm.map Prod.fst).nodup_iff.mp hnames
  apply Option.ext
  intro s
  constructor
  · intro h
    exact declaration?_of_mem hnames' (hperm.mem_iff.mp (mem_of_declaration? h))
  · intro h
    exact declaration?_of_mem hnames (hperm.mem_iff.mpr (mem_of_declaration? h))

/-- An object schema accepts the same objects with the same casts in any order of its fields. -/
theorem validate_object_perm (hnames : (fields.map Prod.fst).Nodup) (hperm : fields.Perm fields')
    (v w : Value) :
    (Schema.object fields).validate v = .ok w ↔ (Schema.object fields').validate v = .ok w := by
  cases v with
  | object found =>
    have haccepts : (∀ field ∈ fields, AcceptsField found field) ↔
        ∀ field ∈ fields', AcceptsField found field := by
      simp only [hperm.mem_iff]
    have hcast : ∀ name, castOf? fields found name = castOf? fields' found name := by
      intro name
      rw [castOf?, castOf?, declaration?_perm hnames hperm]
    simp only [validate_object_ok_iff, haccepts, hcast]
  | _ => constructor <;> intro h <;> cases h

end Object

/-! ## §3 All schemas -/

theorem forgetful_true : Forgetful fun _ _ => True where
  words _ _ := trivial
  under _ _ := trivial

/-- **One reordering** keeps acceptance and casts. -/
theorem Reordering.validate_ok_iff {s t : Schema} (hst : Reordering s t) (hs : s.DistinctNames)
    (v w : Value) : s.validate v = .ok w ↔ t.validate v = .ok w := by
  cases hst with
  | @fields c fields fields' hperm =>
    have hnames : (fields.map Prod.fst).Nodup := (distinctNames_of_fill hs).1
    have hobject : Interchangeable (fun _ _ => True) (.object fields) (.object fields') :=
      ⟨fun v => sameOutcome_of_ok_iff (validate_object_perm hnames hperm v), rfl⟩
    exact ((hobject.fill forgetful_true c).value v).ok_iff w

/-- **The order of declarations.** Where no object schema declares a name twice, the fields of all
object schemas may be declared in any order: the same values are accepted, with the same casts. -/
theorem validate_ok_iff_of_reordered {s t : Schema} (hs : s.DistinctNames)
    (hst : Relation.ReflTransGen Reordering s t) (v w : Value) :
    s.validate v = .ok w ↔ t.validate v = .ok w := by
  -- the names stay distinct on the way, so that each step can be taken
  have hkept : t.DistinctNames ∧ (s.validate v = .ok w ↔ t.validate v = .ok w) := by
    induction hst with
    | refl => exact ⟨hs, Iff.rfl⟩
    | tail _ hstep ih =>
      obtain ⟨hnames, hiff⟩ := ih
      exact ⟨hstep.distinctNames hnames, hiff.trans (hstep.validate_ok_iff hnames v w)⟩
  exact hkept.2

/-- Posts with a title, and an author who has a name and a rank. -/
def rankedPosts : Schema :=
  .array (.object [("title", .string none),
    ("author", .optional (.object [("name", .string none), ("rank", .number true true)]))])

/-- The same with the fields of posts and of authors in another order. -/
def reorderedPosts : Schema :=
  .array (.object [
    ("author", .optional (.object [("rank", .number true true), ("name", .string none)])),
    ("title", .string none)])

/-- A post whose author has a rank in a string. -/
def spelledRank : Value :=
  .array [.object [("author", .object [("name", .string "a"), ("rank", .string " 31 ")]),
    ("title", .string "t")]]

/-- The post with the rank in an integer. -/
def castRank : Value :=
  .array [.object [
    ("author", .object [("name", .string "a"), ("rank", .number (.integer 31 (by decide)))]),
    ("title", .string "t")]]

theorem validate_ok_iff_of_reordered_ranks :
    rankedPosts.DistinctNames ∧ Relation.ReflTransGen Reordering rankedPosts reorderedPosts ∧
      rankedPosts.validate spelledRank = .ok castRank ∧
      reorderedPosts.validate spelledRank = .ok castRank := by
  have hnames : rankedPosts.DistinctNames := by
    simp [rankedPosts, DistinctNames, DistinctNamesAll]
  have hreordered : Relation.ReflTransGen Reordering rankedPosts reorderedPosts := by
    -- first the author's fields, then those of the post
    refine .head (.fields (.array (.object [("title", .string none)] "author" (.optional .hole) []))
      (.swap ..)) ?_
    exact .single (.fields (.array .hole) (.swap ..))
  have hvalidate : rankedPosts.validate spelledRank = .ok castRank := by rfl
  exact ⟨hnames, hreordered, hvalidate,
    (validate_ok_iff_of_reordered hnames hreordered _ _).mp hvalidate⟩

end WebTrip.Schema
