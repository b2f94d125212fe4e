import Mathlib.Data.List.Perm.Basic
import Mathlib.Data.String.Basic
import WebTrip.Json.Basic

/-!
# Fields in order

What `Json.insert` does to fields, seen through `List.lookup`, and why fields in ascending order are
determined by their lookups.

## Main statements

- `lookup_insert`: a lookup after an insertion, for fields in any order
- `Ascending.insert`: an insertion keeps fields in order
- `Ascending.eq_of_lookup_eq`: fields in order with equal lookups are equal
-/

namespace WebTrip.Json

variable {α : Type}

/-- The names of the fields are in strictly ascending order. -/
def Ascending (fields : List (String × α)) : Prop :=
  (fields.map Prod.fst).Pairwise (· < ·)

theorem ascending_cons {field : String × α} {rest : List (String × α)} :
    Ascending (field :: rest) ↔ (∀ other ∈ rest, field.1 < other.1) ∧ Ascending rest := by
  simp [Ascending, List.pairwise_cons]

/-! ## §1 Lookups -/

theorem lookup_cons_ite (name other : String) (value : α) (rest : List (String × α)) :
    ((other, value) :: rest).lookup name =
      if name = other then some value else rest.lookup name := by
  rw [List.lookup_cons]
  by_cases h : name = other
  · simp [h]
  · rw [beq_false_of_ne h, if_neg h]

/-- After an insertion the inserted name has the new value; every other name has its old one. -/
theorem lookup_insert (name other : String) (value : α) (fields : List (String × α)) :
    (insert name value fields).lookup other =
      if other = name then some value else fields.lookup other := by
  induction fields with
  | nil => rw [insert, lookup_cons_ite]
  | cons field rest ih =>
    obtain ⟨first, found⟩ := field
    rw [insert]
    by_cases hlt : name < first
    · rw [if_pos hlt, lookup_cons_ite]
    · rw [if_neg hlt]
      by_cases heq : name = first
      · subst heq
        rw [if_pos rfl, lookup_cons_ite, lookup_cons_ite]
        split_ifs <;> rfl
      · -- the insertion goes on behind this field, which has another name
        rw [if_neg heq, lookup_cons_ite, lookup_cons_ite, ih]
        by_cases ho : other = name
        · rw [if_pos ho, if_pos ho, if_neg fun h => heq (ho ▸ h)]
        · rw [if_neg ho, if_neg ho]

theorem mem_of_lookup_eq_some {name : String} {value : α} {fields : List (String × α)}
    (h : fields.lookup name = some value) : (name, value) ∈ fields := by
  obtain ⟨before, after, rfl, -⟩ := List.lookup_eq_some_iff.mp h
  exact List.mem_append_right _ (List.mem_cons_self ..)

/-! ## §2 Order -/

theorem mem_insert {name : String} {value : α} {field : String × α} {fields : List (String × α)}
    (h : field ∈ insert name value fields) : field = (name, value) ∨ field ∈ fields := by
  induction fields with
  | nil => exact Or.inl (List.mem_singleton.mp h)
  | cons first rest ih =>
    rw [insert] at h
    split_ifs at h with hlt heq
    · exact List.mem_cons.mp h
    · exact (List.mem_cons.mp h).imp_right (List.mem_cons_of_mem _)
    · rcases List.mem_cons.mp h with rfl | hrest
      · exact Or.inr (List.mem_cons_self ..)
      · exact (ih hrest).imp_right (List.mem_cons_of_mem _)

/-- An insertion keeps the fields in order. -/
theorem Ascending.insert {name : String} {value : α} {fields : List (String × α)}
    (h : Ascending fields) : Ascending (Json.insert name value fields) := by
  induction fields with
  | nil => simp [Json.insert, Ascending]
  | cons first rest ih =>
    obtain ⟨hfirst, hrest⟩ := ascending_cons.mp h
    rw [Json.insert]
    split_ifs with hlt heq
    · refine ascending_cons.mpr ⟨fun other hmem => ?_, h⟩
      rcases List.mem_cons.mp hmem with rfl | hmem
      · exact hlt
      · exact hlt.trans (hfirst other hmem)
    · exact ascending_cons.mpr ⟨heq ▸ hfirst, hrest⟩
    · refine ascending_cons.mpr ⟨fun other hmem => ?_, ih hrest⟩
      rcases mem_insert hmem with rfl | hmem
      · exact lt_of_le_of_ne (not_lt.mp hlt) (Ne.symm heq)
      · exact hfirst other hmem

theorem Ascending.nodup {fields : List (String × α)} (h : Ascending fields) : fields.Nodup :=
  (List.pairwise_map.mp h).imp fun hlt heq => absurd (heq ▸ hlt) (lt_irrefl _)

/-- Among fields in order, the lookups find all fields. -/
theorem Ascending.mem_iff_lookup {fields : List (String × α)} (h : Ascending fields)
    (field : String × α) : field ∈ fields ↔ fields.lookup field.1 = some field.2 := by
  refine ⟨fun hmem => ?_, mem_of_lookup_eq_some⟩
  obtain ⟨before, after, rfl⟩ := List.append_of_mem hmem
  refine List.lookup_eq_some_iff.mpr ⟨before, after, rfl, fun other hbefore => ?_⟩
  have hlt : other.1 < field.1 := by
    unfold Ascending at h
    rw [List.map_append, List.map_cons, List.pairwise_append] at h
    exact h.2.2 _ (List.mem_map_of_mem hbefore) _ (List.mem_cons_self ..)
  simpa using ne_of_gt hlt

/-- **Extensionality.** Fields in order are determined by their lookups. -/
theorem Ascending.eq_of_lookup_eq {fields others : List (String × α)} (hf : Ascending fields)
    (ho : Ascending others) (h : ∀ name, fields.lookup name = others.lookup name) :
    fields = others := by
  have hperm : fields.Perm others := by
    refine (List.perm_ext_iff_of_nodup hf.nodup ho.nodup).mpr fun field => ?_
    rw [hf.mem_iff_lookup, ho.mem_iff_lookup, h]
  have hsorted : ∀ {l : List (String × α)}, Ascending l → l.Pairwise (fun a b => a.1 < b.1) :=
    fun hl => List.pairwise_map.mp hl
  exact hperm.eq_of_pairwise (fun a b _ _ hab hba => absurd hab (lt_asymm hba)) (hsorted hf)
    (hsorted ho)

end WebTrip.Json
