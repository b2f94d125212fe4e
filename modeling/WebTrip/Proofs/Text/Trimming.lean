import Mathlib.Data.List.TakeWhile
import WebTrip.Text.Blank

/-!
# Trimming composed texts

What is trimmed off a text that is put together from others. Blanks around a text do not matter.
Where a piece begins with a character that is not blank, trimming does not reach across this
character: it works on the two sides of it apart.

## Main definitions

- `trimStart`, `trimEnd`: trimming at one end
- `Trims`: a text without the blanks around it

## Main statements

- `trim_padded`: blanks around a text
- `trim_append`: a text behind which another one begins that is not blank
- `trims_trim`: trimming leaves the text without the blanks around it
-/

namespace WebTrip.Text

/-! ## §1 Lists of characters -/

section Lists

variable {c : Char} {before after blanks : List Char}

/-- Dropping blanks stops at a character that is not blank. -/
theorem dropWhile_append_of_not_blank (hc : isBlank c = false) :
    (before ++ c :: after).dropWhile isBlank = before.dropWhile isBlank ++ c :: after := by
  induction before with
  | nil => simp [hc]
  | cons d before ih =>
    by_cases hd : isBlank d = true
    · simp [hd, ih]
    · simp [hd]

theorem dropTrailingBlanks_append_of_not_blank (hc : isBlank c = false) :
    dropTrailingBlanks (before ++ c :: after) = before ++ dropTrailingBlanks (c :: after) := by
  -- seen from the end, the character stands behind those that are dropped in both texts
  have hreverse : (before ++ c :: after).reverse = after.reverse ++ c :: before.reverse := by simp
  have hreverse' : (c :: after).reverse = after.reverse ++ c :: [] := by simp
  rw [dropTrailingBlanks, dropTrailingBlanks, hreverse, hreverse',
    dropWhile_append_of_not_blank hc, dropWhile_append_of_not_blank hc]
  simp

/-- Trailing blanks are dropped, whatever stands in front of them. -/
theorem dropTrailingBlanks_append_blanks (h : ∀ c ∈ blanks, isBlank c = true) (cs : List Char) :
    dropTrailingBlanks (cs ++ blanks) = dropTrailingBlanks cs := by
  have hreverse : ∀ c ∈ blanks.reverse, isBlank c = true := by simpa using h
  rw [dropTrailingBlanks, List.reverse_append, List.dropWhile_append_of_pos hreverse,
    dropTrailingBlanks]

theorem trimmed_append_blanks (h : ∀ c ∈ blanks, isBlank c = true) (cs : List Char) :
    trimmed (cs ++ blanks) = trimmed cs := by
  rw [trimmed, trimmed, List.dropWhile_append]
  split
  · -- there is nothing else but blanks, and nothing is left of them
    rename_i hempty
    have hnone : blanks.dropWhile isBlank = [] := List.dropWhile_eq_nil_iff.mpr h
    rw [hnone, List.isEmpty_iff.mp hempty]
  · exact dropTrailingBlanks_append_blanks h _

end Lists

/-! ## §2 Texts -/

/-- The text without the blanks at its start. -/
def trimStart (s : String) : String :=
  String.ofList (s.toList.dropWhile isBlank)

/-- The text without the blanks at its end. -/
def trimEnd (s : String) : String :=
  String.ofList (dropTrailingBlanks s.toList)

/-- **Blanks around a text** do not matter. -/
theorem trim_padded {before after : List Char} (hbefore : ∀ c ∈ before, isBlank c = true)
    (hafter : ∀ c ∈ after, isBlank c = true) (s : String) :
    trim (String.ofList before ++ s ++ String.ofList after) = trim s := by
  have hlist : (String.ofList before ++ s ++ String.ofList after).toList =
      before ++ s.toList ++ after := by simp
  rw [trim, trim, hlist, trimmed_append_blanks hafter, trimmed, trimmed,
    List.dropWhile_append_of_pos hbefore]

/-- In front of a text that is not blank, everything is kept by trimming at the end. -/
theorem trimEnd_append (a : String) {b : String} {c : Char} {rest : List Char}
    (hb : b.toList = c :: rest) (hc : isBlank c = false) : trimEnd (a ++ b) = a ++ trimEnd b := by
  rw [trimEnd, String.toList_append, hb, dropTrailingBlanks_append_of_not_blank hc,
    String.ofList_append, String.ofList_toList, trimEnd, hb]

/-- **Two pieces.** A text behind which another one begins that is not blank is trimmed at its start
only, and the other one at its end only. -/
theorem trim_append (a : String) {b : String} {c : Char} {rest : List Char}
    (hb : b.toList = c :: rest) (hc : isBlank c = false) :
    trim (a ++ b) = trimStart a ++ trimEnd b := by
  rw [trim, trimmed, String.toList_append, hb, dropWhile_append_of_not_blank hc,
    dropTrailingBlanks_append_of_not_blank hc, String.ofList_append, trimStart, trimEnd, hb]

/-! ## §3 Trimmed texts -/

/-- The first text is the second one with blanks around it, and the second one neither begins nor
ends with a blank. -/
def Trims (s t : String) : Prop :=
  (∃ before after : List Char, s.toList = before ++ t.toList ++ after ∧
    (∀ c ∈ before, isBlank c = true) ∧ ∀ c ∈ after, isBlank c = true) ∧
  (∀ c ∈ t.toList.head?, isBlank c = false) ∧ ∀ c ∈ t.toList.getLast?, isBlank c = false

theorem head?_dropWhile_isBlank (cs : List Char) :
    ∀ c ∈ (cs.dropWhile isBlank).head?, isBlank c = false := by
  intro c hc
  have hnot := List.head?_dropWhile_not isBlank cs
  rw [Option.mem_def.mp hc] at hnot
  simpa using hnot

/-- Only blanks are dropped at the end. -/
theorem exists_dropTrailingBlanks_append (cs : List Char) :
    ∃ blanks, (∀ c ∈ blanks, isBlank c = true) ∧ dropTrailingBlanks cs ++ blanks = cs := by
  refine ⟨(cs.reverse.takeWhile isBlank).reverse, ?_, ?_⟩
  · intro c hc
    exact List.mem_takeWhile_imp (List.mem_reverse.mp hc)
  · rw [dropTrailingBlanks, ← List.reverse_append, List.takeWhile_append_dropWhile,
      List.reverse_reverse]

/-- **Trimming** leaves the text without the blanks around it. -/
theorem trims_trim (s : String) : Trims s (trim s) := by
  obtain ⟨after, hafter, hback⟩ := exists_dropTrailingBlanks_append (s.toList.dropWhile isBlank)
  rw [Trims, trim, String.toList_ofList, trimmed]
  refine ⟨⟨s.toList.takeWhile isBlank, after, ?_, fun c hc => List.mem_takeWhile_imp hc, hafter⟩,
    ?_, ?_⟩
  · rw [List.append_assoc, hback, List.takeWhile_append_dropWhile]
  · -- what is left begins where the leading blanks end
    intro c hc
    apply head?_dropWhile_isBlank s.toList
    rw [← hback, List.head?_append, Option.mem_def.mp hc]
    rfl
  · intro c hc
    rw [dropTrailingBlanks, List.getLast?_reverse] at hc
    exact head?_dropWhile_isBlank _ c hc

end WebTrip.Text
