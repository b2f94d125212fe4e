import Mathlib.Data.List.TakeWhile
import Mathlib.Tactic.SplitIfs
import WebTrip.Text.Blank

/-!
# Words of composed texts

How `Text.words` goes together with appending, joining and trimming. Pieces of text that are kept
apart by a blank keep their words, and blanks at the ends of a text do not matter.

## Main statements

- `words_append_left`, `words_append_right`, `words_append_between`: pieces kept apart by blanks
- `words_intercalate`: joined pieces
- `words_trim`: trimmed texts
-/

namespace WebTrip.Text

/-! ## §1 Lists of characters -/

/-- A blank ends the word that is being read. -/
theorem wordsFrom_append_blank {c : Char} (hc : isBlank c = true)
    (current before after : List Char) :
    wordsFrom current (before ++ c :: after) = wordsFrom current before ++ wordsFrom [] after := by
  induction before generalizing current with
  | nil => cases current <;> simp [wordsFrom, hc]
  | cons d before ih =>
    rw [List.cons_append, wordsFrom, wordsFrom]
    split_ifs <;> simp [ih]

theorem wordsFrom_of_all_blank {cs : List Char} (h : ∀ c ∈ cs, isBlank c = true) :
    wordsFrom [] cs = [] := by
  induction cs with
  | nil => rfl
  | cons c rest ih =>
    obtain ⟨hc, hrest⟩ := List.forall_mem_cons.mp h
    simp [wordsFrom, hc, ih hrest]

theorem wordsFrom_append_blanks {blanks : List Char} (h : ∀ c ∈ blanks, isBlank c = true)
    (current cs : List Char) : wordsFrom current (cs ++ blanks) = wordsFrom current cs := by
  cases blanks with
  | nil => rw [List.append_nil]
  | cons c rest =>
    obtain ⟨hc, hrest⟩ := List.forall_mem_cons.mp h
    rw [wordsFrom_append_blank hc, wordsFrom_of_all_blank hrest, List.append_nil]

theorem wordsFrom_dropWhile (cs : List Char) :
    wordsFrom [] (cs.dropWhile isBlank) = wordsFrom [] cs := by
  induction cs with
  | nil => rfl
  | cons c rest ih =>
    by_cases hc : isBlank c = true
    · rw [List.dropWhile_cons_of_pos hc, ih]
      simp [wordsFrom, hc]
    · rw [List.dropWhile_cons_of_neg hc]

theorem wordsFrom_dropTrailingBlanks (cs : List Char) :
    wordsFrom [] (dropTrailingBlanks cs) = wordsFrom [] cs := by
  have hsplit : dropTrailingBlanks cs ++ (cs.reverse.takeWhile isBlank).reverse = cs := by
    rw [dropTrailingBlanks, ← List.reverse_append, List.takeWhile_append_dropWhile,
      List.reverse_reverse]
  have hblanks : ∀ c ∈ (cs.reverse.takeWhile isBlank).reverse, isBlank c = true :=
    fun c hc => List.mem_takeWhile_imp (List.mem_reverse.mp hc)
  rw [← wordsFrom_append_blanks hblanks [] (dropTrailingBlanks cs), hsplit]

/-! ## §2 Texts -/

/-- The first character is a blank. -/
def startsBlank (s : String) : Bool :=
  s.toList.head?.any isBlank

/-- The last character is a blank. -/
def endsBlank (s : String) : Bool :=
  s.toList.getLast?.any isBlank

/-- **Trimming** keeps the words. -/
theorem words_trim (s : String) : words (trim s) = words s := by
  rw [words, trim, String.toList_ofList, trimmed, wordsFrom_dropTrailingBlanks,
    wordsFrom_dropWhile, words]

/-- A piece that ends in a blank in front of another one. -/
theorem words_append_left {a : String} (h : endsBlank a = true) (b : String) :
    words (a ++ b) = words a ++ words b := by
  -- the blank at the end closes the last word of the first piece
  obtain ⟨before, c, hsplit, hc⟩ : ∃ before c, a.toList = before ++ [c] ∧ isBlank c = true := by
    rw [endsBlank, Option.any_eq_true] at h
    obtain ⟨c, hlast, hc⟩ := h
    obtain ⟨before, hbefore⟩ := List.getLast?_eq_some_iff.mp hlast
    exact ⟨before, c, hbefore, hc⟩
  rw [words, words, String.toList_append, hsplit, List.append_assoc, List.singleton_append,
    wordsFrom_append_blank hc, wordsFrom_append_blank hc]
  simp [wordsFrom, words]

/-- A piece that starts with a blank behind another one. -/
theorem words_append_right (a : String) {b : String} (h : startsBlank b = true) :
    words (a ++ b) = words a ++ words b := by
  obtain ⟨c, after, hsplit, hc⟩ : ∃ c after, b.toList = c :: after ∧ isBlank c = true := by
    rw [startsBlank, Option.any_eq_true] at h
    obtain ⟨c, hhead, hc⟩ := h
    obtain ⟨after, hafter⟩ := List.head?_eq_some_iff.mp hhead
    exact ⟨c, after, hafter, hc⟩
  rw [words, words, words, String.toList_append, hsplit, wordsFrom_append_blank hc]
  simp [wordsFrom, hc]

/-- A piece with blanks at both ends between two others. -/
theorem words_append_between (a : String) {separator : String} (b : String)
    (hstart : startsBlank separator = true) (hend : endsBlank separator = true) :
    words (a ++ separator ++ b) = words a ++ words separator ++ words b := by
  -- what starts with a blank still does with more behind it
  have hpieces : a ++ separator ++ b = a ++ (separator ++ b) := String.append_assoc
  have hstart' : startsBlank (separator ++ b) = true := by
    rw [startsBlank, Option.any_eq_true] at hstart ⊢
    obtain ⟨c, hhead, hc⟩ := hstart
    exact ⟨c, by rw [String.toList_append, List.head?_append, hhead]; rfl, hc⟩
  rw [hpieces, words_append_right a hstart', words_append_left hend, List.append_assoc]

/-- Pieces joined by a text with blanks at both ends. -/
theorem words_intercalate {separator : String} (hstart : startsBlank separator = true)
    (hend : endsBlank separator = true) (pieces : List String) :
    words (separator.intercalate pieces) = (words separator).intercalate (pieces.map words) := by
  induction pieces with
  | nil => rfl
  | cons first rest ih =>
    cases rest with
    | nil => simp
    | cons second rest =>
      rw [String.intercalate_cons_cons, words_append_between _ _ hstart hend, ih]
      simp [List.intercalate]

/-- Joining with nothing in between. -/
theorem intercalate_nil_eq_flatten {α : Type} (lists : List (List α)) :
    ([] : List α).intercalate lists = lists.flatten := by
  induction lists with
  | nil => rfl
  | cons first rest ih =>
    cases rest with
    | nil => simp
    | cons second rest => simp [List.intercalate_cons_cons, ih]

/-- Pieces joined by blanks. -/
theorem words_intercalate_blanks {separator : String} (hstart : startsBlank separator = true)
    (hend : endsBlank separator = true) (hnone : words separator = []) (pieces : List String) :
    words (separator.intercalate pieces) = (pieces.map words).flatten := by
  rw [words_intercalate hstart hend, hnone, intercalate_nil_eq_flatten]

end WebTrip.Text
