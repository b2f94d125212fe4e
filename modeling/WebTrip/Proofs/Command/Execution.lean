import WebTrip.Command.Actions
import WebTrip.Proofs.Json.WrittenValues
import WebTrip.Proofs.Text.Trimming
import WebTrip.Trip.Replay

/-!
# Printed rows

To execute a query is to ask the executor once, for the query without the blanks around it, and to
print what it answers; a blank query is refused before anybody is asked. What is printed for rows is
JSON text, and whoever reads it with every number as the nearest one has the rows again: the same
names and values in the same order, integers as integers and binary64 numbers as binary64 numbers,
whether it is printed on one line or on many.

## Main definitions

- `printed`: what is made of an answer

## Main statements

- `executeQuery_eq_map`: what is asked for, and what is made of the answer
- `parseNearest_renderRows`: rows are read back from what is printed for them
- `executeQuery_prints_rows`: execution as a whole
-/

namespace WebTrip

open WebTrip.Json WebTrip.Text

/-! ## §1 Rows as text -/

/-- The layout of printed rows. -/
def layoutOf (pretty : Bool) : Layout :=
  if pretty then .pretty else .compact

theorem renderRows_eq_text (pretty : Bool) (rows : List Row) :
    renderRows pretty rows = (layoutOf pretty).text 0 (rowsValue rows) := by
  cases pretty <;> rfl

theorem sorted_rowsValue {rows : List Row} (h : ∀ row ∈ rows, (Value.object row).Sorted) :
    (rowsValue rows).Sorted := by
  rw [rowsValue, Value.Sorted]
  induction rows with
  | nil => simp [SortedAll]
  | cons row rest ih =>
    obtain ⟨hrow, hrest⟩ := List.forall_mem_cons.mp h
    rw [List.map_cons, SortedAll]
    exact ⟨hrow, ih hrest⟩

/-- **Rows read back.** A reader that takes the nearest numbers and allows for the nesting of the
rows reads them from what is printed, and one that does not allow for it reads nothing. -/
theorem parseNearest_renderRows (pretty : Bool) {rows : List Row}
    (h : ∀ row ∈ rows, (Value.object row).Sorted) (limit : ℕ) :
    Value.parseNearest limit (renderRows pretty rows) =
      if (rowsValue rows).nesting ≤ limit then .ok (rowsValue rows) else .error .syntaxError := by
  rw [renderRows_eq_text]
  exact parseNearest_text_array (layoutOf pretty) (sorted_rowsValue h) limit

/-! ## §2 Execution -/

/-- What is made of an answer. -/
def printed (pretty : Bool) : Answer → Except CommandError String
  | .error e => .error (.trip e)
  | .ok rows => .ok (renderRows pretty rows)

section Executor

variable {m : Type → Type} [Monad m] (executor : Executor m) (pretty : Bool) {query : String}

/-- A blank query is refused, and the executor is not asked. -/
theorem executeQuery_of_blank (h : isBlankText query = true) :
    executeQuery executor pretty query = pure (.error .noInput) := by
  rw [executeQuery, if_pos h]

/-- Every other query is sent once, trimmed, and the answer is printed. -/
theorem executeQuery_eq_map [LawfulMonad m] (h : isBlankText query = false) :
    executeQuery executor pretty query = printed pretty <$> executor.execute (trim query) := by
  rw [executeQuery, if_neg (by simp [h]), map_eq_pure_bind]
  refine congrArg _ (funext fun answer => ?_)
  cases answer <;> rfl

end Executor

/-- An executor that keeps a record has a query in it that is not blank, once and trimmed. -/
theorem sent_executeQuery_replay (pretty : Bool) (query : String) (script : Replay) :
    ((executeQuery replay pretty query).run script).2.sent =
      (if isBlankText query then [] else [trim query]) ++ script.sent := by
  cases hblank : isBlankText query with
  | true =>
    rw [executeQuery_of_blank replay pretty hblank]
    rfl
  | false =>
    have hsent : (script.answer (trim query)).2.sent = trim query :: script.sent := by
      unfold Replay.answer
      split <;> rfl
    rw [executeQuery_eq_map replay pretty hblank]
    exact hsent

/-- **Execution prints what the executor returned.** A blank query is refused without asking the
executor; for any other it is asked once, for the trimmed query. An error of the executor is the
result. Rows are printed as text from which a reader that takes every number as the nearest binary64
number reads exactly these rows, with any limit to the depth of nesting that allows for them. -/
theorem executeQuery_prints_rows {m : Type → Type} [Monad m] [LawfulMonad m]
    (executor : Executor m) (pretty : Bool) (query : String) :
    ((∀ c ∈ query.toList, isBlank c = true) →
      executeQuery executor pretty query = pure (.error .noInput)) ∧
    ((∃ c ∈ query.toList, isBlank c = false) →
      executeQuery executor pretty query = printed pretty <$> executor.execute (trim query)) ∧
    Trims query (trim query) ∧
    (∀ script : Replay, ((executeQuery replay pretty query).run script).2.sent =
      (if isBlankText query then [] else [trim query]) ++ script.sent) ∧
    (∀ e, printed pretty (.error e) = .error (.trip e)) ∧
    (∀ rows, (∀ row ∈ rows, (Value.object row).Sorted) →
      ∃ text, printed pretty (.ok rows) = .ok text ∧
        ∀ limit, Value.parseNearest limit text =
          if (rowsValue rows).nesting ≤ limit then .ok (rowsValue rows)
          else .error .syntaxError) := by
  refine ⟨fun hblank => ?_, fun hsome => ?_, trims_trim query,
    sent_executeQuery_replay pretty query, fun _ => rfl, fun rows hrows => ?_⟩
  · apply executeQuery_of_blank
    simpa [isBlankText] using hblank
  · apply executeQuery_eq_map
    simpa [isBlankText] using hsome
  · exact ⟨renderRows pretty rows, rfl, parseNearest_renderRows pretty hrows⟩

/-- A query with blanks of two kinds around it. -/
def paddedQuery : String :=
  "\u2003FROM x |> SELECT y\n"

/-- A row with empty and nested containers, a negative zero, an integer and a whole binary64 number
that are equal, a number that is not read back with two roundings, and a string that has to be
escaped. -/
def nestedRow : Row :=
  [("a", .array [.object [], .array []]), ("b", .number (.float (Double.zero true))),
    ("c", .array [.number (.integer 1 (by decide)),
      .number (.float ⟨false, 2 ^ 52, -52, by decide⟩),
      .number (.float ⟨false, 8794761699453570, -48, by decide⟩)]),
    ("d", .string "\u0001\"é\n")]

theorem executeQuery_prints_rows_nestedRow :
    (∃ text, ((executeQuery replay true paddedQuery).run { answers := [.ok [nestedRow]] }).1 =
        .ok text ∧ Value.parseNearest 4 text = .ok (rowsValue [nestedRow])) ∧
      ((executeQuery replay true paddedQuery).run { answers := [.ok [nestedRow]] }).2.sent =
        ["FROM x |> SELECT y"] ∧
      executeQuery replay true "\u00a0\t" = pure (.error .noInput) := by
  obtain ⟨-, hasked, -, hsent, -, hrows⟩ := executeQuery_prints_rows replay true paddedQuery
  have hquery := hasked ⟨'F', by decide, by decide⟩
  have hsorted : ∀ row ∈ [nestedRow], (Value.object row).Sorted := by
    simp only [List.mem_singleton, forall_eq]
    simp only [Value.Sorted, nestedRow, SortedFields, SortedAll]
    decide
  obtain ⟨text, htext, hread⟩ := hrows [nestedRow] hsorted
  refine ⟨⟨text, ?_, ?_⟩, ?_, ?_⟩
  · rw [hquery]
    exact htext
  · have hnesting : (rowsValue [nestedRow]).nesting ≤ 4 := by
      simp [rowsValue, nestedRow, Value.nesting, nestingOfElements, nestingOfFields]
    rw [hread, if_pos hnesting]
  · rw [hsent]
    decide +kernel
  · obtain ⟨hblank, -⟩ := executeQuery_prints_rows replay true "\u00a0\t"
    exact hblank (by simp [isBlank])

end WebTrip
