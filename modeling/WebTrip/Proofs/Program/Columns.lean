import WebTrip.Proofs.Program.Tokens

/-!
# Bare tokens and columns

Arguments are inserted into programs as they are. A bare token is an argument that stays one word
and has no separator in it. The columns of a selection are read back from their tokens, if these are
bare: only the word `AS` between a selector and a name has to be told from the two.

## Main definitions

- `isBareToken`: one word without a separator
- `readColumns`: reads the columns of a selection

## Main statements

- `words_of_bare`, `words_comma_of_bare`: a bare token is one word of a program
- `readColumns_columnTokens`: bare columns are read back
-/

namespace WebTrip

open WebTrip.Text

/-! ## §1 Bare tokens -/

/-- Whether a text is one word without a separator, other than `AS`. -/
def isBareToken (s : String) : Bool :=
  !s.toList.isEmpty && s.toList.all (fun c => !isBlank c && !([',', '|', '<', '>'].contains c)) &&
    s != "AS"

theorem wordsFrom_of_no_blank {cs : List Char} (h : ∀ c ∈ cs, isBlank c = false)
    (current : List Char) (hne : current.reverse ++ cs ≠ []) :
    wordsFrom current cs = [current.reverse ++ cs] := by
  induction cs generalizing current with
  | nil =>
    rw [List.append_nil] at hne ⊢
    cases current with
    | nil => exact absurd rfl hne
    | cons c current => rfl
  | cons c rest ih =>
    obtain ⟨hc, hrest⟩ := List.forall_mem_cons.mp h
    rw [wordsFrom, hc, if_neg Bool.false_ne_true, ih hrest _ (by simp)]
    simp

section Bare

variable {s : String} (h : isBareToken s = true)

include h

theorem bare_ne_nil : s.toList ≠ [] := by
  simp only [isBareToken, Bool.and_eq_true] at h
  simpa using h.1.1

theorem bare_chars : ∀ c ∈ s.toList, isBlank c = false ∧ c ∉ [',', '|', '<', '>'] := by
  simp only [isBareToken, Bool.and_eq_true] at h
  intro c hc
  simpa using List.all_eq_true.mp h.1.2 c hc

/-- A bare token is one word. -/
theorem words_of_bare : words s = [s.toList] :=
  wordsFrom_of_no_blank (fun c hc => (bare_chars h c hc).1) [] (bare_ne_nil h)

/-- A bare token with a comma behind it is one word. -/
theorem words_comma_of_bare : words (s ++ ",") = [s.toList ++ [',']] := by
  rw [words, String.toList_append]
  refine wordsFrom_of_no_blank (fun c hc => ?_) [] (by simp)
  rcases List.mem_append.mp hc with hc | hc
  · exact (bare_chars h c hc).1
  · obtain rfl := List.mem_singleton.mp hc
    decide

theorem comma_not_mem_of_bare : ',' ∉ s.toList :=
  fun hc => (bare_chars h _ hc).2 (by decide)

theorem bar_not_mem_of_bare : '|' ∉ s.toList :=
  fun hc => (bare_chars h _ hc).2 (by decide)

theorem toList_ne_as_of_bare : s.toList ≠ "AS".toList := by
  intro heq
  rw [String.toList_inj.mp heq] at h
  exact absurd h (by decide)

end Bare

theorem flatMap_words_of_bare {texts : List String} (h : texts.all isBareToken = true) :
    texts.flatMap words = texts.map String.toList := by
  induction texts with
  | nil => rfl
  | cons text rest ih =>
    rw [List.all_cons, Bool.and_eq_true] at h
    rw [List.flatMap_cons, words_of_bare h.1, ih h.2]
    rfl

/-! ## §2 Columns -/

/-- A token as a text, without the comma that may stand behind it. -/
def Token.text (t : Token) : String :=
  String.ofList (t.filter (· != ','))

/-- Reads the columns of a selection. -/
def readColumns : List Token → List Extraction
  | [] => []
  | [selector] => [⟨selector.text, none⟩]
  | [selector, next] => [⟨selector.text, none⟩, ⟨next.text, none⟩]
  | selector :: mark :: name :: rest =>
    if mark = "AS".toList then ⟨selector.text, some name.text⟩ :: readColumns rest
    else ⟨selector.text, none⟩ :: readColumns (mark :: name :: rest)

/-- Whether the texts of an extraction are bare. -/
def Extraction.isBare (e : Extraction) : Bool :=
  isBareToken e.selector && e.name.all isBareToken

theorem Token.text_of_bare {s : String} (h : isBareToken s = true) :
    Token.text s.toList = s ∧ Token.text (s.toList ++ [',']) = s := by
  have hfilter : s.toList.filter (· != ',') = s.toList :=
    List.filter_eq_self.mpr fun c hc => bne_iff_ne.mpr fun heq =>
      comma_not_mem_of_bare h (heq ▸ hc)
  simp [Token.text, hfilter]

/-- A bare token is read from its word, with a comma behind it or without. -/
theorem exists_words_of_bare {s mark : String} (h : isBareToken s = true)
    (hmark : mark = "" ∨ mark = ",") :
    ∃ t, words (s ++ mark) = [t] ∧ Token.text t = s ∧ t ≠ "AS".toList ∧ '|' ∉ t := by
  obtain ⟨htext, hcomma⟩ := Token.text_of_bare h
  rcases hmark with rfl | rfl
  · rw [String.append_empty]
    exact ⟨_, words_of_bare h, htext, toList_ne_as_of_bare h, bar_not_mem_of_bare h⟩
  · refine ⟨_, words_comma_of_bare h, hcomma, fun heq => ?_, by simpa using bar_not_mem_of_bare h⟩
    -- the comma tells the token from the word
    have hmem : ',' ∈ s.toList ++ [','] := by simp
    rw [heq] at hmem
    exact absurd hmem (by decide)

/-- Without the word for a name behind it, a token is a column without a name. -/
theorem readColumns_cons {selector : Token} {rest : List Token}
    (h : rest.head? ≠ some "AS".toList) :
    readColumns (selector :: rest) = ⟨selector.text, none⟩ :: readColumns rest := by
  match rest with
  | [] | [_] => rfl
  | mark :: name :: more =>
    have hmark : mark ≠ "AS".toList := fun heq => h (congrArg some heq)
    rw [readColumns, if_neg hmark]

/-- A bare column is read back, and then the tokens behind it. -/
theorem readColumns_append {e : Extraction} (h : e.isBare = true) {mark : String}
    (hmark : mark = "" ∨ mark = ",") {rest : List Token} (hrest : rest.head? ≠ some "AS".toList) :
    readColumns (e.tokens mark ++ rest) = e :: readColumns rest ∧
      (e.tokens mark ++ rest).head? ≠ some "AS".toList := by
  obtain ⟨selector, name⟩ := e
  rw [Extraction.isBare, Bool.and_eq_true] at h
  cases name with
  | none =>
    obtain ⟨t, ht, htext, hne, -⟩ := exists_words_of_bare h.1 hmark
    simp only [Extraction.tokens, ht, List.singleton_append]
    rw [readColumns_cons hrest, htext]
    exact ⟨rfl, by simpa using hne⟩
  | some name =>
    obtain ⟨t, ht, htext, -⟩ := exists_words_of_bare h.2 hmark
    simp only [Extraction.tokens, ht, words_of_bare h.1, List.cons_append, List.nil_append]
    rw [readColumns, if_pos rfl, htext, (Token.text_of_bare h.1).1]
    exact ⟨rfl, by simpa using toList_ne_as_of_bare h.1⟩

/-- **Bare columns** are read back from their tokens. -/
theorem readColumns_columnTokens {es : List Extraction} (h : es.all Extraction.isBare = true) :
    readColumns (columnTokens es) = es := by
  -- what stands behind a column must not look like the word for a name
  suffices hread : readColumns (columnTokens es) = es ∧
      (columnTokens es).head? ≠ some "AS".toList from hread.1
  induction es with
  | nil => exact ⟨rfl, nofun⟩
  | cons e rest ih =>
    rw [List.all_cons, Bool.and_eq_true] at h
    obtain ⟨hread, hhead⟩ := ih h.2
    cases rest with
    | nil => simpa [columnTokens, readColumns] using readColumns_append h.1 (.inl rfl) hhead
    | cons next rest =>
      rw [columnTokens]
      have happend := readColumns_append h.1 (.inr rfl) hhead
      rwa [hread] at happend

theorem Extraction.bar_not_mem_tokens {e : Extraction} (h : e.isBare = true) {mark : String}
    (hmark : mark = "" ∨ mark = ",") : ∀ t ∈ e.tokens mark, '|' ∉ t := by
  obtain ⟨selector, name⟩ := e
  rw [isBare, Bool.and_eq_true] at h
  cases name with
  | none =>
    obtain ⟨t, ht, -, -, hbar⟩ := exists_words_of_bare h.1 hmark
    simpa only [tokens, ht, List.forall_mem_singleton] using hbar
  | some name =>
    obtain ⟨t, ht, -, -, hbar⟩ := exists_words_of_bare h.2 hmark
    have has : '|' ∉ "AS".toList := by decide
    simp only [tokens, ht, words_of_bare h.1, List.cons_append, List.nil_append,
      List.forall_mem_cons]
    exact ⟨bar_not_mem_of_bare h.1, has, hbar, List.forall_mem_nil _⟩

theorem bar_not_mem_columnTokens {es : List Extraction} (h : es.all Extraction.isBare = true) :
    ∀ t ∈ columnTokens es, '|' ∉ t := by
  induction es with
  | nil => nofun
  | cons e rest ih =>
    rw [List.all_cons, Bool.and_eq_true] at h
    cases rest with
    | nil => exact e.bar_not_mem_tokens h.1 (.inl rfl)
    | cons next rest =>
      exact List.forall_mem_append.mpr ⟨e.bar_not_mem_tokens h.1 (.inr rfl), ih h.2⟩

end WebTrip
