import WebTrip.Proofs.Program.Columns

/-!
# Clean steps

Arguments are inserted into programs as they are, so that an argument may look like any part of a
program. Clean arguments do not: a clean token is one word that has no separator in it and is not a
word of the language. The tokens of a step with clean arguments tell the step.

## Main definitions

- `isCleanToken`: one word that cannot be taken for anything else
- `Call.isPlain`: the calls that are one step of the flow, without a body

## Main statements

- `toList_ne_of_clean`: clean tokens are not words of the language
- `columnTokens_injective`: the tokens of clean columns tell the columns
- `Call.stepTokens_injective`: the tokens of a clean step tell the step
-/

namespace WebTrip

open WebTrip.Text

/-! ## §1 Clean tokens -/

/-- Whether a text is one word without a separator that is not a word of the language. -/
def isCleanToken (s : String) : Bool :=
  !s.toList.isEmpty && s.toList.all (fun c => !isBlank c && !([',', '|', '<', '>'].contains c)) &&
    (Operation.ofKeyword? s).isNone && !(["AS", "THEN", "ELSE"].contains s)

/-- The tokens that have a meaning of their own in a program. -/
def Token.reserved : List Token :=
  ["|>", "|", "<|", "<|>", "AS", "THEN", "ELSE"].map String.toList ++
    Operation.all.map fun op => op.keyword.toList

/-- The tokens that tell the parts of a program from one another. -/
def Token.structural : List Token :=
  ["|>", "|", "<|", "<|>", "ELSE"].map String.toList

/-- Keywords tell their operations. -/
theorem Operation.keyword_injective {op op' : Operation} (h : op.keyword = op'.keyword) :
    op = op' := by
  have hread : ∀ op : Operation, ofKeyword? op.keyword = some op := by
    intro op
    cases op <;> rfl
  exact Option.some.inj ((hread op).symm.trans (h ▸ hread op'))

theorem Target.word_injective {t t' : Target} (h : t.word = t'.word) : t = t' := by
  cases t <;> cases t' <;> first | rfl | exact absurd h (by decide)

theorem TimeMode.word_injective {mode mode' : TimeMode} (h : mode.word = mode'.word) :
    mode = mode' := by
  cases mode <;> cases mode' <;> first | rfl | exact absurd h (by decide)

section Clean

variable {s : String} (h : isCleanToken s = true)

include h

theorem bare_of_clean : isBareToken s = true := by
  simp only [isCleanToken, isBareToken, Bool.and_eq_true] at h ⊢
  obtain ⟨⟨hchars, -⟩, hwords⟩ := h
  refine ⟨hchars, bne_iff_ne.mpr ?_⟩
  rintro rfl
  exact absurd hwords (by decide)

/-- A clean token is one word. -/
theorem words_of_clean : words s = [s.toList] :=
  words_of_bare (bare_of_clean h)

theorem keyword_ne_of_clean (op : Operation) : s ≠ op.keyword := by
  rintro rfl
  simp only [isCleanToken, Bool.and_eq_true] at h
  have hnone : Operation.ofKeyword? op.keyword = none := by simpa using h.1.2
  cases op <;> cases hnone

/-- A clean token has no meaning of its own. -/
theorem toList_ne_of_clean {t : Token} (ht : t ∈ Token.reserved) : s.toList ≠ t := by
  rintro rfl
  rcases List.mem_append.mp ht with ht | ht
  · obtain ⟨text, htext, heq⟩ := List.mem_map.mp ht
    obtain rfl := String.toList_inj.mp heq
    have hno : ∀ text ∈ ["|>", "|", "<|", "<|>", "AS", "THEN", "ELSE"],
        isCleanToken text = false := by decide
    exact absurd h (by simp [hno text htext])
  · obtain ⟨op, -, heq⟩ := List.mem_map.mp ht
    exact keyword_ne_of_clean h op (String.toList_inj.mp heq).symm

theorem not_structural_of_clean : s.toList ∉ Token.structural := by
  have hreserved : ∀ t ∈ Token.structural, t ∈ Token.reserved := by decide
  exact fun hmem => toList_ne_of_clean h (hreserved _ hmem) rfl

end Clean

theorem flatMap_words_of_clean {texts : List String} (h : texts.all isCleanToken = true) :
    texts.flatMap words = texts.map String.toList :=
  flatMap_words_of_bare (List.all_eq_true.mpr fun text htext =>
    bare_of_clean (List.all_eq_true.mp h text htext))

theorem map_toList_injective {texts texts' : List String}
    (h : texts.map String.toList = texts'.map String.toList) : texts = texts' :=
  (List.map_inj_right fun _ _ heq => String.toList_inj.mp heq).mp h

/-! ## §2 Clean columns -/

/-- Whether the texts of an extraction are clean. -/
def Extraction.isClean (e : Extraction) : Bool :=
  isCleanToken e.selector && e.name.all isCleanToken

/-- The tokens of a clean extraction at the end of a selection. -/
theorem Extraction.tokens_of_clean {e : Extraction} (h : e.isClean = true) :
    e.tokens "" = match e.name with
      | some name => [e.selector.toList, "AS".toList, name.toList]
      | none => [e.selector.toList] := by
  rw [isClean, Bool.and_eq_true] at h
  cases hname : e.name with
  | none => simp only [tokens, hname, String.append_empty, words_of_clean h.1]
  | some name =>
    rw [hname] at h
    simp only [tokens, hname, String.append_empty, words_of_clean h.1, words_of_clean h.2,
      List.singleton_append]

/-- The tokens of a clean extraction with more behind it. -/
theorem Extraction.tokens_comma_of_clean {e : Extraction} (h : e.isClean = true) :
    e.tokens "," = match e.name with
      | some name => [e.selector.toList, "AS".toList, name.toList ++ [',']]
      | none => [e.selector.toList ++ [',']] := by
  rw [isClean, Bool.and_eq_true] at h
  cases hname : e.name with
  | none => simp only [tokens, hname, words_comma_of_bare (bare_of_clean h.1)]
  | some name =>
    rw [hname] at h
    simp only [tokens, hname, words_of_clean h.1, words_comma_of_bare (bare_of_clean h.2),
      List.singleton_append]

theorem Extraction.bare_of_clean {e : Extraction} (h : e.isClean = true) : e.isBare = true := by
  rw [isClean, Bool.and_eq_true] at h
  rw [isBare, Bool.and_eq_true]
  refine ⟨WebTrip.bare_of_clean h.1, ?_⟩
  cases hname : e.name with
  | none => rfl
  | some name =>
    rw [hname] at h
    exact WebTrip.bare_of_clean h.2

/-- The tokens of clean columns tell the columns. -/
theorem columnTokens_injective {es es' : List Extraction} (h : es.all Extraction.isClean = true)
    (h' : es'.all Extraction.isClean = true) (heq : columnTokens es = columnTokens es') :
    es = es' := by
  have hbare : ∀ {es : List Extraction}, es.all Extraction.isClean = true →
      es.all Extraction.isBare = true := fun h =>
    List.all_eq_true.mpr fun e he => Extraction.bare_of_clean (List.all_eq_true.mp h e he)
  rw [← readColumns_columnTokens (hbare h), heq, readColumns_columnTokens (hbare h')]

theorem Extraction.tokens_not_structural {e : Extraction} (h : e.isClean = true) :
    (∀ t ∈ e.tokens "", t ∉ Token.structural) ∧ ∀ t ∈ e.tokens ",", t ∉ Token.structural := by
  have hno : ∀ t ∈ Token.structural, ',' ∉ t := by decide
  have hcomma : ∀ cs : Token, cs ++ [','] ∉ Token.structural := fun cs hmem => hno _ hmem (by simp)
  have has : "AS".toList ∉ Token.structural := by decide
  rw [tokens_of_clean h, tokens_comma_of_clean h]
  rw [isClean, Bool.and_eq_true] at h
  have hselector := not_structural_of_clean h.1
  cases hname : e.name with
  | none => exact ⟨by simpa using hselector, by simpa using hcomma _⟩
  | some name =>
    rw [hname] at h
    have hname' := not_structural_of_clean h.2
    simp only [List.forall_mem_cons]
    exact ⟨⟨hselector, has, hname', nofun⟩, hselector, has, hcomma _, nofun⟩

theorem columnTokens_not_structural {es : List Extraction}
    (h : es.all Extraction.isClean = true) : ∀ t ∈ columnTokens es, t ∉ Token.structural := by
  induction es with
  | nil => nofun
  | cons e rest ih =>
    rw [List.all_cons, Bool.and_eq_true] at h
    cases rest with
    | nil => exact (Extraction.tokens_not_structural h.1).1
    | cons next rest =>
      intro t ht
      rcases List.mem_append.mp ht with ht | ht
      · exact (Extraction.tokens_not_structural h.1).2 t ht
      · exact ih h.2 t ht

/-! ## §3 Plain steps -/

namespace Call

/-- The operation that a call records. -/
def operation : Call → Operation
  | .navigate _ => .navigate
  | .clickTimes _ _ => .click
  | .enter _ _ => .enter
  | .dive _ => .dive
  | .imitate _ => .according
  | .on _ => .target
  | .group _ => .group
  | .select _ => .select
  | .distinct _ => .distinct
  | .window _ _ _ => .window
  | .assign _ _ => .assign
  | .define _ _ _ => .assign
  | .applyWith _ _ => .run
  | .when _ _ => .branch
  | .whenElse _ _ _ => .branch

/-- Whether a call is one step of the flow, without a body, whose texts are clean. -/
def isPlain : Call → Bool
  | .navigate url => isCleanToken url
  | .clickTimes selector times => times == 1 && isCleanToken selector
  | .enter selector text => isCleanToken selector && isCleanToken text
  | .dive column => isCleanToken column
  | .imitate skill => isCleanToken skill
  | .group selector => isCleanToken selector
  | .select extractions => extractions.all Extraction.isClean
  | .distinct column => isCleanToken column
  | .window _ timestamp radius => isCleanToken timestamp && radius.toList.all isCleanToken
  | .applyWith name args => isCleanToken name && args.all isCleanToken
  | .on _ | .assign _ _ | .define _ _ _ | .when _ _ | .whenElse _ _ _ => false

/-- The tokens of a plain step. -/
def stepTokens (call : Call) : List Token :=
  call.tokens.flow.flatten

/-- The tokens that a plain step always starts with. -/
def ownTokens : Call → List Token
  | .navigate _ => ["FROM".toList]
  | .clickTimes _ _ => ["CLICK".toList, "ON".toList]
  | .enter _ _ => ["ENTER".toList, "INTO".toList]
  | .dive _ => ["DIVE".toList, "INTO".toList]
  | .imitate _ => ["ACCORDING".toList, "TO".toList]
  | .group _ => ["GROUP".toList, "BY".toList]
  | .select _ => ["SELECT".toList]
  | .distinct _ => ["DISTINCT".toList]
  | .window mode _ _ => ["WITH".toList, "TIME".toList, mode.word.toList]
  | _ => []

/-- The texts of a plain step. -/
def texts : Call → List String
  | .navigate url => [url]
  | .clickTimes selector _ => [selector]
  | .enter selector text => [selector, text]
  | .dive column => [column]
  | .imitate skill => [skill]
  | .group selector => [selector]
  | .distinct column => [column]
  | .window _ timestamp radius => timestamp :: radius.toList
  | .applyWith name args => name :: args
  | _ => []

/-- The columns of a plain step. -/
def columns : Call → List Extraction
  | .select extractions => extractions
  | _ => []

section Plain

variable {call : Call} (h : call.isPlain = true)

include h

theorem clean_texts_of_plain : call.texts.all isCleanToken = true := by
  cases call <;> simp_all [isPlain, texts]

theorem clean_columns_of_plain : call.columns.all Extraction.isClean = true := by
  cases call <;> simp_all [isPlain, columns]

/-- A plain step is its own tokens, its texts and its columns. -/
theorem stepTokens_of_plain : call.stepTokens =
    call.ownTokens ++ call.texts.map String.toList ++ columnTokens call.columns := by
  rw [← flatMap_words_of_clean (clean_texts_of_plain h)]
  cases call <;>
    simp_all [isPlain, stepTokens, tokens, Blocks.steps, ownTokens, texts, columns, columnTokens]

theorem stepTokens_not_structural : ∀ t ∈ call.stepTokens, t ∉ Token.structural := by
  have hown : (call.ownTokens.all fun t => !Token.structural.contains t) = true := by
    cases call with
    | window mode => cases mode <;> rfl
    | _ => rfl
  rw [stepTokens_of_plain h]
  intro t ht
  rcases List.mem_append.mp ht with ht | ht
  · rcases List.mem_append.mp ht with ht | ht
    · simpa using List.all_eq_true.mp hown t ht
    · obtain ⟨text, htext, rfl⟩ := List.mem_map.mp ht
      exact not_structural_of_clean (List.all_eq_true.mp (clean_texts_of_plain h) text htext)
  · exact columnTokens_not_structural (clean_columns_of_plain h) t ht

/-- A plain step starts with its keyword, or with a name that is not a keyword. -/
theorem stepTokens_head : ∃ first rest, call.stepTokens = first :: rest ∧
    ((call.operation = .run ∧ ∃ name, isCleanToken name = true ∧ first = name.toList) ∨
      (call.operation ≠ .run ∧ first = call.operation.keyword.toList)) := by
  rw [stepTokens_of_plain h]
  cases call with
  | applyWith name args =>
    rw [isPlain, Bool.and_eq_true] at h
    exact ⟨_, _, rfl, Or.inl ⟨rfl, name, h.1, rfl⟩⟩
  | on | assign | define | when | whenElse => cases h
  | _ => exact ⟨_, _, rfl, Or.inr ⟨nofun, rfl⟩⟩

/-- A plain step does not start like a branch or a target. -/
theorem stepTokens_head_ne : ∃ first rest, call.stepTokens = first :: rest ∧
    first ∉ Token.structural ∧ first ≠ "WHEN".toList ∧ first ≠ "TARGET".toList := by
  obtain ⟨first, rest, hfirst, hcases⟩ := stepTokens_head h
  refine ⟨first, rest, hfirst, stepTokens_not_structural h first (hfirst ▸ List.mem_cons_self), ?_⟩
  rcases hcases with ⟨-, name, hname, rfl⟩ | ⟨-, rfl⟩
  · exact ⟨toList_ne_of_clean hname (by decide), toList_ne_of_clean hname (by decide)⟩
  · -- branches and targets are not plain
    have hop : call.operation ≠ .branch ∧ call.operation ≠ .target := by
      cases call with
      | on | assign | define | when | whenElse => cases h
      | _ => exact ⟨nofun, nofun⟩
    have hne : ∀ {op : Operation}, call.operation ≠ op →
        call.operation.keyword.toList ≠ op.keyword.toList :=
      fun hop heq => hop (Operation.keyword_injective (String.toList_inj.mp heq))
    exact ⟨hne hop.1, hne hop.2⟩

end Plain

variable {call call' : Call} (h : call.isPlain = true) (h' : call'.isPlain = true)

include h h'

/-- The first token of a plain step tells its operation. -/
theorem operation_eq_of_stepTokens_eq (heq : call.stepTokens = call'.stepTokens) :
    call.operation = call'.operation := by
  obtain ⟨first, rest, hfirst, hcases⟩ := stepTokens_head h
  obtain ⟨first', rest', hfirst', hcases'⟩ := stepTokens_head h'
  obtain rfl : first = first' := (List.cons.inj (hfirst.symm.trans (heq.trans hfirst'))).1
  rcases hcases with ⟨hop, name, hname, rfl⟩ | ⟨-, rfl⟩
  · rcases hcases' with ⟨hop', -⟩ | ⟨-, hkeyword⟩
    · rw [hop, hop']
    · exact absurd (String.toList_inj.mp hkeyword) (keyword_ne_of_clean hname _)
  · rcases hcases' with ⟨-, name', hname', hkeyword⟩ | ⟨-, hkeyword⟩
    · exact absurd (String.toList_inj.mp hkeyword).symm (keyword_ne_of_clean hname' _)
    · exact Operation.keyword_injective (String.toList_inj.mp hkeyword)

/-- **Plain steps** are told by their tokens. -/
theorem stepTokens_injective (heq : call.stepTokens = call'.stepTokens) : call = call' := by
  -- the operations agree, so that only steps of the same kind are left to compare
  have hop := operation_eq_of_stepTokens_eq h h' heq
  rw [stepTokens_of_plain h, stepTokens_of_plain h'] at heq
  cases call with
  | navigate url =>
    cases call' with
    | navigate url' => simpa [ownTokens, texts, columns, columnTokens, String.toList_inj] using heq
    | _ => cases hop
  | clickTimes selector times =>
    cases call' with
    | clickTimes selector' times' =>
      simp only [isPlain, Bool.and_eq_true, beq_iff_eq] at h h'
      simpa [ownTokens, texts, columns, columnTokens, String.toList_inj, h.1, h'.1] using heq
    | _ => cases hop
  | enter selector text =>
    cases call' with
    | enter selector' text' =>
      simpa [ownTokens, texts, columns, columnTokens, String.toList_inj] using heq
    | _ => cases hop
  | dive column =>
    cases call' with
    | dive column' => simpa [ownTokens, texts, columns, columnTokens, String.toList_inj] using heq
    | _ => cases hop
  | imitate skill =>
    cases call' with
    | imitate skill' => simpa [ownTokens, texts, columns, columnTokens, String.toList_inj] using heq
    | _ => cases hop
  | group selector =>
    cases call' with
    | group selector' =>
      simpa [ownTokens, texts, columns, columnTokens, String.toList_inj] using heq
    | _ => cases hop
  | select extractions =>
    cases call' with
    | select extractions' =>
      rw [columnTokens_injective h h' (List.cons.inj heq).2]
    | _ => cases hop
  | distinct column =>
    cases call' with
    | distinct column' =>
      simpa [ownTokens, texts, columns, columnTokens, String.toList_inj] using heq
    | _ => cases hop
  | window mode timestamp radius =>
    cases call' with
    | window mode' timestamp' radius' =>
      obtain ⟨hword, htimestamp, hradius⟩ : mode.word.toList = mode'.word.toList ∧
          timestamp = timestamp' ∧
          radius.toList.map String.toList = radius'.toList.map String.toList := by
        simpa [ownTokens, texts, columns, columnTokens, String.toList_inj] using heq
      have hhead := congrArg List.head? (map_toList_injective hradius)
      rw [Option.head?_toList, Option.head?_toList] at hhead
      rw [TimeMode.word_injective (String.toList_inj.mp hword), htimestamp, hhead]
    | _ => cases hop
  | applyWith name args =>
    cases call' with
    | applyWith name' args' =>
      obtain ⟨hname, hargs⟩ : name = name' ∧
          args.map String.toList = args'.map String.toList := by
        simpa [ownTokens, texts, columns, columnTokens, String.toList_inj] using heq
      rw [hname, map_toList_injective hargs]
    | _ => cases hop
  | _ => cases h

end Call

end WebTrip
