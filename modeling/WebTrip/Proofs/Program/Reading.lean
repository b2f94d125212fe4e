import WebTrip.Proofs.Program.Marks

/-!
# Reading programs

Which marks a program has can be read off its tokens if the texts in it are clean: the first two
tokens of a mark tell its kind, and what may stand behind it tells where it ends. Clean trips
therefore have the same tokens exactly if they have the same marks.

## Main definitions

- `Mark.kindOf?`: the kind of the mark in front of a stream
- `Mark.Readable`: marks each of which may stand in front of the next
- `Call.isCleanAll`: the calls whose texts are clean at every depth

## Main statements

- `Mark.tokens_unique`, `Mark.stream_unique`: marks are told by their tokens
- `Call.readable_arrangedAll`: the marks of clean calls are readable
- `Call.reading_eq_iff`: clean trips have the same tokens exactly if their marks are the same
-/

namespace WebTrip

open WebTrip.Text

/-! ## §1 Clean marks -/

/-- The kinds of marks. -/
inductive Mark.Kind where
  | binding
  | target
  | opening
  | closing
  | step
  | branch
  | otherwise

namespace Mark

/-- The kind of a mark. -/
def kind : Mark → Kind
  | .binding _ _ => .binding
  | .target _ => .target
  | .opening _ _ => .opening
  | .closing => .closing
  | .step _ => .step
  | .branch _ => .branch
  | .otherwise => .otherwise

/-- Whether the texts of a mark are clean. -/
def isClean : Mark → Bool
  | .binding name value => isCleanToken name && isCleanToken value
  | .opening name params => isCleanToken name && params.all isCleanToken
  | .step call => call.isPlain
  | .branch condition => isCleanToken condition
  | .target _ | .closing | .otherwise => true

/-- The kind of the mark in front of a stream, by its first two tokens. -/
def kindOf? : List Token → Option Kind
  | [] => none
  | first :: rest =>
    if first = "|".toList then some .closing
    else if first = "ELSE".toList then some .otherwise
    else if first = Token.pipe then
      some (if rest.head? = some "WHEN".toList then .branch else .step)
    else if first = "TARGET".toList then some .target
    else if rest.head? = some "<|".toList then some .binding
    else if rest.head? = some "<|>".toList then some .opening
    else none

/-- Behind a token without a meaning of its own, the next one decides. -/
theorem kindOf?_cons {first : Token} (h : first ∉ Token.structural)
    (htarget : first ≠ "TARGET".toList) (rest : List Token) :
    kindOf? (first :: rest) = if rest.head? = some "<|".toList then some .binding
      else if rest.head? = some "<|>".toList then some .opening else none := by
  have hbar : first ≠ "|".toList := fun heq => h (heq ▸ by decide)
  have helse : first ≠ "ELSE".toList := fun heq => h (heq ▸ by decide)
  have hpipe : first ≠ Token.pipe := fun heq => h (heq ▸ by decide)
  rw [kindOf?, if_neg hbar, if_neg helse, if_neg hpipe, if_neg htarget]

theorem kindOf?_clean {s : String} (h : isCleanToken s = true) (rest : List Token) :
    kindOf? (s.toList :: rest) = if rest.head? = some "<|".toList then some .binding
      else if rest.head? = some "<|>".toList then some .opening else none :=
  kindOf?_cons (not_structural_of_clean h) (toList_ne_of_clean h (by decide)) rest

theorem tokens_binding {name value : String} (h : (binding name value).isClean = true) :
    (binding name value).tokens =
      [name.toList, "<|".toList, value.toList, "|".toList] := by
  rw [isClean, Bool.and_eq_true] at h
  simp only [tokens, words_of_clean h.1, words_of_clean h.2, List.cons_append, List.nil_append]

/-- The first two tokens of a clean mark tell its kind. -/
theorem kindOf?_tokens {m : Mark} (h : m.isClean = true) (r : List Token) :
    kindOf? (m.tokens ++ r) = some m.kind := by
  cases m with
  | binding name value =>
    rw [isClean, Bool.and_eq_true] at h
    simp [tokens, words_of_clean h.1, kindOf?_clean h.1, kind]
  | target t => rfl
  | opening name params =>
    rw [isClean, Bool.and_eq_true] at h
    simp [tokens, words_of_clean h.1, kindOf?_clean h.1, kind]
  | closing => rfl
  | step call =>
    -- only a branch has a `WHEN` behind its pipe
    obtain ⟨first, rest, hfirst, -, hwhen, -⟩ := Call.stepTokens_head_ne h
    rw [tokens, hfirst, List.cons_append, kindOf?, if_neg (by decide), if_neg (by decide),
      if_pos rfl, if_neg]
    · rfl
    · rw [List.cons_append, List.head?_cons]
      exact fun heq => hwhen (Option.some.inj heq)
  | branch condition => rfl
  | otherwise => rfl

/-! ## §2 Unique reading -/

/-- A token that ends a step: a pipe, the end of a function or an `ELSE`. -/
def IsStop (t : Token) : Prop :=
  t = Token.pipe ∨ t = "|".toList ∨ t = "ELSE".toList

/-- A stream that ends a step. -/
def Stops (r : List Token) : Prop :=
  ∀ t ∈ r.head?, IsStop t

/-- A stream with a mark in front. -/
def Begins (r : List Token) : Prop :=
  ∃ m rest, isClean m = true ∧ r = tokens m ++ rest

/-- A stream may stand behind a mark: a step needs something that ends it, and the head of a
function a body. -/
def MayPrecede (r : List Token) : Mark → Prop
  | .step _ => Stops r
  | .opening _ _ => Begins r
  | _ => True

/-- The marks are clean, and what stands behind each of them may stand there; behind the last one
stands a stream. -/
def Readable (r : List Token) : List Mark → Prop
  | [] => True
  | m :: rest => m.isClean = true ∧ m.MayPrecede (stream rest ++ r) ∧ Readable r rest

theorem not_isStop_of_plain {call : Call} (h : call.isPlain = true) :
    ∀ t ∈ call.stepTokens, ¬ IsStop t := by
  intro t ht hstop
  refine Call.stepTokens_not_structural h t ht ?_
  rcases hstop with rfl | rfl | rfl <;> decide

theorem begins_of_readable {r : List Token} {marks : List Mark} (h : Readable r marks)
    (hne : marks ≠ []) : Begins (stream marks ++ r) := by
  cases marks with
  | nil => exact absurd rfl hne
  | cons m rest =>
    rw [stream_cons, List.append_assoc]
    exact ⟨m, _, h.1, rfl⟩

/-- Two lists end at the same place in a stream if both end at the first token of some kind. -/
theorem append_unique {stop : Token → Prop} {xs xs' r r' : List Token} (hxs : ∀ t ∈ xs, ¬ stop t)
    (hxs' : ∀ t ∈ xs', ¬ stop t) (hr : ∀ t ∈ r.head?, stop t) (hr' : ∀ t ∈ r'.head?, stop t)
    (heq : xs ++ r = xs' ++ r') : xs = xs' ∧ r = r' := by
  induction xs generalizing xs' with
  | nil =>
    cases xs' with
    | nil => exact ⟨rfl, heq⟩
    | cons t rest =>
      rw [List.nil_append] at heq
      exact absurd (hr t (by simp [heq])) (hxs' t List.mem_cons_self)
  | cons t rest ih =>
    cases xs' with
    | nil =>
      rw [List.nil_append] at heq
      exact absurd (hr' t (by simp [← heq])) (hxs t List.mem_cons_self)
    | cons t' rest' =>
      obtain ⟨rfl, htail⟩ := List.cons.inj heq
      obtain ⟨rfl, hrest⟩ := ih (fun t ht => hxs t (List.mem_cons_of_mem _ ht))
        (fun t ht => hxs' t (List.mem_cons_of_mem _ ht)) htail
      exact ⟨rfl, hrest⟩

theorem paramTokens_of_clean {params : List String} (h : params.all isCleanToken = true) :
    paramTokens params = if params.isEmpty then []
      else params.map String.toList ++ ["<|".toList] := by
  rw [paramTokens, flatMap_words_of_clean h]

/-- A body does not start like parameters: behind a name and `<|` there would have to be the value
of a binding and a bar, which cannot start a body. -/
theorem start_ne_params {params : List String} (hparams : params.all isCleanToken = true)
    (hne : params ≠ []) {m m' : Mark} (hm : m.isClean = true) (hm' : m'.isClean = true)
    (r r' : List Token) :
    m.tokens ++ r ≠ params.map String.toList ++ "<|".toList :: (m'.tokens ++ r') := by
  intro heq
  have hkind := kindOf?_tokens hm r
  cases params with
  | nil => exact hne rfl
  | cons first rest =>
    rw [List.all_cons, Bool.and_eq_true] at hparams
    rw [heq, List.map_cons, List.cons_append, kindOf?_clean hparams.1] at hkind
    cases rest with
    | nil =>
      -- the first mark is a binding, and a bar follows its value
      cases m with
      | binding name value =>
        rw [tokens_binding hm] at heq
        rw [isClean, Bool.and_eq_true] at hm
        have hrest : m'.tokens ++ r' = value.toList :: "|".toList :: r :=
          (List.cons.inj (List.cons.inj heq).2).2.symm
        have hkind' := kindOf?_tokens hm' r'
        rw [hrest, kindOf?_clean hm.2] at hkind'
        simp at hkind'
      | _ => simp [kind] at hkind
    | cons second rest =>
      -- no mark has two texts in front
      rw [List.all_cons, Bool.and_eq_true] at hparams
      have hsecond : second.toList ≠ "<|".toList := toList_ne_of_clean hparams.2.1 (by decide)
      have hsecond' : second.toList ≠ "<|>".toList := toList_ne_of_clean hparams.2.1 (by decide)
      simp only [List.map_cons, List.cons_append, List.head?_cons, Option.some.injEq, hsecond,
        hsecond', if_false] at hkind
      cases hkind

/-- The tokens of parameters tell them, in front of a body. -/
theorem paramTokens_unique {params params' : List String} {r r' : List Token}
    (h : params.all isCleanToken = true) (h' : params'.all isCleanToken = true) (hr : Begins r)
    (hr' : Begins r') (heq : paramTokens params ++ r = paramTokens params' ++ r') :
    params = params' ∧ r = r' := by
  rw [paramTokens_of_clean h, paramTokens_of_clean h'] at heq
  obtain ⟨m, rest, hm, rfl⟩ := hr
  obtain ⟨m', rest', hm', rfl⟩ := hr'
  -- with parameters on one side only, the body on the other one would start like parameters
  by_cases hnil : params = []
  · by_cases hnil' : params' = []
    · subst hnil hnil'
      exact ⟨rfl, heq⟩
    · subst hnil
      exact absurd (by simpa [hnil'] using heq) (start_ne_params h' hnil' hm hm' rest rest')
  · by_cases hnil' : params' = []
    · subst hnil'
      exact absurd (by simpa [hnil] using heq.symm) (start_ne_params h hnil hm' hm rest' rest)
    · -- both lists of parameters end at the first `<|`
      have hno : ∀ {params : List String}, params.all isCleanToken = true →
          ∀ t ∈ params.map String.toList, ¬ t = "<|".toList := by
        intro params h t ht
        obtain ⟨text, htext, rfl⟩ := List.mem_map.mp ht
        exact toList_ne_of_clean (List.all_eq_true.mp h text htext) (by decide)
      have hsplit : params.map String.toList ++ "<|".toList :: (m.tokens ++ rest) =
          params'.map String.toList ++ "<|".toList :: (m'.tokens ++ rest') := by
        simpa [hnil, hnil'] using heq
      obtain ⟨hparams, hrest⟩ := append_unique (hno h) (hno h') (by simp) (by simp) hsplit
      exact ⟨map_toList_injective hparams, (List.cons.inj hrest).2⟩

/-- **A mark** in front of a stream is told by its tokens. -/
theorem tokens_unique {m m' : Mark} {r r' : List Token} (h : m.isClean = true)
    (h' : m'.isClean = true) (hr : m.MayPrecede r) (hr' : m'.MayPrecede r')
    (heq : m.tokens ++ r = m'.tokens ++ r') : m = m' ∧ r = r' := by
  -- only marks of the same kind are left to compare
  have hkind : m.kind = m'.kind :=
    Option.some.inj ((kindOf?_tokens h r).symm.trans (heq ▸ kindOf?_tokens h' r'))
  cases m with
  | binding name value =>
    cases m' with
    | binding name' value' =>
      rw [tokens_binding h, tokens_binding h'] at heq
      simpa [String.toList_inj, and_assoc] using heq
    | _ => cases hkind
  | target t =>
    cases m' with
    | target t' =>
      obtain ⟨hword, hrest⟩ : t.word = t'.word ∧ r = r' := by
        simpa [tokens, String.toList_inj] using heq
      exact ⟨congrArg _ (Target.word_injective hword), hrest⟩
    | _ => cases hkind
  | opening name params =>
    cases m' with
    | opening name' params' =>
      rw [isClean, Bool.and_eq_true] at h h'
      obtain ⟨hname, hparams⟩ : name = name' ∧
          paramTokens params ++ r = paramTokens params' ++ r' := by
        simpa [tokens, words_of_clean h.1, words_of_clean h'.1, String.toList_inj] using heq
      obtain ⟨hparams, hrest⟩ := paramTokens_unique h.2 h'.2 hr hr' hparams
      exact ⟨by rw [hname, hparams], hrest⟩
    | _ => cases hkind
  | closing =>
    cases m' with
    | closing => exact ⟨rfl, (List.cons.inj heq).2⟩
    | _ => cases hkind
  | step call =>
    cases m' with
    | step call' =>
      obtain ⟨htokens, hrest⟩ := append_unique (not_isStop_of_plain h) (not_isStop_of_plain h') hr
        hr' (List.cons.inj heq).2
      exact ⟨congrArg _ (Call.stepTokens_injective h h' htokens), hrest⟩
    | _ => cases hkind
  | branch condition =>
    cases m' with
    | branch condition' =>
      obtain ⟨hcondition, hrest⟩ : condition = condition' ∧ r = r' := by
        simpa [tokens, words_of_clean h, words_of_clean h', String.toList_inj] using heq
      exact ⟨congrArg _ hcondition, hrest⟩
    | _ => cases hkind
  | otherwise =>
    cases m' with
    | otherwise => exact ⟨rfl, (List.cons.inj heq).2⟩
    | _ => cases hkind

/-- **Marks** are told by their tokens, in front of streams that do not begin with a mark. -/
theorem stream_unique {marks marks' : List Mark} {r r' : List Token} (h : Readable r marks)
    (h' : Readable r' marks') (hr : kindOf? r = none) (hr' : kindOf? r' = none)
    (heq : stream marks ++ r = stream marks' ++ r') : marks = marks' ∧ r = r' := by
  -- the marks end together, because no mark begins what stands behind them
  have hend : ∀ {m : Mark} {r rest : List Token}, m.isClean = true → kindOf? r = none →
      r ≠ m.tokens ++ rest := by
    rintro m _ rest hm hr rfl
    rw [kindOf?_tokens hm] at hr
    cases hr
  induction marks generalizing marks' with
  | nil =>
    cases marks' with
    | nil => exact ⟨rfl, heq⟩
    | cons m' rest' =>
      rw [stream_cons, List.append_assoc] at heq
      exact absurd heq (hend h'.1 hr)
  | cons m rest ih =>
    cases marks' with
    | nil =>
      rw [stream_cons, List.append_assoc] at heq
      exact absurd heq.symm (hend h.1 hr')
    | cons m' rest' =>
      rw [stream_cons, stream_cons, List.append_assoc, List.append_assoc] at heq
      obtain ⟨rfl, hrest⟩ := tokens_unique h.1 h'.1 h.2.1 h'.2.1 heq
      obtain ⟨rfl, hr⟩ := ih h.2.2 h'.2.2 hrest
      exact ⟨rfl, hr⟩

/-- Behind a pipe there is no mark but what the pipe belongs to. -/
theorem kindOf?_of_pipe {m : Mark} {r ts : List Token} (h : m.isClean = true)
    (hr : m.MayPrecede r) (hpipe : m.tokens ++ r = Token.pipe :: ts) : kindOf? ts = none := by
  have hkind := kindOf?_tokens h r
  rw [hpipe] at hkind
  cases m with
  | step call =>
    obtain ⟨first, rest, hfirst, hstructural, -, htarget⟩ := Call.stepTokens_head_ne h
    have hts : ts = call.stepTokens ++ r := (List.cons.inj hpipe).2.symm
    -- the second token is of the step, or ends it
    have hsecond : ∀ t ∈ (rest ++ r).head?, t ≠ "<|".toList ∧ t ≠ "<|>".toList := by
      intro t ht
      cases rest with
      | nil =>
        rcases hr t ht with rfl | rfl | rfl <;> decide
      | cons second rest =>
        obtain rfl : second = t := by simpa using ht
        have hno := Call.stepTokens_not_structural h second (by simp [hfirst])
        exact ⟨fun heq => hno (heq ▸ by decide), fun heq => hno (heq ▸ by decide)⟩
    rw [hts, hfirst, List.cons_append, kindOf?_cons hstructural htarget, if_neg, if_neg]
    · exact fun heq => (hsecond _ heq).2 rfl
    · exact fun heq => (hsecond _ heq).1 rfl
  | branch condition =>
    have hts : ts = "WHEN".toList :: words condition ++ ["THEN".toList] ++ r :=
      (List.cons.inj hpipe).2.symm
    have hcondition : condition.toList ≠ "<|".toList := toList_ne_of_clean h (by decide)
    have hcondition' : condition.toList ≠ "<|>".toList := toList_ne_of_clean h (by decide)
    rw [hts, words_of_clean h, List.cons_append, List.cons_append,
      kindOf?_cons (by decide) (by decide), if_neg, if_neg]
    · exact fun heq => hcondition' (Option.some.inj heq)
    · exact fun heq => hcondition (Option.some.inj heq)
  | _ =>
    rw [kindOf?, if_neg (by decide), if_neg (by decide), if_pos rfl] at hkind
    split_ifs at hkind <;> cases hkind

theorem tokens_ne_pipe {m : Mark} (h : m.isClean = true) (r : List Token) :
    m.tokens ++ r ≠ [Token.pipe] := by
  intro heq
  have hkind := kindOf?_tokens h r
  cases m with
  | step call =>
    obtain ⟨first, rest, hfirst, -⟩ := Call.stepTokens_head_ne h
    rw [tokens, hfirst] at heq
    exact absurd (congrArg List.length heq) (by simp)
  | branch condition => exact absurd (congrArg List.length heq) (by simp [tokens])
  | _ => rw [heq] at hkind; cases hkind

/-- Behind the pipe in front of a flow something stands that is not a mark. -/
theorem stream_eq_cons {marks : List Mark} (h : Readable [] marks) (hne : marks ≠ [])
    (hpipe : ∀ t ∈ (stream marks).head?, t = Token.pipe) :
    ∃ ts, stream marks = Token.pipe :: ts ∧ ts ≠ [] ∧ kindOf? ts = none := by
  cases marks with
  | nil => exact absurd rfl hne
  | cons m rest =>
    have hstream : stream (m :: rest) = m.tokens ++ (stream rest ++ []) := by
      rw [stream_cons, List.append_nil]
    cases hts : stream (m :: rest) with
    | nil =>
      have hkind := kindOf?_tokens h.1 (stream rest ++ [])
      rw [← hstream, hts] at hkind
      cases hkind
    | cons t ts =>
      obtain rfl : t = Token.pipe := hpipe t (by rw [hts]; rfl)
      rw [hts] at hstream
      refine ⟨ts, rfl, ?_, kindOf?_of_pipe h.1 h.2.1 hstream.symm⟩
      rintro rfl
      exact tokens_ne_pipe h.1 _ hstream.symm

/-- **A program on its own** tells the marks of its bindings and those of its flow, although the
first pipe of the flow is left out. -/
theorem standalone_unique {bindings bindings' flow flow' : List Mark}
    (hbindings : Readable (stream flow).tail bindings)
    (hbindings' : Readable (stream flow').tail bindings') (hflow : Readable [] flow)
    (hflow' : Readable [] flow') (hpipe : ∀ t ∈ (stream flow).head?, t = Token.pipe)
    (hpipe' : ∀ t ∈ (stream flow').head?, t = Token.pipe)
    (heq : stream bindings ++ (stream flow).tail = stream bindings' ++ (stream flow').tail) :
    bindings = bindings' ∧ flow = flow' := by
  have hnone : ∀ {flow : List Mark}, Readable [] flow →
      (∀ t ∈ (stream flow).head?, t = Token.pipe) → kindOf? (stream flow).tail = none := by
    intro flow hflow hpipe
    by_cases hne : flow = []
    · subst hne
      rfl
    · obtain ⟨ts, hts, -, hkind⟩ := stream_eq_cons hflow hne hpipe
      rw [hts, List.tail_cons, hkind]
  obtain ⟨hmarks, htail⟩ := stream_unique hbindings hbindings' (hnone hflow hpipe)
    (hnone hflow' hpipe') heq
  refine ⟨hmarks, ?_⟩
  -- one flow is empty if the other is, and otherwise both have a pipe in front
  have hstream : stream flow = stream flow' := by
    by_cases hne : flow = []
    · by_cases hne' : flow' = []
      · rw [hne, hne']
      · obtain ⟨ts, hts, hempty, -⟩ := stream_eq_cons hflow' hne' hpipe'
        rw [hne, hts] at htail
        exact absurd htail.symm hempty
    · obtain ⟨ts, hts, hempty, -⟩ := stream_eq_cons hflow hne hpipe
      by_cases hne' : flow' = []
      · rw [hne', hts] at htail
        exact absurd htail hempty
      · obtain ⟨ts', hts', -, -⟩ := stream_eq_cons hflow' hne' hpipe'
        rw [hts, hts'] at htail ⊢
        exact congrArg _ htail
  exact (stream_unique hflow hflow' rfl rfl (by rw [hstream])).1

end Mark

/-! ## §3 Clean trips -/

namespace Call

mutual

/-- Whether the texts of a call are clean, at every depth. -/
def isClean : Call → Bool
  | .clickTimes selector _ => isCleanToken selector
  | .on _ => true
  | .assign name value => isCleanToken name && isCleanToken value
  | .define name params body =>
    isCleanToken name && params.all isCleanToken && isCleanAll body
  | .when condition body => isCleanToken condition && isCleanAll body
  | .whenElse condition body otherwise =>
    isCleanToken condition && isCleanAll body && isCleanAll otherwise
  | call => call.isPlain

/-- Whether the texts of calls are clean, at every depth. -/
def isCleanAll : List Call → Bool
  | [] => true
  | call :: rest => call.isClean && isCleanAll rest

end

open Mark (Readable Stops Begins stream stream_cons stream_append)

/-- Plain steps are readable in front of something that ends a step, which they do as well. -/
theorem readable_replicate (call : Call) (hmarks : call.marks = [.step call])
    (h : call.isPlain = true) {r : List Token} {ms : List Mark} (hreadable : Readable r ms)
    (hstops : Stops (stream ms ++ r)) (times : ℕ) :
    Readable r (marksAll (List.replicate times call) ++ ms) ∧
      Stops (stream (marksAll (List.replicate times call) ++ ms) ++ r) := by
  induction times with
  | zero => exact ⟨hreadable, hstops⟩
  | succ times ih =>
    rw [List.replicate_succ, marksAll, hmarks]
    refine ⟨⟨h, ih.2, ih.1⟩, ?_⟩
    rintro t ⟨⟩
    exact Or.inl rfl

/-- A call that stands for plain steps. -/
theorem readable_plain (call : Call) (step : Call) (times : ℕ)
    (harranged : call.arranged = .steps (List.replicate times step))
    (hmarks : step.marks = [.step step]) (h : step.isPlain = true) {r : List Token}
    {ms : List Mark} (hreadable : Readable r ms) :
    Readable r (marksAll call.arranged.bindings ++ ms) ∧
      (Stops (stream ms ++ r) → Readable r (marksAll call.arranged.flow ++ ms)) := by
  rw [harranged]
  exact ⟨hreadable, fun hstops => (readable_replicate step hmarks h hreadable hstops times).1⟩

/-- A step of the flow leaves the stream in front of it one that ends a step. -/
theorem stops_flow (calls : List Call) {r : List Token} {ms : List Mark}
    (hstops : Stops (stream ms ++ r)) :
    Stops (stream (marksAll (arrangedAll calls).flow ++ ms) ++ r) := by
  rw [stream_append, (stream_arrangedAll calls).2]
  cases (tokensAll calls).flow with
  | nil => exact hstops
  | cons step rest =>
    rintro t ⟨⟩
    exact Or.inl rfl

mutual

/-- The marks of a clean call are readable in front of readable marks; those of its flow need
something behind them that ends a step. -/
theorem readable_arranged : ∀ call : Call, call.isClean = true → ∀ {r : List Token}
    {ms : List Mark}, Readable r ms →
    Readable r (marksAll call.arranged.bindings ++ ms) ∧
      (Stops (stream ms ++ r) → Readable r (marksAll call.arranged.flow ++ ms))
  | .on _, _, _, _, hreadable => ⟨⟨rfl, trivial, hreadable⟩, fun _ => hreadable⟩
  | .assign _ _, h, _, _, hreadable => ⟨⟨h, trivial, hreadable⟩, fun _ => hreadable⟩
  | .define name params body, h, r, ms, hreadable => by
    rw [isClean, Bool.and_eq_true] at h
    refine ⟨?_, fun _ => hreadable⟩
    have hbody : Readable r (marksAll (arrangedAll body).inOrder ++ .closing :: ms) :=
      readable_inOrder body h.2 ⟨rfl, trivial, hreadable⟩ fun t ht => by
        obtain rfl : "|".toList = t := Option.some.inj ht
        exact Or.inr (Or.inl rfl)
    have hbegins := Mark.begins_of_readable hbody (by simp)
    simp only [arranged, Blocks.binding, marksAll, marks, List.append_nil, List.cons_append,
      List.append_assoc]
    exact ⟨h.1, hbegins, hbody⟩
  | .when condition body, h, r, ms, hreadable => by
    rw [isClean, Bool.and_eq_true] at h
    refine ⟨hreadable, fun hstops => ?_⟩
    have hbody := readable_inOrder body h.2 hreadable hstops
    simp only [arranged, Blocks.steps, marksAll, marks, List.append_nil, List.cons_append]
    exact ⟨h.1, trivial, hbody⟩
  | .whenElse condition body otherwise, h, r, ms, hreadable => by
    simp only [isClean, Bool.and_eq_true] at h
    refine ⟨hreadable, fun hstops => ?_⟩
    have hotherwise := readable_inOrder otherwise h.2 hreadable hstops
    have hbody : Readable r (marksAll (arrangedAll body).inOrder ++
        .otherwise :: (marksAll (arrangedAll otherwise).inOrder ++ ms)) :=
      readable_inOrder body h.1.2 ⟨rfl, trivial, hotherwise⟩ fun t ht => by
        obtain rfl : "ELSE".toList = t := Option.some.inj ht
        exact Or.inr (Or.inr rfl)
    simp only [arranged, Blocks.steps, marksAll, marks, List.append_nil, List.cons_append,
      List.append_assoc]
    exact ⟨h.1.1, trivial, hbody⟩
  | .clickTimes selector times, h, _, _, hreadable =>
    readable_plain _ (.click selector) times rfl rfl h hreadable
  | .navigate url, h, _, _, hreadable =>
    readable_plain _ (.navigate url) 1 rfl rfl h hreadable
  | .enter selector text, h, _, _, hreadable =>
    readable_plain _ (.enter selector text) 1 rfl rfl h hreadable
  | .dive column, h, _, _, hreadable =>
    readable_plain _ (.dive column) 1 rfl rfl h hreadable
  | .imitate skill, h, _, _, hreadable =>
    readable_plain _ (.imitate skill) 1 rfl rfl h hreadable
  | .group selector, h, _, _, hreadable =>
    readable_plain _ (.group selector) 1 rfl rfl h hreadable
  | .select extractions, h, _, _, hreadable =>
    readable_plain _ (.select extractions) 1 rfl rfl h hreadable
  | .distinct column, h, _, _, hreadable =>
    readable_plain _ (.distinct column) 1 rfl rfl h hreadable
  | .window mode timestamp radius, h, _, _, hreadable =>
    readable_plain _ (.window mode timestamp radius) 1 rfl rfl h hreadable
  | .applyWith name args, h, _, _, hreadable =>
    readable_plain _ (.applyWith name args) 1 rfl rfl h hreadable

/-- The marks of clean calls are readable, block by block. -/
theorem readable_arrangedAll : ∀ calls : List Call, isCleanAll calls = true →
    ∀ {r : List Token} {ms : List Mark}, Readable r ms →
    Readable r (marksAll (arrangedAll calls).bindings ++ ms) ∧
      (Stops (stream ms ++ r) → Readable r (marksAll (arrangedAll calls).flow ++ ms))
  | [], _, _, _, hreadable => ⟨hreadable, fun _ => hreadable⟩
  | call :: rest, h, r, ms, hreadable => by
    rw [isCleanAll, Bool.and_eq_true] at h
    obtain ⟨hbindings, hflow⟩ := readable_arrangedAll rest h.2 hreadable
    rw [arrangedAll, Blocks.append, marksAll_append, marksAll_append, List.append_assoc,
      List.append_assoc]
    exact ⟨(readable_arranged call h.1 hbindings).1,
      fun hstops => (readable_arranged call h.1 (hflow hstops)).2 (stops_flow rest hstops)⟩

/-- The marks of a clean body are readable in front of something that ends a step. -/
theorem readable_inOrder (calls : List Call) (h : isCleanAll calls = true) {r : List Token}
    {ms : List Mark} (hreadable : Readable r ms) (hstops : Stops (stream ms ++ r)) :
    Readable r (marksAll (arrangedAll calls).inOrder ++ ms) := by
  rw [Blocks.inOrder, marksAll_append, List.append_assoc]
  -- the bindings stand in front of the flow, and the flow in front of the marks
  have hflow := (readable_arrangedAll calls h hreadable).2 hstops
  exact (readable_arrangedAll calls h hflow).1

end

/-- The tokens of a trip are those of its reading, but for the first pipe of its flow. -/
theorem standalone_eq_stream (calls : List Call) : (tokensAll calls).standalone =
    stream (reading calls).bindings ++ (stream (reading calls).flow).tail := by
  rw [Blocks.standalone, reading, intercalate_pipe, (stream_arrangedAll calls).1,
    (stream_arrangedAll calls).2]

theorem head_stream_flow (calls : List Call) :
    ∀ t ∈ (stream (reading calls).flow).head?, t = Token.pipe := by
  rw [reading, (stream_arrangedAll calls).2]
  cases (tokensAll calls).flow with
  | nil => nofun
  | cons step rest =>
    rintro t ⟨⟩
    rfl

/-- **The reading of a trip** is all that its tokens show: two clean trips have the same tokens
exactly if they have the same reading. -/
theorem reading_eq_iff {calls calls' : List Call} (h : isCleanAll calls = true)
    (h' : isCleanAll calls' = true) : reading calls = reading calls' ↔
      words (Trip.empty.performAll calls).program =
        words (Trip.empty.performAll calls').program := by
  rw [Trip.program_performAll, Trip.program_performAll, words_compile_recordAll,
    words_compile_recordAll, standalone_eq_stream, standalone_eq_stream]
  refine ⟨fun heq => by rw [heq], fun heq => ?_⟩
  have hflow : ∀ {calls : List Call}, isCleanAll calls = true →
      Readable [] (reading calls).flow := by
    intro calls h
    have hreadable := (readable_arrangedAll calls h (show Readable [] [] from trivial)).2 nofun
    rwa [List.append_nil] at hreadable
  have hbindings : ∀ {calls : List Call}, isCleanAll calls = true →
      Readable (stream (reading calls).flow).tail (reading calls).bindings := by
    intro calls h
    have hreadable := (readable_arrangedAll calls h
      (show Readable (stream (reading calls).flow).tail [] from trivial)).1
    rwa [List.append_nil] at hreadable
  obtain ⟨hbindings, hflow⟩ := Mark.standalone_unique (hbindings h) (hbindings h') (hflow h)
    (hflow h') (head_stream_flow calls) (head_stream_flow calls') heq
  exact congrArg₂ Blocks.mk hbindings hflow

end Call

end WebTrip
