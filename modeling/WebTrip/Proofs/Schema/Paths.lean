import Mathlib.Logic.Relation
import WebTrip.Proofs.Schema.FirstMismatch

/-!
# Paths

The path in a report is the text of a place: the texts of its steps, one behind the other. Names are
written as they are, so that the text of a place can be read in more than one way if a name on it
looks as if steps followed in it: `a.b` is the name of one field, or the way to the field `b` of the
field `a`. This is the only way for two places to have one text. Cutting such names, one step at a
time, leads from each of the two places to the same third one, and the places on which no name can
be cut all have different texts.

## Main definitions

- `Place.Cut`: one cut of one name on a place
- `Place.IsPlain`: no name on the place can be cut

## Main statements

- `Place.eq_of_chars_eq`: plain places are determined by their texts
- `Place.exists_plain`: cutting ends, and it ends in a plain place
- `Place.written_eq_iff`: places have one text if cuts lead from both of them to the same place
- `paths_identify_places`: what the path of a report says about its place
-/

namespace WebTrip

open WebTrip.Json

/-! ## §1 Cuts -/

/-- A name ends in the text of no step: there is no dot in it, and no index at its end. -/
def IsPlainName (name : String) : Prop :=
  ∀ (head : String) (step : Step), name ≠ head ++ step.written

namespace Place

/-- The second place comes of the first one by cutting off the step in whose text a name ends. -/
inductive Cut : Place → Place → Prop where
  | step (before : Place) (name : String) (step : Step) (after : Place) :
      Cut (before ++ .field (name ++ step.written) :: after)
        (before ++ .field name :: step :: after)

/-- No name on the place can be cut. -/
def IsPlain (place : Place) : Prop :=
  ∀ name, Step.field name ∈ place → IsPlainName name

/-- The characters of a place behind the sign for the root. -/
def chars (place : Place) : List Char :=
  place.flatMap fun step => step.written.toList

@[simp] theorem chars_nil : chars [] = [] := rfl

@[simp] theorem chars_cons (step : Step) (rest : Place) :
    chars (step :: rest) = step.written.toList ++ chars rest := rfl

@[simp] theorem chars_append (p q : Place) : chars (p ++ q) = chars p ++ chars q :=
  List.flatMap_append

/-- A place has the text of its characters, and no other place's text unless it has the characters
of that place. -/
theorem written_eq_iff_chars {p q : Place} : p.written = q.written ↔ p.chars = q.chars := by
  have hwritten : ∀ place : Place, place.written.toList = '$' :: place.chars := by
    intro place
    simp [written, chars, String.toList_join, List.flatMap_map]
  rw [← String.toList_inj, hwritten, hwritten, List.cons.injEq, and_iff_right rfl]

end Place

@[simp] theorem Step.toList_written_field (name : String) :
    (Step.field name).written.toList = '.' :: name.toList := by
  simp [Step.written]

@[simp] theorem Step.toList_written_index (n : ℕ) :
    (Step.index n).written.toList = '[' :: (Nat.toDigits 10 n ++ [']']) := by
  simp [Step.written, Nat.toString_eq_repr, Nat.toList_repr]

/-! ## §2 Plain places -/

theorem dot_not_mem_of_plain {name : String} (h : IsPlainName name) : '.' ∉ name.toList := by
  intro hdot
  obtain ⟨head, tail, hsplit⟩ := List.append_of_mem hdot
  apply h (String.ofList head) (.field (String.ofList tail))
  simp [← String.toList_inj, hsplit]

/-- A closing bracket ends the digits of a number. -/
theorem takeWhile_toDigits (n : ℕ) (rest : List Char) :
    (Nat.toDigits 10 n ++ ']' :: rest).takeWhile Char.isDigit = Nat.toDigits 10 n := by
  rw [List.takeWhile_append_of_pos fun c => Nat.isDigit_of_mem_toDigits (by decide) (by decide),
    List.takeWhile_cons_of_neg (by decide), List.append_nil]

theorem not_mem_toDigits {c : Char} (h : c.isDigit = false) (n : ℕ) : c ∉ Nat.toDigits 10 n := by
  intro hmem
  rw [Nat.isDigit_of_mem_toDigits (by decide) (by decide) hmem] at h
  exact Bool.noConfusion h

/-- A name is plain if it has no dot and does not end in a digit and a closing bracket. -/
theorem isPlainName_of_end {name : String} (hdot : '.' ∉ name.toList)
    (hend : ∀ init d, Char.isDigit d = true → name.toList ≠ init ++ [d, ']']) :
    IsPlainName name := by
  rintro head (tail | n) rfl
  · simp at hdot
  · obtain ⟨init, d, hdigits⟩ : ∃ init d, Nat.toDigits 10 n = init ++ [d] := by
      have := Nat.length_toDigits_pos (b := 10) (n := n)
      exact ⟨_, _, (List.dropLast_append_getLast (List.ne_nil_of_length_pos this)).symm⟩
    have hmem : d ∈ Nat.toDigits 10 n := by simp [hdigits]
    have hd : d.isDigit = true := Nat.isDigit_of_mem_toDigits (by decide) (by decide) hmem
    exact hend (head.toList ++ '[' :: init) d hd (by simp [hdigits])

namespace Place

/-- Every step opens with one of two signs. -/
theorem head_chars {place : Place} {c : Char} {rest : List Char} (h : place.chars = c :: rest) :
    c = '.' ∨ c = '[' := by
  cases place with
  | nil => cases h
  | cons step steps =>
    cases step with
    | field name =>
      simp only [chars_cons, Step.toList_written_field, List.cons_append, List.cons.injEq] at h
      exact .inl h.1.symm
    | index n =>
      simp only [chars_cons, Step.toList_written_index, List.cons_append, List.cons.injEq] at h
      exact .inr h.1.symm

/-- What stands in the text of a place in front of the text of another one, and has no dot, is
nothing, or it ends in an index. -/
theorem ends_of_chars_eq {p q : Place} {cs : List Char} (h : p.chars = cs ++ q.chars)
    (hdot : '.' ∉ cs) :
    cs = [] ∨ ∃ head n, cs = head ++ (Step.index n).written.toList := by
  -- step by step through the first place, as long as its steps lie in front of the second one
  induction p generalizing cs with
  | nil => exact .inl (List.append_eq_nil_iff.mp h.symm).1
  | cons step rest ih =>
    cases step with
    | field name =>
      cases cs with
      | nil => exact .inl rfl
      | cons c cs =>
        -- it would open with a dot
        simp_all
    | index n =>
      rcases List.append_eq_append_iff.mp h with ⟨more, rfl, hmore⟩ | ⟨after, hsplit, hafter⟩
      · -- the whole index stands there, and perhaps more
        simp only [List.mem_append, not_or] at hdot
        rcases ih hmore hdot.2 with rfl | ⟨head, k, rfl⟩
        · exact .inr ⟨[], n, by simp⟩
        · exact .inr ⟨_, k, (List.append_assoc ..).symm⟩
      · cases after with
        | nil => exact .inr ⟨[], n, by simpa using hsplit.symm⟩
        | cons c after =>
          cases cs with
          | nil => exact .inl rfl
          | cons b cs =>
            -- inside an index no step opens
            simp only [Step.toList_written_index, List.cons_append, List.cons.injEq] at hsplit
            have hmem : c ∈ Nat.toDigits 10 n ++ [']'] := by simp [hsplit.2]
            rcases head_chars hafter with rfl | rfl
            · simp [not_mem_toDigits (c := '.') (by decide)] at hmem
            · simp [not_mem_toDigits (c := '[') (by decide)] at hmem

/-- Two plain names with places behind them are the same, if their texts are. -/
theorem name_eq_of_chars_eq {a b : String} {p q : Place} (ha : IsPlainName a) (hb : IsPlainName b)
    (h : a.toList ++ p.chars = b.toList ++ q.chars) : a = b := by
  -- a name that goes on where the other one ends is not plain
  have hlonger : ∀ {a b : String} {p q : Place} {cs : List Char}, IsPlainName b →
      b.toList = a.toList ++ cs → p.chars = cs ++ q.chars → a = b := by
    intro a b p q cs hb hcs hchars
    have hdot : '.' ∉ cs := fun hmem =>
      dot_not_mem_of_plain hb (hcs ▸ List.mem_append_right _ hmem)
    rcases ends_of_chars_eq hchars hdot with rfl | ⟨head, n, rfl⟩
    · simpa [String.toList_inj, eq_comm] using hcs
    · refine absurd ?_ (hb (a ++ String.ofList head) (.index n))
      simpa [← String.toList_inj] using hcs
  rcases List.append_eq_append_iff.mp h with ⟨cs, hcs, hchars⟩ | ⟨cs, hcs, hchars⟩
  · exact hlonger hb hcs hchars
  · exact (hlonger ha hcs hchars).symm

/-- **Plain places** are determined by their texts. -/
theorem eq_of_chars_eq {p q : Place} (hp : p.IsPlain) (hq : q.IsPlain) (h : p.chars = q.chars) :
    p = q := by
  induction p generalizing q with
  | nil =>
    cases q with
    | nil => rfl
    | cons step rest => cases step <;> simp at h
  | cons step rest ih =>
    -- the first sign says which kind of step there is on both sides
    have hrest : IsPlain rest := fun name hmem => hp name (List.mem_cons_of_mem _ hmem)
    cases q with
    | nil => cases step <;> simp at h
    | cons step' rest' =>
      have hrest' : IsPlain rest' := fun name hmem => hq name (List.mem_cons_of_mem _ hmem)
      cases step with
      | field a =>
        cases step' with
        | field b =>
          simp only [chars_cons, Step.toList_written_field, List.cons_append, List.cons.injEq,
            true_and] at h
          -- where the name ends is not marked, only that it is plain
          obtain rfl := name_eq_of_chars_eq (hp a (List.mem_cons_self ..))
            (hq b (List.mem_cons_self ..)) h
          rw [ih hrest hrest' (List.append_cancel_left h)]
        | index n => simp at h
      | index n =>
        cases step' with
        | field b => simp at h
        | index k =>
          simp only [chars_cons, Step.toList_written_index, List.cons_append, List.append_assoc,
            List.nil_append, List.cons.injEq, true_and] at h
          have hdigits : Nat.toDigits 10 n = Nat.toDigits 10 k := by
            rw [← takeWhile_toDigits n (chars rest), h, takeWhile_toDigits]
          obtain rfl : n = k := by
            rw [← Nat.ofDigitChars_ten_toDigits (n := n), hdigits, Nat.ofDigitChars_ten_toDigits]
          rw [ih hrest hrest' (List.cons.inj (List.append_cancel_left h)).2]

/-! ## §3 Places with one text -/

theorem Cut.chars_eq {p q : Place} (h : Cut p q) : p.chars = q.chars := by
  cases h with
  | step before name step after => simp

theorem chars_eq_of_cuts {p q : Place} (h : Relation.ReflTransGen Cut p q) : p.chars = q.chars := by
  induction h with
  | refl => rfl
  | tail _ hcut ih => exact ih.trans hcut.chars_eq

theorem exists_cut {p : Place} (h : ¬ p.IsPlain) : ∃ q, Cut p q ∧ q.length = p.length + 1 := by
  simp only [IsPlain, IsPlainName, not_forall, not_not] at h
  obtain ⟨name, hmem, head, step, rfl⟩ := h
  obtain ⟨before, after, rfl⟩ := List.append_of_mem hmem
  refine ⟨_, .step before head step after, ?_⟩
  simp only [List.length_append, List.length_cons]
  omega

/-- Every step is written with a sign at least. -/
theorem length_le_chars (p : Place) : p.length ≤ p.chars.length := by
  induction p with
  | nil => exact le_rfl
  | cons step rest ih =>
    have hstep : 1 ≤ step.written.toList.length := by cases step <;> simp
    rw [chars_cons, List.length_append, List.length_cons]
    omega

/-- **Cutting ends** in a plain place: a cut adds a step, but no characters. -/
theorem exists_plain (p : Place) : ∃ q, Relation.ReflTransGen Cut p q ∧ q.IsPlain := by
  induction hn : p.chars.length - p.length using Nat.strong_induction_on generalizing p with
  | _ n ih =>
    by_cases hp : p.IsPlain
    · exact ⟨p, .refl, hp⟩
    · obtain ⟨p', hcut, hlength⟩ := exists_cut hp
      -- there cannot be more steps than characters, so that cuts run out
      have hless : p'.chars.length - p'.length < n := by
        have := length_le_chars p'
        rw [← hcut.chars_eq] at this ⊢
        omega
      obtain ⟨q, hq, hplain⟩ := ih _ hless p' rfl
      exact ⟨q, .head hcut hq, hplain⟩

/-- **One text.** Places have one text exactly if cuts lead from both of them to the same place. -/
theorem written_eq_iff {p q : Place} :
    p.written = q.written ↔ Relation.Join (Relation.ReflTransGen Cut) p q := by
  rw [written_eq_iff_chars]
  constructor
  · intro h
    obtain ⟨p', hp, hp'⟩ := exists_plain p
    obtain ⟨q', hq, hq'⟩ := exists_plain q
    have hchars : p'.chars = q'.chars := by
      rw [← chars_eq_of_cuts hp, ← chars_eq_of_cuts hq, h]
    obtain rfl := eq_of_chars_eq hp' hq' hchars
    exact ⟨p', hp, hq⟩
  · rintro ⟨common, hp, hq⟩
    rw [chars_eq_of_cuts hp, chars_eq_of_cuts hq]

end Place

/-! ## §4 Reports -/

/-- **Paths.** Places have one text exactly if cuts of names lead from both of them to the same
place. If no name on them can be cut, different places have different texts; what is reported is
then wrong at the only such place that has the path of the report. -/
theorem paths_identify_places :
    (∀ p q : Place, p.written = q.written ↔ Relation.Join (Relation.ReflTransGen Place.Cut) p q) ∧
      (∀ p q : Place, p.IsPlain → q.IsPlain → p ≠ q → p.written ≠ q.written) ∧
      ∀ (s : Schema) (v : Value) (m : Mismatch), s.validate v = .error m → m.place.IsPlain →
        ∃ trail : Trail, (s.WrongAt v trail m.expected m.actual ∨
            s.MissingAt v trail m.expected m.actual) ∧
          ∀ p : Place, p.IsPlain → p.written = m.report.path → p = trail.place := by
  have hplain : ∀ p q : Place, p.IsPlain → q.IsPlain → p.written = q.written → p = q := by
    intro p q hp hq h
    exact Place.eq_of_chars_eq hp hq (Place.written_eq_iff_chars.mp h)
  refine ⟨fun p q => Place.written_eq_iff, fun p q hp hq => mt (hplain p q hp hq), ?_⟩
  intro s v m hm hplace
  obtain ⟨trail, htrail, hfails⟩ := Schema.validate_error_iff.mp hm
  refine ⟨trail, hfails.wrongAt_or_missingAt, fun p hp hpath => ?_⟩
  rw [← htrail]
  exact hplain p m.place hp hplace hpath

/-- Links, each of which has a target. -/
def linkTargets : Schema :=
  .array (.object [("a[href]", .string none)])

/-- Two links. The second one has null for a target. -/
def untargetedLink : Value :=
  .array [.object [("a[href]", .string "x"), ("title", .string "t")],
    .object [("a[href]", .null), ("title", .string "u")]]

theorem paths_identify_places_untargetedLink :
    Place.IsPlain [.index 1, .field "a[href]"] ∧ Place.IsPlain [.index 1, .field "title"] ∧
      Place.written [.index 1, .field "a[href]"] ≠ Place.written [.index 1, .field "title"] ∧
      linkTargets.validate untargetedLink =
        .error ⟨[.index 1, .field "a[href]"], "string", "null"⟩ ∧
      ∃ trail : Trail, (linkTargets.WrongAt untargetedLink trail "string" "null" ∨
          linkTargets.MissingAt untargetedLink trail "string" "null") ∧
        ∀ p : Place, p.IsPlain → p.written = "$[1].a[href]" → p = trail.place := by
  have hlink : IsPlainName "a[href]" := by
    refine isPlainName_of_end (by decide) fun init d hd h => ?_
    -- a letter stands in front of the bracket
    have hreverse := congrArg List.reverse h
    simp only [List.reverse_append, List.reverse_cons, List.reverse_nil, List.nil_append,
      List.cons_append] at hreverse
    obtain rfl : 'f' = d := (List.cons.inj (List.cons.inj hreverse).2).1
    exact absurd hd (by decide)
  have htitle : IsPlainName "title" := by
    refine isPlainName_of_end (by decide) fun init d hd h => ?_
    have hreverse := congrArg List.reverse h
    simp at hreverse
  have hplace : Place.IsPlain [.index 1, .field "a[href]"] := by simpa [Place.IsPlain] using hlink
  have hother : Place.IsPlain [.index 1, .field "title"] := by simpa [Place.IsPlain] using htitle
  have herror : linkTargets.validate untargetedLink =
      .error ⟨[.index 1, .field "a[href]"], "string", "null"⟩ := rfl
  obtain ⟨-, hdistinct, hreport⟩ := paths_identify_places
  have hpath : Place.written [.index 1, .field "a[href]"] = "$[1].a[href]" := by decide
  refine ⟨hplace, hother, hdistinct _ _ hplace hother (by decide), herror, ?_⟩
  obtain ⟨trail, hwrong, honly⟩ := hreport _ _ _ herror hplace
  exact ⟨trail, hwrong, fun p hp h => honly p hp (h.trans hpath.symm)⟩

/-- Two fields and the parts of two others. -/
def likeNames : Value :=
  .object [("a", .object [("b", .bool true)]), ("a.b", .null), ("c", .array [.bool false]),
    ("c[0]", .string "t")]

/-- Different parts of a value can have the same path, because of a dot in a name or of an index at
the end of one, and the reports of what is wrong with them have it as well. -/
theorem distinct_places_share_path :
    likeNames.follow? [.field "a", .field "b"] = some (.bool true) ∧
      likeNames.follow? [.field "a.b"] = some .null ∧
      Place.written [.field "a", .field "b"] = Place.written [.field "a.b"] ∧
      likeNames.follow? [.field "c", .index 0] = some (.bool false) ∧
      likeNames.follow? [.field "c[0]"] = some (.string "t") ∧
      Place.written [.field "c", .index 0] = Place.written [.field "c[0]"] ∧
      ∃ (s t : Schema) (m m' : Mismatch), s.validate likeNames = .error m ∧
        t.validate likeNames = .error m' ∧ m.place ≠ m'.place ∧ m.report.path = m'.report.path :=
  ⟨rfl, rfl, by decide, rfl, rfl, by decide, .object [("a", .object [("b", .string none)])],
    .object [("a.b", .string none)], _, _, rfl, rfl, by decide, by decide⟩

end WebTrip
