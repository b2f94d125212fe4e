import WebTrip.Json.Failure
import WebTrip.Proofs.Json.Spelling

/-!
# Assembling outlines

An outline in which nothing is broken can be laid out as tokens, and the assembler makes of these
tokens the outline again, whatever container they stand in. The stack it works with is not touched
below the container that the outline is put into.

## Main definitions

- `Outline.tokens`: the tokens of an outline
- `Renders`: a text and its outline

## Main statements

- `assemble_tokens`: the assembler puts an outline together from its tokens
- `Renders.read`: who reads a text reads its outline
-/

namespace WebTrip.Json

/-! ## §1 The tokens of an outline -/

mutual

/-- The tokens of an outline. What is broken has no tokens of JSON. -/
def Outline.tokens : Outline → List Token
  | .null => [.null]
  | .bool b => [.bool b]
  | .number n => [.number n]
  | .string s => [.string s]
  | .array items => .openArray :: commas (itemTokens items) ++ [.closeArray]
  | .object members => .openObject :: commas (memberTokens members) ++ [.closeObject]
  | .broken => [.bad]
  | .misplaced _ => [.bad]

/-- The tokens of each element. -/
def itemTokens : List Outline → List (List Token)
  | [] => []
  | o :: rest => o.tokens :: itemTokens rest

/-- The tokens of each member. -/
def memberTokens : List (Option String × Outline) → List (List Token)
  | [] => []
  | (name, o) :: rest => (.string name :: .colon :: o.tokens) :: memberTokens rest

end

/-- An outline begins with a token that begins a value, so that it can stand first in an array. -/
theorem read_firstItem (stack : List Frame) {o : Outline} (h : o.intact = true) :
    o.tokens.foldl Assembly.read (.reading stack .firstItem) =
      o.tokens.foldl Assembly.read (.reading stack .value) := by
  cases o with
  | broken => cases h
  | misplaced => cases h
  | _ => rfl

/-! ## §2 Assembly -/

mutual

/-- **Assembly.** From its tokens an outline is put together and into the container around it. -/
theorem assemble_tokens (stack : List Frame) : ∀ o : Outline, o.intact = true →
    o.tokens.foldl Assembly.read (.reading stack .value) = Assembly.plug stack o
  | .null, _ => rfl
  | .bool _, _ => rfl
  | .number _, _ => rfl
  | .string _, _ => rfl
  | .array [], _ => rfl
  | .array (o :: rest), h => by
    obtain ⟨ho, hrest⟩ := Bool.and_eq_true_iff.mp h
    have hopen : Assembly.read (.reading stack .value) .openArray =
        .reading (.array [] :: stack) .firstItem := rfl
    have hclose : Assembly.read (.reading (.array (rest.reverse ++ [o]) :: stack) .separator)
        .closeArray = Assembly.plug stack (.array (o :: rest)) := by
      simp [Assembly.read, Assembly.readSeparator]
    rw [Outline.tokens, itemTokens, commas_cons, List.cons_append, List.foldl_cons, hopen,
      List.append_assoc, List.foldl_append, read_firstItem _ ho, assemble_tokens _ o ho,
      Assembly.plug, List.foldl_append, assemble_items stack [o] rest hrest]
    exact hclose
  | .object [], _ => rfl
  | .object ((name, o) :: rest), h => by
    obtain ⟨ho, hrest⟩ := Bool.and_eq_true_iff.mp h
    have hopen : Assembly.read (.reading stack .value) .openObject =
        .reading (.object [] :: stack) .firstName := rfl
    have hname : Assembly.read (.reading (.object [] :: stack) .firstName) (.string name) =
        .reading (.member [] name :: stack) .colon := rfl
    have hcolon : Assembly.read (.reading (.member [] name :: stack) .colon) .colon =
        .reading (.member [] name :: stack) .value := rfl
    have hclose : Assembly.read
        (.reading (.object (rest.reverse ++ [(name, o)]) :: stack) .separator) .closeObject =
        Assembly.plug stack (.object ((name, o) :: rest)) := by
      simp [Assembly.read, Assembly.readSeparator]
    rw [Outline.tokens, memberTokens, commas_cons]
    simp only [List.cons_append, List.append_assoc, List.foldl_cons, hopen, hname, hcolon]
    rw [List.foldl_append, assemble_tokens _ o ho, Assembly.plug, List.foldl_append,
      assemble_members stack [(name, o)] rest hrest]
    exact hclose

/-- Further elements, each behind a comma, join those that have been read. -/
theorem assemble_items (stack : List Frame) (before : List Outline) :
    ∀ rest : List Outline, intactItems rest = true →
      ((itemTokens rest).flatMap (.comma :: ·)).foldl Assembly.read
          (.reading (.array before :: stack) .separator) =
        .reading (.array (rest.reverse ++ before) :: stack) .separator
  | [], _ => rfl
  | o :: rest, h => by
    obtain ⟨ho, hrest⟩ := Bool.and_eq_true_iff.mp h
    have hcomma : Assembly.read (.reading (.array before :: stack) .separator) .comma =
        .reading (.array before :: stack) .value := rfl
    rw [itemTokens, List.flatMap_cons, List.cons_append, List.foldl_cons, hcomma,
      List.foldl_append, assemble_tokens _ o ho, Assembly.plug,
      assemble_items stack (o :: before) rest hrest]
    simp

/-- Further members, each behind a comma, join those that have been read. -/
theorem assemble_members (stack : List Frame) (before : List (Option String × Outline)) :
    ∀ rest : List (Option String × Outline), intactMembers rest = true →
      ((memberTokens rest).flatMap (.comma :: ·)).foldl Assembly.read
          (.reading (.object before :: stack) .separator) =
        .reading (.object (rest.reverse ++ before) :: stack) .separator
  | [], _ => rfl
  | (name, o) :: rest, h => by
    obtain ⟨ho, hrest⟩ := Bool.and_eq_true_iff.mp h
    have hcomma : Assembly.read (.reading (.object before :: stack) .separator) .comma =
        .reading (.object before :: stack) .name := rfl
    have hname : Assembly.read (.reading (.object before :: stack) .name) (.string name) =
        .reading (.member before name :: stack) .colon := rfl
    have hcolon : Assembly.read (.reading (.member before name :: stack) .colon) .colon =
        .reading (.member before name :: stack) .value := rfl
    rw [memberTokens, List.flatMap_cons]
    simp only [List.cons_append, List.foldl_cons, hcomma, hname, hcolon]
    rw [List.foldl_append, assemble_tokens _ o ho, Assembly.plug,
      assemble_members stack ((name, o) :: before) rest hrest]
    simp

end

/-! ## §3 Texts of outlines -/

/-- The text has the outline, whatever stands around it. -/
structure Renders (text : String) (o : Outline) : Prop where
  intact : o.intact = true
  spells : Spells text o.tokens

/-- The document of a text is its outline, with nothing behind it. -/
theorem Renders.ofText {text : String} {o : Outline} (h : Renders text o) :
    Document.ofText text = ⟨o, true⟩ := by
  rw [Document.ofText, h.spells.ofText, Document.ofTokens, assemble_tokens [] o h.intact]
  rfl

/-- **Reading.** Who reads a text reads its outline. -/
theorem Renders.read {α : Type} {text : String} {o : Outline} (h : Renders text o)
    {reader : Outline → Except Failure α} {a : α} (hread : reader o = .ok a) :
    (Document.ofText text).read reader = .ok a := by
  rw [h.ofText, Document.read, hread]
  rfl

end WebTrip.Json
