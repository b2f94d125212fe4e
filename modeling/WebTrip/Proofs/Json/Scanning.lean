import Mathlib.Data.List.Forall2
import WebTrip.Json.Token
import WebTrip.Proofs.Json.Grammar

/-!
# Scanning texts

The scanner reads a text one character at a time, and texts that stand behind one another give their
tokens one after the other, with blanks between them or without. A text *spells* tokens if the
scanner reads them from it whatever stands before it, and is between two tokens afterwards.

A number does not end with its own last character: it goes on until a character comes that cannot
belong to it. Texts of values are therefore read up to a delimiter, which every value in a container
has behind it.

## Main definitions

- `Spells`: a text and the tokens in it
- `Delimited`: a text and the tokens in it, once a delimiter follows

## Main statements

- `Spells.append`, `Delimited.append`: texts behind one another
- `Delimited.padded`: blanks around a text
- `Spells.ofText`: the tokens of a whole text
-/

namespace WebTrip.Json

/-! ## §1 Texts and tokens -/

/-- The scanner reads the text as these tokens, whatever it has read before. -/
def Spells (text : String) (tokens : List Token) : Prop :=
  ∀ before : List Token,
    text.toList.foldl Scanner.read ⟨before, .between⟩ = ⟨tokens.reverse ++ before, .between⟩

theorem Spells.append {a b : String} {s t : List Token} (ha : Spells a s) (hb : Spells b t) :
    Spells (a ++ b) (s ++ t) := by
  intro before
  rw [String.toList_append, List.foldl_append, ha, hb, List.reverse_append, List.append_assoc]

/-- The tokens of a whole text. -/
theorem Spells.ofText {text : String} {tokens : List Token} (h : Spells text tokens) :
    Token.ofText text = tokens := by
  have hscan := h []
  unfold Token.ofText
  rw [hscan]
  simp [Scanner.finish]

theorem spells_blanks {text : String} (h : IsBlanks text) : Spells text [] := by
  intro before
  unfold IsBlanks at h
  generalize text.toList = cs at h
  induction cs with
  | nil => rfl
  | cons c rest ih =>
    obtain ⟨hc, hrest⟩ := List.forall_mem_cons.mp h
    rw [List.foldl_cons]
    have hread : Scanner.read ⟨before, .between⟩ c = ⟨before, .between⟩ := by
      rcases hc with rfl | rfl | rfl | rfl <;> rfl
    rw [hread]
    exact ih hrest

/-! ## §2 Delimiters -/

/-- A blank, a comma or the end of a container. -/
def IsDelimiter (c : Char) : Prop :=
  c ∈ [' ', '\t', '\n', '\r', ',', ']', '\x7d']

/-- The scanner has read the text as these tokens once a delimiter follows it. -/
def Delimited (text : String) (tokens : List Token) : Prop :=
  ∀ (before : List Token) (c : Char), IsDelimiter c →
    Scanner.read (text.toList.foldl Scanner.read ⟨before, .between⟩) c =
      Scanner.read ⟨tokens.reverse ++ before, .between⟩ c

/-- A text that begins with a delimiter. -/
def StartsDelimited (text : String) : Prop :=
  ∃ c rest, text.toList = c :: rest ∧ IsDelimiter c

section Delimiter

variable {a b : String} {s t : List Token}

theorem Spells.delimited (h : Spells a s) : Delimited a s := by
  intro before c _
  rw [h]

/-- The delimiter at the front of the second text ends the first one. -/
theorem Delimited.append (ha : Delimited a s) (hb : Spells b t) (hstart : StartsDelimited b) :
    Spells (a ++ b) (s ++ t) := by
  obtain ⟨c, rest, hchars, hc⟩ := hstart
  intro before
  have hboth := hb (s.reverse ++ before)
  rw [hchars, List.foldl_cons] at hboth
  rw [String.toList_append, List.foldl_append, hchars, List.foldl_cons, ha before c hc, hboth,
    List.reverse_append, List.append_assoc]

theorem Spells.append_delimited (ha : Spells a s) (hb : Delimited b t) :
    Delimited (a ++ b) (s ++ t) := by
  intro before c hc
  rw [String.toList_append, List.foldl_append, ha, hb _ c hc, List.reverse_append,
    List.append_assoc]

theorem startsDelimited_of_blanks (h : IsBlanks a) (hne : a ≠ "") : StartsDelimited a := by
  cases hchars : a.toList with
  | nil => exact absurd (String.toList_eq_nil_iff.mp hchars) hne
  | cons c rest =>
    refine ⟨c, rest, hchars, ?_⟩
    rcases h c (by simp [hchars]) with rfl | rfl | rfl | rfl <;> simp [IsDelimiter]

/-- Blanks around a value do not show. -/
theorem Delimited.padded (h : Delimited a s) (hpadded : Padded a b) : Delimited b s := by
  obtain ⟨before, after, hbefore, hafter, rfl⟩ := hpadded
  have hfront : Delimited (before ++ a) s := (spells_blanks hbefore).append_delimited h
  -- without blanks behind it the text itself is still to be delimited
  by_cases hempty : after = ""
  · subst hempty
    rwa [String.append_empty]
  · have hback := hfront.append (spells_blanks hafter) (startsDelimited_of_blanks hafter hempty)
    rw [List.append_nil] at hback
    exact hback.delimited

end Delimiter

end WebTrip.Json
