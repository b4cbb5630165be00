import Mathlib
import Phrasemill.Proofs.Token.Scan

/-!
# Quoted texts

What may stand between quotes is a sequence of characters and pairs of a backslash and a character
(`TextItem`). The pattern of texts and the resolution of escapes read such a sequence item by item, and
so a quoted text is one token that means what its items mean. The exception is a line break behind a
backslash: the pattern has no such pair and the text counts as unterminated (`Token.scan_quoted`).
-/

namespace Phrasemill

open Pattern

/-- What a text is written with: a character that means itself, or a backslash and a character. -/
inductive TextItem where
  | plain (c : Char) (ordinary : c ≠ '"' ∧ c ≠ '\\')
  | pair (c : Char)
  deriving DecidableEq

namespace TextItem

def written : TextItem → List Char
  | plain c _ => [c]
  | pair c => ['\\', c]

def meant : TextItem → List Char
  | plain c _ => [c]
  | pair c => escaped c

/-- The pair that no text may have in it. -/
def broken : TextItem := pair '\n'

variable {c : Char} {items : List TextItem}

@[simp] theorem broken_mem_plain {ordinary : c ≠ '"' ∧ c ≠ '\\'} :
    broken ∈ plain c ordinary :: items ↔ broken ∈ items := by
  simp [broken]

@[simp] theorem broken_mem_pair : broken ∈ pair c :: items ↔ c = '\n' ∨ broken ∈ items := by
  simp [broken, eq_comm]

end TextItem

namespace Pattern

open TextItem

variable {items : List TextItem}

/-- A text between quotes. -/
def quoted (items : List TextItem) : List Char := '"' :: (items.flatMap written ++ ['"'])

theorem textReach_items (items : List TextItem) (rest : List Char) :
    textReach (items.flatMap written ++ '"' :: rest) =
      if broken ∈ items then none else some ((items.flatMap written).length + 1) := by
  induction items with
  | nil => rfl
  | cons item items ih =>
    cases item with
    | plain c ordinary =>
      have reached := textReach_plain ordinary.1 ordinary.2 (items.flatMap written ++ '"' :: rest)
      rw [ih] at reached
      refine reached.trans ?_
      simp only [broken_mem_plain]
      split <;> rfl
    | pair c =>
      by_cases is_break : c = '\n'
      · have mem : broken ∈ pair c :: items := broken_mem_pair.2 (.inl is_break)
        rw [if_pos mem]
        exact if_pos is_break
      · have reached : textReach ('\\' :: c :: (items.flatMap written ++ '"' :: rest)) =
            (textReach (items.flatMap written ++ '"' :: rest)).map (· + 2) := if_neg is_break
        rw [ih] at reached
        refine reached.trans ?_
        simp only [broken_mem_pair, is_break, false_or]
        split <;> rfl

theorem unescapes_items (items : List TextItem) :
    Unescapes (items.flatMap written) (items.flatMap meant) := by
  induction items with
  | nil => exact .nil
  | cons item items ih =>
    cases item with
    | plain c ordinary => exact .plain ordinary.2 ih
    | pair c => exact .escape c ih

theorem decodes_quoted (items : List TextItem) :
    Decodes text (quoted items) (.text (String.ofList (items.flatMap meant))) := by
  refine .text ?_
  rw [String.toList_ofList]
  exact unescapes_items items

theorem next_quoted (whole : broken ∉ items) (rest : List Char) :
    Next (quoted items ++ rest) text (quoted items) := by
  have reaches : text.reach (quoted items) = some (quoted items).length := by
    rw [quoted, reach, textReach_items, if_neg whole]
    simp
  exact next_of_not_name (by decide) (mem_form_of_reach reaches) (by decide) fun _ _ => rfl

theorem reach_quoted_of_broken (mem : broken ∈ items) : text.reach (quoted items) = none := by
  rw [quoted, reach, textReach_items, if_pos mem]
  rfl

end Pattern

namespace Token

open TextItem

variable {items : List TextItem}

theorem scanFrom_quoted_of_broken (mem : broken ∈ items) (line : Nat) :
    scanFrom line (quoted items) = .error (.unterminatedText line) := by
  have belongs : family (quoted items) = .text := rfl
  have unreached := reach_quoted_of_broken mem
  exact scanFrom_of_unreached (List.cons_ne_nil _ _) belongs (by decide) unreached line

theorem scanFrom_quoted (whole : broken ∉ items) (line : Nat) (cs : List Char) :
    scanFrom line (quoted items ++ cs) = do
      let tokens ← scanFrom (lineAfter line (quoted items)) cs
      return (.text (String.ofList (items.flatMap meant)), lineAfter line (quoted items)) :: tokens :=
  scanFrom_of_decodes (next_quoted whole cs) (decodes_quoted items) line

/-- A quoted text is one token, which means what its items mean and is on the line that the text ends
on. If a line break stands behind a backslash, it is unterminated instead. -/
theorem scan_quoted (items : List TextItem) :
    scan (String.ofList (quoted items)) =
      if broken ∈ items then .error (.unterminatedText 1)
      else .ok [(.text (String.ofList (items.flatMap meant)), 1 + (quoted items).count '\n')] := by
  rw [scan, String.toList_ofList]
  split
  · next mem => exact scanFrom_quoted_of_broken mem 1
  · next whole =>
    have run := scanFrom_quoted whole 1 []
    rw [List.append_nil, scanFrom] at run
    exact run

/-- Closed by a quote, and yet unterminated. -/
theorem broken_unterminated :
    scan (String.ofList (quoted [broken])) = .error (.unterminatedText 1) ∧
    ¬ ∃ line, scan (String.ofList (quoted [broken])) =
      .ok [(.text (String.ofList ([broken].flatMap meant)), line)] := by
  have fault : scan (String.ofList (quoted [broken])) = .error (.unterminatedText 1) := by cbv
  refine ⟨fault, ?_⟩
  rintro ⟨line, run⟩
  rw [fault] at run
  cases run

end Token

end Phrasemill
