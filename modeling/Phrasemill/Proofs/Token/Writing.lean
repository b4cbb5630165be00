import Mathlib
import Phrasemill.Proofs.Token.Quotes

/-!
# Writing tokens

Every token has a written form: an integer its digits, a text its characters between quotes with a
backslash in front of each quote and backslash, a name itself. A blank between two written tokens is
enough to keep them apart, whatever they are, so that a list of tokens is read as it was written
(`Token.scan_written`). Only a name can fail to be writable: it has to be one, and must not be the
keyword.
-/

namespace Phrasemill

open Pattern
open scoped Computability

namespace TextItem

/-- How a character is put into a text. -/
def of (c : Char) : TextItem := if ordinary : c ≠ '"' ∧ c ≠ '\\' then plain c ordinary else pair c

theorem meant_of (c : Char) : (of c).meant = [c] := by
  unfold of
  split
  · rfl
  · next extraordinary =>
    rw [not_and_or, not_not, not_not] at extraordinary
    rcases extraordinary with rfl | rfl <;> rfl

theorem flatMap_meant_of (cs : List Char) : (cs.map of).flatMap meant = cs := by
  simp [List.flatMap_map, meant_of]

/-- A line break is put into a text without a backslash. -/
theorem broken_not_mem_of (cs : List Char) : broken ∉ cs.map of := by
  intro mem
  obtain ⟨c, -, eq⟩ := List.mem_map.1 mem
  unfold of at eq
  split at eq
  · cases eq
  · next extraordinary =>
    cases eq
    exact extraordinary (by decide)

end TextItem

namespace Pattern

/-! ### Integers -/

theorem isDigit_of_mem_toDigits {n : Nat} {c : Char} (mem : c ∈ Nat.toDigits 10 n) :
    isDigit c = true :=
  Nat.isDigit_of_mem_toDigits (by decide) (by decide) mem

theorem toDigits_mem_run (n : Nat) :
    Nat.toDigits 10 n ∈ single isDigit * (single isDigit)∗ := by
  have digits (c : Char) (mem : c ∈ Nat.toDigits 10 n) := isDigit_of_mem_toDigits mem
  cases eq : Nat.toDigits 10 n with
  | nil => exact absurd eq Nat.toDigits_ne_nil
  | cons c cs =>
    rw [eq] at digits
    obtain ⟨first, others⟩ := List.forall_mem_cons.1 digits
    exact mem_single_mul.2 ⟨c, cs, first, mem_kstar_single.2 others, rfl⟩

theorem decimal_toDigits (n : Nat) : decimal (Nat.toDigits 10 n) = n := by
  have no_sign (digits : List Char) : Nat.toDigits 10 n ≠ '-' :: digits := by
    intro eq
    have digit := isDigit_of_mem_toDigits (eq ▸ List.mem_cons_self)
    cases digit
  rw [decimal, Nat.ofDigitChars_ten_toDigits]
  exact no_sign

theorem decimal_minus_toDigits (n : Nat) : decimal ('-' :: Nat.toDigits 10 n) = -n := by
  rw [decimal, Nat.ofDigitChars_ten_toDigits]

/-- The digits of a number are a lexeme that denotes it. -/
theorem toString_mem_form (n : Int) :
    (toString n).toList ∈ integer.form ∧ decimal (toString n).toList = n := by
  rw [Int.toString_eq_repr, Int.repr_eq_if, form, add_mul, one_mul]
  split
  · next nonneg =>
    rw [Nat.toList_repr, decimal_toDigits]
    exact ⟨.inl (toDigits_mem_run _), Int.toNat_of_nonneg nonneg⟩
  · next negative =>
    have spelled : ("-" ++ (-n).toNat.repr).toList = '-' :: Nat.toDigits 10 (-n).toNat := by
      rw [String.toList_append, Nat.toList_repr]
      rfl
    rw [spelled, decimal_minus_toDigits]
    exact ⟨.inr (mem_char_mul.2 ⟨_, toDigits_mem_run _, rfl⟩), by omega⟩

end Pattern

namespace Token

/-- A token as it is written. -/
def written : Token → String
  | print => "print"
  | integer value => toString value.toInt
  | text value => String.ofList (quoted (value.toList.map TextItem.of))
  | name value => value
  | openParen => "("
  | closeParen => ")"
  | openBracket => "["
  | closeBracket => "]"
  | comma => ","
  | equals => "="
  | dot => "."

/-- A name is a letter or underscore, then letters, digits and underscores, and not the keyword. -/
def Writable : Token → Prop
  | name value => value.toList ∈ Pattern.name.form ∧ value ≠ "print"
  | _ => True

/-- A written token is the next lexeme in front of a blank or the end. -/
theorem next_written {t : Token} (writable : t.Writable) {rest : List Char}
    (apart : ∀ c ∈ rest.head?, c = ' ') :
    ∃ p, Next (t.written.toList ++ rest) p t.written.toList ∧ Decodes p t.written.toList t := by
  have stops {p : Pattern} (stops : p.goesOn ' ' = false) : ∀ c ∈ rest.head?, p.goesOn c = false := by
    intro c head
    rwa [apart c head]
  have next_symbol {token : Token} {c : Char} (listed : .symbol token c ∈ all) :
      Next ([c] ++ rest) (.symbol token c) [c] :=
    next_of_not_name listed (mem_char.2 rfl) (by simp) (stops rfl)
  cases t with
  | print => exact ⟨.print, next_of_not_name (by decide) rfl (by decide) (stops rfl), .print⟩
  | integer value =>
    obtain ⟨fits, denotes⟩ := toString_mem_form value.toInt
    exact ⟨.integer, next_of_not_name (by decide) fits (by decide) (stops rfl), .integer denotes.symm⟩
  | text value =>
    have decodes := decodes_quoted (value.toList.map TextItem.of)
    rw [TextItem.flatMap_meant_of, String.ofList_toList] at decodes
    rw [written, String.toList_ofList]
    exact ⟨.text, next_quoted (TextItem.broken_not_mem_of _) rest, decodes⟩
  | name value =>
    have no_keyword : value.toList ∉ Pattern.print.form := fun keyword =>
      writable.2 (String.toList_inj.1 (Set.mem_singleton_iff.1 keyword))
    exact ⟨.name, next_append_iff.2 ⟨by decide, writable.1, fun _ => no_keyword, stops rfl⟩,
      .name value⟩
  | openParen => exact ⟨_, next_symbol (by decide), .symbol .openParen '('⟩
  | closeParen => exact ⟨_, next_symbol (by decide), .symbol .closeParen ')'⟩
  | openBracket => exact ⟨_, next_symbol (by decide), .symbol .openBracket '['⟩
  | closeBracket => exact ⟨_, next_symbol (by decide), .symbol .closeBracket ']'⟩
  | comma => exact ⟨_, next_symbol (by decide), .symbol .comma ','⟩
  | equals => exact ⟨_, next_symbol (by decide), .symbol .equals '='⟩
  | dot => exact ⟨_, next_symbol (by decide), .symbol .dot '.'⟩

/-- Written tokens with blanks between them. -/
def spaced (tokens : List Token) : List Char := [' '].intercalate (tokens.map (·.written.toList))

/-- Behind a written token is the end, or a blank and the others. -/
theorem exists_spaced_cons (t : Token) (tokens : List Token) :
    ∃ rest, spaced (t :: tokens) = t.written.toList ++ rest ∧ (∀ c ∈ rest.head?, c = ' ') ∧
      ∀ line, scanFrom line rest = scanFrom line (spaced tokens) := by
  cases tokens with
  | nil => exact ⟨[], by simp [spaced], nofun, fun _ => rfl⟩
  | cons t' tokens =>
    refine ⟨' ' :: spaced (t' :: tokens), by simp [spaced], ?_, fun line => scanFrom_blank line _⟩
    rintro c ⟨⟩
    rfl

theorem scanFrom_spaced {tokens : List Token} (writable : ∀ t ∈ tokens, t.Writable) (line : Nat) :
    ∃ located, scanFrom line (spaced tokens) = .ok located ∧ located.map Prod.fst = tokens := by
  induction tokens generalizing line with
  | nil => exact ⟨[], by rw [spaced, List.map_nil, List.intercalate_nil, scanFrom], rfl⟩
  | cons t tokens ih =>
    obtain ⟨t_writable, others⟩ := List.forall_mem_cons.1 writable
    obtain ⟨rest, spelled, apart, skip⟩ := exists_spaced_cons t tokens
    obtain ⟨p, first, decodes⟩ := next_written t_writable apart
    obtain ⟨located, run, rfl⟩ := ih others (lineAfter line t.written.toList)
    refine ⟨(t, lineAfter line t.written.toList) :: located, ?_, rfl⟩
    rw [spelled, scanFrom_of_decodes first decodes, skip, run]
    rfl

/-- What is written with blanks between the tokens is read as these tokens. -/
theorem scan_written (tokens : List Token) (writable : ∀ t ∈ tokens, t.Writable) :
    ∃ located, scan (" ".intercalate (tokens.map written)) = .ok located ∧
      located.map Prod.fst = tokens := by
  have spelled : (" ".intercalate (tokens.map written)).toList = spaced tokens := by
    rw [String.toList_intercalate, List.map_map]
    rfl
  rw [scan, spelled]
  exact scanFrom_spaced writable 1

/-- The least integer, a text with quotes, a backslash, a line break and the opening of a comment in
it, and a name that begins with the keyword. -/
theorem scan_written_of_print :
    (∀ t ∈ [Token.print, .integer Int64.minValue, .text "\"\\\n/*\"", .name "printer", .dot],
      t.Writable) ∧
    ∃ located, scan (" ".intercalate ([Token.print, .integer Int64.minValue, .text "\"\\\n/*\"",
        .name "printer", .dot].map written)) = .ok located ∧
      located.map Prod.fst =
        [.print, .integer Int64.minValue, .text "\"\\\n/*\"", .name "printer", .dot] := by
  have name_writable : (Token.name "printer").Writable := ⟨mem_form_of_reach (by decide), by decide⟩
  have writable : ∀ t ∈ [Token.print, .integer Int64.minValue, .text "\"\\\n/*\"", .name "printer",
      .dot], t.Writable := by
    simp only [List.forall_mem_cons]
    exact ⟨trivial, trivial, trivial, name_writable, trivial, nofun⟩
  exact ⟨writable, scan_written _ writable⟩

end Token

end Phrasemill
