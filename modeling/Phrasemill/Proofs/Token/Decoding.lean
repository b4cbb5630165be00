import Mathlib
import Phrasemill.Proofs.Token.Forms

/-!
# What lexemes stand for

The token of a lexeme, said without the functions that compute it (`Pattern.Decodes`): an integer is
the number that its digits denote, a text is what is left of its characters when every escape is
replaced. `Pattern.decodes_iff`, `Pattern.meaning_eq_nothing_iff` and
`Pattern.meaning_eq_tooLarge_iff` say of each pattern when a lexeme of it has which meaning.
-/

namespace Phrasemill

open scoped Computability

namespace Pattern

/-- Whether the lexemes of a pattern yield no token. -/
def skipped : Pattern → Bool
  | lineComment | blockComment | lineBreak | blank => true
  | _ => false

/-- The number that digits denote, with or without a minus sign. -/
def decimal : List Char → Int
  | '-' :: digits => -(Nat.ofDigitChars 10 digits 0 : Int)
  | digits => (Nat.ofDigitChars 10 digits 0 : Int)

/-- Whether the number that digits denote does not fit in 64 bits. -/
def Outside (w : List Char) : Prop :=
  decimal w < Int64.minValue.toInt ∨ Int64.maxValue.toInt < decimal w

/-- The characters that a character behind a backslash stands for. -/
def escaped : Char → List Char
  | '"' => ['"']
  | '\\' => ['\\']
  | 'n' => ['\n']
  | 't' => ['\t']
  | c => ['\\', c]

/-- Characters as they are written between quotes, and as they are meant. -/
inductive Unescapes : List Char → List Char → Prop where
  | nil : Unescapes [] []
  | plain {c : Char} {cs ds : List Char} (not_backslash : c ≠ '\\') (others : Unescapes cs ds) :
      Unescapes (c :: cs) (c :: ds)
  | escape (c : Char) {cs ds : List Char} (others : Unescapes cs ds) :
      Unescapes ('\\' :: c :: cs) (escaped c ++ ds)

/-- The token that a lexeme of a pattern yields. -/
inductive Decodes : Pattern → List Char → Token → Prop where
  | print : Decodes print ['p', 'r', 'i', 'n', 't'] .print
  | integer {w : List Char} {value : Int64} (same : value.toInt = decimal w) :
      Decodes integer w (.integer value)
  | text {inner : List Char} {value : String} (meant : Unescapes inner value.toList) :
      Decodes text ('"' :: (inner ++ ['"'])) (.text value)
  | name (value : String) : Decodes name value.toList (.name value)
  | symbol (token : Token) (c : Char) : Decodes (symbol token c) [c] token

/-! ### Integers -/

theorem integerOf?_eq (w : List Char) :
    integerOf? w =
      if Int64.minValue.toInt ≤ decimal w ∧ decimal w ≤ Int64.maxValue.toInt then
        some (Int64.ofInt (decimal w))
      else none := by
  by_cases signed : ∃ digits, w = '-' :: digits
  · obtain ⟨digits, rfl⟩ := signed
    rfl
  · have unsigned (digits : List Char) : w ≠ '-' :: digits := fun eq => signed ⟨digits, eq⟩
    rw [integerOf?, decimal]
    · exact unsigned
    · exact unsigned

theorem integerOf?_eq_some_iff {w : List Char} {value : Int64} :
    integerOf? w = some value ↔ value.toInt = decimal w := by
  rw [integerOf?_eq]
  constructor
  · intro h
    split at h
    · next bounds =>
      rw [Int64.toInt_minValue, Int64.toInt_maxValue] at bounds
      rw [← Option.some.inj h]
      exact Int64.toInt_ofInt_of_le bounds.1 (Int.lt_of_le_sub_one bounds.2)
    · cases h
  · intro same
    rw [← same, if_pos ⟨Int64.minValue_le_toInt value, Int64.toInt_le value⟩, Int64.ofInt_toInt]

theorem integerOf?_eq_none_iff {w : List Char} : integerOf? w = none ↔ Outside w := by
  rw [Outside, integerOf?_eq, ite_eq_right_iff, ← not_le, ← not_le, ← not_and_or]
  constructor
  · intro h bounds
    cases h bounds
  · intro outside bounds
    exact absurd bounds outside

/-! ### Texts -/

theorem unescape_plain {c : Char} (not_backslash : c ≠ '\\') (cs : List Char) :
    unescape (c :: cs) = c :: unescape cs := by
  rw [unescape]
  all_goals
    intros
    contradiction

theorem unescape_escape (c : Char) (cs : List Char) :
    unescape ('\\' :: c :: cs) = escaped c ++ unescape cs := by
  unfold escaped
  split
  · rfl
  · rfl
  · rfl
  · rfl
  · next not_quote not_backslash not_n not_t =>
    rw [unescape]
    · rfl
    · exact not_quote
    · exact not_backslash
    · exact not_n
    · exact not_t

theorem Unescapes.unescape_eq {cs ds : List Char} (h : Unescapes cs ds) : unescape cs = ds := by
  induction h with
  | nil => rfl
  | plain not_backslash _ ih => rw [unescape_plain not_backslash, ih]
  | escape c _ ih => rw [unescape_escape, ih]

theorem exists_unescapes {w : List Char}
    (mem : w ∈ (single (fun c => c != '"' && c != '\\') + char '\\' * single (· != '\n'))∗) :
    ∃ ds, Unescapes w ds := by
  obtain ⟨parts, rfl, all⟩ := mem
  induction parts with
  | nil => exact ⟨[], .nil⟩
  | cons part parts ih =>
    obtain ⟨part_mem, all⟩ := List.forall_mem_cons.1 all
    obtain ⟨ds, others⟩ := ih all
    rw [List.flatten_cons]
    rcases part_mem with ⟨c, passes, rfl⟩ | pair
    · rw [Bool.and_eq_true, bne_iff_ne, bne_iff_ne] at passes
      exact ⟨c :: ds, .plain passes.2 others⟩
    · obtain ⟨_, ⟨c, -, rfl⟩, rfl⟩ := mem_char_mul.1 pair
      exact ⟨escaped c ++ ds, .escape c others⟩

theorem exists_inner {w : List Char} (mem : w ∈ text.form) :
    ∃ inner ds, w = '"' :: (inner ++ ['"']) ∧ Unescapes inner ds := by
  obtain ⟨v, tail_mem, rfl⟩ := mem_char_mul.1 mem
  obtain ⟨inner, inner_mem, _, quote, rfl⟩ := Language.mem_mul.1 tail_mem
  obtain ⟨ds, unescapes⟩ := exists_unescapes inner_mem
  exact ⟨inner, ds, by rw [mem_char.1 quote], unescapes⟩

theorem meaning_text (inner : List Char) :
    text.meaning ('"' :: (inner ++ ['"'])) =
      .token (.text (String.ofList (unescape inner))) := by
  rw [meaning, List.drop_succ_cons, List.drop_zero, List.dropLast_concat]

/-! ### Meanings -/

variable {p : Pattern} {w : List Char}

theorem decodes_iff {t : Token} (mem : w ∈ p.form) : Decodes p w t ↔ p.meaning w = .token t := by
  constructor
  · intro h
    cases h with
    | print => rfl
    | integer same => rw [meaning, integerOf?_eq_some_iff.2 same]
    | text meant => rw [meaning_text, meant.unescape_eq, String.ofList_toList]
    | name value => rw [meaning, String.ofList_toList]
    | symbol token c => rfl
  · intro h
    cases p with
    | print =>
      rw [Set.mem_singleton_iff.1 mem]
      cases h
      exact .print
    | integer =>
      rw [meaning] at h
      split at h
      · next found =>
        cases h
        exact .integer (integerOf?_eq_some_iff.1 found)
      · cases h
    | text =>
      obtain ⟨inner, ds, rfl, unescapes⟩ := exists_inner mem
      rw [meaning_text, unescapes.unescape_eq] at h
      cases h
      refine .text ?_
      rwa [String.toList_ofList]
    | name =>
      cases h
      have decodes := Decodes.name (String.ofList w)
      rwa [String.toList_ofList] at decodes
    | symbol token c =>
      rw [mem_char.1 mem]
      cases h
      exact .symbol t c
    | lineComment | blockComment | lineBreak | blank => cases h

theorem meaning_eq_nothing_iff : p.meaning w = .nothing ↔ p.skipped = true := by
  cases p with
  | integer =>
    rw [meaning]
    split <;> simp [skipped]
  | _ => simp [meaning, skipped]

theorem meaning_eq_tooLarge_iff : p.meaning w = .tooLarge ↔ p = integer ∧ Outside w := by
  rw [← integerOf?_eq_none_iff]
  cases p with
  | integer =>
    rw [meaning]
    split
    · next found => simp [found]
    · next too_large => simp [too_large]
  | _ => simp [meaning]

theorem Decodes.not_skipped {t : Token} (h : Decodes p w t) : p.skipped = false := by
  cases h <;> rfl

/-- A lexeme yields no token, yields one, or is an integer that is too large. -/
theorem skipped_or_decodes_or_outside (mem : w ∈ p.form) :
    p.skipped = true ∨ (∃ t, Decodes p w t) ∨ (p = integer ∧ Outside w) := by
  cases h : p.meaning w with
  | nothing => exact .inl (meaning_eq_nothing_iff.1 h)
  | token t => exact .inr (.inl ⟨t, (decodes_iff mem).2 h⟩)
  | tooLarge => exact .inr (.inr (meaning_eq_tooLarge_iff.1 h))

end Pattern

end Phrasemill
