import Mathlib
import Phrasemill.Token.Pattern

/-!
# The forms of lexemes

Each pattern as a regular expression, that is, as the language of its lexemes (`Pattern.form`), and
the proof that `Pattern.reach` finds the longest prefix of a text in that language, whatever the text
is (`Pattern.longest_reach`).

`Longest` follows the regular expressions: there is one fact for each way in which they are put
together. A loop is unrolled once, into what ends it and what goes on with it, and then the characters
at the front decide between the two. That is also why a star in a comment can hide the slash behind
the next star: where the loop goes on it takes two characters at once.
-/

namespace Phrasemill

open scoped Computability

namespace Pattern

/-! ### Longest prefixes -/

/-- How far the longest prefix of a text that is in a language reaches, if there is any. -/
structure Longest (L : Language Char) (cs : List Char) (reach : Option Nat) : Prop where
  found : ∀ n, reach = some n → ∃ w, w <+: cs ∧ w ∈ L ∧ w.length = n
  best : ∀ w, w <+: cs → w ∈ L → ∃ n, reach = some n ∧ w.length ≤ n

/-- The texts of a single character that passes a test. -/
def single (test : Char → Bool) : Language Char := {w : List Char | ∃ c, test c = true ∧ w = [c]}

/-- The text of a single character. -/
def char (c : Char) : Language Char := single (· == c)

section Longest

variable {L M : Language Char} {test : Char → Bool} {c : Char} {cs : List Char} {r : Option Nat}

theorem mem_single_mul {w : List Char} :
    w ∈ single test * L ↔ ∃ c v, test c = true ∧ v ∈ L ∧ w = c :: v := by
  rw [Language.mem_mul]
  constructor
  · rintro ⟨_, ⟨c, passes, rfl⟩, v, mem, rfl⟩
    exact ⟨c, v, passes, mem, rfl⟩
  · rintro ⟨c, v, passes, mem, rfl⟩
    exact ⟨[c], ⟨c, passes, rfl⟩, v, mem, rfl⟩

theorem mem_char_mul {w : List Char} : w ∈ char c * L ↔ ∃ v, v ∈ L ∧ w = c :: v := by
  rw [char, mem_single_mul]
  constructor
  · rintro ⟨d, v, same, mem, rfl⟩
    exact ⟨v, mem, by rw [eq_of_beq same]⟩
  · rintro ⟨v, mem, rfl⟩
    exact ⟨c, v, beq_self_eq_true c, mem, rfl⟩

theorem mem_char {w : List Char} : w ∈ char c ↔ w = [c] := by
  constructor
  · rintro ⟨d, same, rfl⟩
    rw [eq_of_beq same]
  · rintro rfl
    exact ⟨c, beq_self_eq_true c, rfl⟩

theorem mem_kstar_single {w : List Char} : w ∈ (single test)∗ ↔ ∀ c ∈ w, test c = true := by
  constructor
  · rintro ⟨parts, rfl, all⟩ c mem
    obtain ⟨part, part_mem, c_mem⟩ := List.mem_flatten.1 mem
    obtain ⟨d, passes, rfl⟩ := all part part_mem
    rwa [List.mem_singleton.1 c_mem]
  · intro all
    refine ⟨w.map ([·]), (List.flatMap_singleton' w).symm, fun part mem => ?_⟩
    obtain ⟨c, c_mem, rfl⟩ := List.mem_map.1 mem
    exact ⟨c, all c c_mem, rfl⟩

theorem longest_one (cs : List Char) : Longest 1 cs (some 0) := by
  constructor
  · rintro _ ⟨⟩
    exact ⟨[], List.nil_prefix, rfl, rfl⟩
  · rintro w - empty
    rw [Language.mem_one] at empty
    exact ⟨0, rfl, by rw [empty]; exact le_refl 0⟩

theorem longest_none (h : ∀ w, w <+: cs → w ∉ L) : Longest L cs none := by
  constructor
  · rintro _ ⟨⟩
  · intro w is_prefix mem
    exact absurd mem (h w is_prefix)

theorem longest_single_mul_nil : Longest (single test * L) [] none := by
  refine longest_none fun w is_prefix mem => ?_
  obtain ⟨c, v, -, -, rfl⟩ := mem_single_mul.1 mem
  cases List.prefix_nil.1 is_prefix

theorem longest_single_mul_of_not (fails : test c = false) (cs : List Char) :
    Longest (single test * L) (c :: cs) none := by
  refine longest_none fun w is_prefix mem => ?_
  obtain ⟨d, v, passes, -, rfl⟩ := mem_single_mul.1 mem
  rw [(List.cons_prefix_cons.1 is_prefix).1, fails] at passes
  cases passes

theorem Longest.single_mul (h : Longest L cs r) (passes : test c = true) :
    Longest (single test * L) (c :: cs) (r.map (· + 1)) := by
  constructor
  · intro n eq
    obtain ⟨m, rfl, rfl⟩ := Option.map_eq_some_iff.1 eq
    obtain ⟨w, is_prefix, mem, rfl⟩ := h.found m rfl
    exact ⟨c :: w, List.cons_prefix_cons.2 ⟨rfl, is_prefix⟩,
      mem_single_mul.2 ⟨c, w, passes, mem, rfl⟩, rfl⟩
  · intro w is_prefix mem
    obtain ⟨d, v, -, v_mem, rfl⟩ := mem_single_mul.1 mem
    obtain ⟨n, rfl, le⟩ := h.best v (List.cons_prefix_cons.1 is_prefix).2 v_mem
    exact ⟨n + 1, rfl, Nat.succ_le_succ le⟩

/-- Where one of two languages has no prefix, the other one decides. -/
theorem Longest.add_left (h : Longest L cs r) (nothing : Longest M cs none) :
    Longest (M + L) cs r := by
  constructor
  · intro n eq
    obtain ⟨w, is_prefix, mem, length⟩ := h.found n eq
    exact ⟨w, is_prefix, .inr mem, length⟩
  · rintro w is_prefix (mem | mem)
    · obtain ⟨n, eq, -⟩ := nothing.best w is_prefix mem
      cases eq
    · exact h.best w is_prefix mem

theorem Longest.add_right (h : Longest L cs r) (nothing : Longest M cs none) :
    Longest (L + M) cs r := by
  rw [add_comm]
  exact h.add_left nothing

theorem longest_kstar_single (test : Char → Bool) (cs : List Char) :
    Longest (single test)∗ cs (some (cs.takeWhile test).length) := by
  constructor
  · rintro _ ⟨⟩
    refine ⟨_, List.takeWhile_prefix test, mem_kstar_single.2 fun c mem => ?_, rfl⟩
    exact List.mem_takeWhile_imp mem
  · rintro w ⟨rest, rfl⟩ mem
    refine ⟨_, rfl, ?_⟩
    rw [List.takeWhile_append_of_pos (mem_kstar_single.1 mem), List.length_append]
    exact Nat.le_add_right _ _

theorem map_two (r : Option Nat) : r.map (· + 2) = (r.map (· + 1)).map (· + 1) := by
  rw [Option.map_map]
  rfl

theorem longest_char_mul_of_ne {d : Char} (ne : d ≠ c) (cs : List Char) :
    Longest (char c * L) (d :: cs) none := by
  refine longest_single_mul_of_not ?_ cs
  exact beq_false_of_ne ne

theorem Longest.char_mul (h : Longest L cs r) (c : Char) :
    Longest (char c * L) (c :: cs) (r.map (· + 1)) :=
  h.single_mul (beq_self_eq_true c)

theorem longest_char_nil (c : Char) : Longest (char c) [] none := by
  rw [← mul_one (char c)]
  exact longest_single_mul_nil

theorem longest_char (c : Char) (cs : List Char) : Longest (char c) (c :: cs) (some 1) := by
  rw [← mul_one (char c)]
  exact (longest_one cs).char_mul c

theorem longest_char_of_ne {d : Char} (ne : d ≠ c) (cs : List Char) :
    Longest (char c) (d :: cs) none := by
  rw [← mul_one (char c)]
  exact longest_char_mul_of_ne ne cs

/-- A loop ends, or it goes on. -/
theorem kstar_mul_eq (L M : Language Char) : L∗ * M = M + L * (L∗ * M) := by
  rw [← mul_assoc, ← one_add_mul, Language.one_add_self_mul_kstar_eq_kstar]

end Longest

/-! ### The regular expressions -/

/-- What comes behind the quote that opens a text. -/
def textRest : Language Char :=
  (single (fun c => c != '"' && c != '\\') + char '\\' * single (· != '\n'))∗ * char '"'

/-- What comes behind the slash and star that open a comment. -/
def blockRest : Language Char :=
  (single (· != '*') + char '*' * single (· != '/'))∗ * (char '*' * char '/')

/-- The lexemes of a pattern. -/
def form : Pattern → Language Char
  | print => {['p', 'r', 'i', 'n', 't']}
  | integer => (1 + char '-') * (single isDigit * (single isDigit)∗)
  | text => char '"' * textRest
  | name => single startsName * (single continuesName)∗
  | lineComment => char '/' * (char '/' * (single (!endsLineComment ·))∗)
  | blockComment => char '/' * (char '*' * blockRest)
  | symbol _ c => char c
  | lineBreak => char '\n'
  | blank => single isBlank * (single isBlank)∗

/-! ### The loops -/

theorem textRest_eq : textRest = char '"' + (single (fun c => c != '"' && c != '\\') * textRest +
    char '\\' * (single (· != '\n') * textRest)) := by
  conv_lhs => rw [textRest, kstar_mul_eq, add_mul, mul_assoc]
  rfl

theorem blockRest_eq : blockRest = char '*' * char '/' + (single (· != '*') * blockRest +
    char '*' * (single (· != '/') * blockRest)) := by
  conv_lhs => rw [blockRest, kstar_mul_eq, add_mul, mul_assoc]
  rfl

/-- If `c` were `d`, it would be the last character or have one behind it. -/
theorem ne_of_no_pair {c d : Char} {cs : List Char} (not_last : c = d → cs = [] → False)
    (not_pair : ∀ e es, c = d → cs = e :: es → False) : c ≠ d := by
  intro eq
  cases cs with
  | nil => exact not_last eq rfl
  | cons e es => exact not_pair e es eq rfl

theorem textReach_plain {c : Char} (not_quote : c ≠ '"') (not_backslash : c ≠ '\\') (cs : List Char) :
    textReach (c :: cs) = (textReach cs).map (· + 1) := by
  rw [textReach]
  · exact not_quote
  · exact fun eq => absurd eq not_backslash
  · exact fun _ _ eq => absurd eq not_backslash

theorem blockReach_plain {c : Char} (not_star : c ≠ '*') (cs : List Char) :
    blockReach (c :: cs) = (blockReach cs).map (· + 1) := by
  rw [blockReach]
  · exact fun eq => absurd eq not_star
  · exact fun _ _ eq => absurd eq not_star

theorem longest_textRest (cs : List Char) : Longest textRest cs (textReach cs) := by
  induction cs using textReach.induct with
  | case1 =>
    rw [textRest_eq]
    refine Longest.add_left ?_ (longest_char_nil '"')
    exact Longest.add_left longest_single_mul_nil longest_single_mul_nil
  | case2 cs =>
    rw [textRest_eq, textReach]
    refine (longest_char '"' cs).add_right ?_
    exact (longest_char_mul_of_ne (by decide) cs).add_left (longest_single_mul_of_not rfl cs)
  | case3 =>
    rw [textRest_eq, textReach]
    refine Longest.add_left ?_ (longest_char_of_ne (by decide) [])
    exact (longest_single_mul_nil.char_mul '\\').add_left (longest_single_mul_of_not rfl [])
  | case4 cs =>
    rw [textRest_eq, textReach, if_pos rfl]
    refine Longest.add_left ?_ (longest_char_of_ne (by decide) _)
    refine Longest.add_left ?_ (longest_single_mul_of_not rfl _)
    exact (longest_single_mul_of_not rfl cs).char_mul '\\'
  | case5 c cs not_break ih =>
    rw [textRest_eq, textReach, if_neg not_break, map_two]
    refine Longest.add_left ?_ (longest_char_of_ne (by decide) _)
    refine Longest.add_left ?_ (longest_single_mul_of_not rfl _)
    refine (ih.single_mul ?_).char_mul '\\'
    exact bne_iff_ne.2 not_break
  | case6 c cs not_quote not_last not_pair ih =>
    have not_backslash := ne_of_no_pair not_last not_pair
    rw [textRest_eq, textReach_plain not_quote not_backslash]
    refine Longest.add_left ?_ (longest_char_of_ne not_quote cs)
    refine Longest.add_right ?_ (longest_char_mul_of_ne not_backslash cs)
    refine ih.single_mul ?_
    rw [bne_iff_ne.2 not_quote, bne_iff_ne.2 not_backslash]
    rfl

theorem longest_blockRest (cs : List Char) : Longest blockRest cs (blockReach cs) := by
  induction cs using blockReach.induct with
  | case1 =>
    rw [blockRest_eq]
    refine Longest.add_left ?_ longest_single_mul_nil
    exact Longest.add_left longest_single_mul_nil longest_single_mul_nil
  | case2 =>
    rw [blockRest_eq, blockReach]
    refine Longest.add_left ?_ ((longest_char_nil '/').char_mul '*')
    exact (longest_single_mul_nil.char_mul '*').add_left (longest_single_mul_of_not rfl [])
  | case3 cs =>
    rw [blockRest_eq, blockReach, if_pos rfl]
    refine ((longest_char '/' cs).char_mul '*').add_right ?_
    refine Longest.add_left ?_ (longest_single_mul_of_not rfl _)
    exact (longest_single_mul_of_not rfl cs).char_mul '*'
  | case4 c cs not_slash ih =>
    rw [blockRest_eq, blockReach, if_neg not_slash, map_two]
    refine Longest.add_left ?_ ((longest_char_of_ne not_slash cs).char_mul '*')
    refine Longest.add_left ?_ (longest_single_mul_of_not rfl _)
    refine (ih.single_mul ?_).char_mul '*'
    exact bne_iff_ne.2 not_slash
  | case5 c cs not_last not_pair ih =>
    have not_star := ne_of_no_pair not_last not_pair
    rw [blockRest_eq, blockReach_plain not_star]
    refine Longest.add_left ?_ (longest_char_mul_of_ne not_star cs)
    refine Longest.add_right ?_ (longest_char_mul_of_ne not_star cs)
    refine ih.single_mul ?_
    exact bne_iff_ne.2 not_star

/-- Of two stars the second is taken along, so the slash behind it closes nothing. -/
example : blockReach ['*', '*', '/'] = none := rfl

theorem longest_digits (cs : List Char) :
    Longest (single isDigit * (single isDigit)∗) cs (digitsReach cs) := by
  rw [digitsReach]
  cases cs with
  | nil => exact longest_single_mul_nil
  | cons c cs =>
    cases digit : isDigit c with
    | true =>
      rw [List.takeWhile_cons_of_pos digit, List.length_cons]
      exact (longest_kstar_single isDigit cs).single_mul digit
    | false =>
      rw [List.takeWhile_cons_of_neg (by rw [digit]; exact Bool.false_ne_true)]
      exact longest_single_mul_of_not digit cs

/-! ### Patterns -/

theorem longest_char_cons (c d : Char) (cs : List Char) :
    Longest (char c) (d :: cs) (if d = c then some 1 else none) := by
  split
  · next same =>
    subst same
    exact longest_char d cs
  · next other => exact longest_char_of_ne other cs

/-- A run of characters, of which the first one passes a test of its own. -/
theorem longest_run (starts continues : Char → Bool) (c : Char) (cs : List Char) :
    Longest (single starts * (single continues)∗) (c :: cs)
      (if starts c then some ((cs.takeWhile continues).length + 1) else none) := by
  split
  · next passes => exact (longest_kstar_single continues cs).single_mul passes
  · next fails => exact longest_single_mul_of_not (Bool.eq_false_iff.2 fails) cs

/-- Two characters open a comment. -/
theorem Longest.pair_mul {L : Language Char} {cs : List Char} {r : Option Nat}
    (h : Longest L cs r) (first second : Char) :
    Longest (char first * (char second * L)) (first :: second :: cs) (r.map (· + 2)) := by
  rw [map_two]
  exact (h.char_mul second).char_mul first

theorem longest_pair_mul_of_ne {L : Language Char} {first second : Char} {cs : List Char}
    (other : ∀ rest, cs ≠ first :: second :: rest) :
    Longest (char first * (char second * L)) cs none := by
  rcases cs with _ | ⟨c, _ | ⟨d, cs⟩⟩
  · exact longest_single_mul_nil
  · by_cases opens : c = first
    · subst opens
      exact longest_single_mul_nil.char_mul c
    · exact longest_char_mul_of_ne opens []
  · by_cases opens : c = first
    · subst opens
      have stops : d ≠ second := by
        rintro rfl
        exact other cs rfl
      exact (longest_char_mul_of_ne stops cs).char_mul c
    · exact longest_char_mul_of_ne opens (d :: cs)

/-- How far a pattern reaches is the length of the longest prefix of its form. -/
theorem longest_reach (p : Pattern) (cs : List Char) : Longest p.form cs (p.reach cs) := by
  cases p with
  | print =>
    rw [reach]
    split
    · next found =>
      have is_prefix := List.isPrefixOf_iff_prefix.1 found
      refine ⟨fun n eq => ⟨_, is_prefix, rfl, Option.some.inj eq⟩, fun w _ mem => ⟨5, rfl, ?_⟩⟩
      rw [Set.mem_singleton_iff.1 mem]
      exact le_refl 5
    · next other =>
      refine longest_none fun w is_prefix mem => other ?_
      rw [Set.mem_singleton_iff.1 mem] at is_prefix
      exact List.isPrefixOf_iff_prefix.2 is_prefix
  | integer =>
    rw [form, add_mul, one_mul]
    cases cs with
    | nil => exact (longest_digits []).add_right longest_single_mul_nil
    | cons c cs =>
      by_cases sign : c = '-'
      · subst sign
        exact ((longest_digits cs).char_mul '-').add_left (longest_digits ('-' :: cs))
      · have digits_reach : integer.reach (c :: cs) = digitsReach (c :: cs) := by
          simp [reach, sign]
        rw [digits_reach]
        exact (longest_digits (c :: cs)).add_right (longest_char_mul_of_ne sign cs)
  | text =>
    cases cs with
    | nil => exact longest_single_mul_nil
    | cons c cs =>
      by_cases quote : c = '"'
      · subst quote
        exact (longest_textRest cs).char_mul '"'
      · have none_reach : text.reach (c :: cs) = none := by simp [reach, quote]
        rw [none_reach]
        exact longest_char_mul_of_ne quote cs
  | name =>
    cases cs with
    | nil => exact longest_single_mul_nil
    | cons c cs => exact longest_run startsName continuesName c cs
  | lineComment =>
    by_cases opens : ∃ rest, cs = '/' :: '/' :: rest
    · obtain ⟨rest, rfl⟩ := opens
      exact (longest_kstar_single (!endsLineComment ·) rest).pair_mul '/' '/'
    · have other (rest : List Char) : cs ≠ '/' :: '/' :: rest := fun eq => opens ⟨rest, eq⟩
      have none_reach : lineComment.reach cs = none := by
        simp [reach, other]
      rw [none_reach]
      exact longest_pair_mul_of_ne other
  | blockComment =>
    by_cases opens : ∃ rest, cs = '/' :: '*' :: rest
    · obtain ⟨rest, rfl⟩ := opens
      exact (longest_blockRest rest).pair_mul '/' '*'
    · have other (rest : List Char) : cs ≠ '/' :: '*' :: rest := fun eq => opens ⟨rest, eq⟩
      have none_reach : blockComment.reach cs = none := by
        simp [reach, other]
      rw [none_reach]
      exact longest_pair_mul_of_ne other
  | symbol token char =>
    cases cs with
    | nil => exact longest_char_nil char
    | cons c cs => exact longest_char_cons char c cs
  | lineBreak =>
    cases cs with
    | nil => exact longest_char_nil '\n'
    | cons c cs => exact longest_char_cons '\n' c cs
  | blank =>
    cases cs with
    | nil => exact longest_single_mul_nil
    | cons c cs => exact longest_run isBlank isBlank c cs

end Pattern

end Phrasemill
