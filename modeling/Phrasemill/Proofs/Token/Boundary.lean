import Mathlib
import Phrasemill.Proofs.Token.Munch

/-!
# Where a lexeme ends

Whether a lexeme is the next one of a text can be told from the first character behind it: it is,
unless that character goes on with the pattern (`Pattern.next_append_iff`). The rest of the text has
no say in it. So a text that is cut to its end is cut alike in front of anything, if it ends in a line
break: no lexeme goes on over the break (`Munched.append_of_break`).

The patterns are of two kinds. A run of characters goes on as long as they pass a test. A text and a
block comment end where their last character says so, and no lexeme of theirs begins a longer one.
-/

namespace Phrasemill

open scoped Computability

namespace Pattern

variable {p q : Pattern} {w u cs : List Char} {c : Char} {n : Nat}

/-! ### Lexemes that end in themselves -/

theorem Longest.eq_length {L : Language Char} {r : Option Nat} (h : Longest L w r) (mem : w ∈ L) :
    r = some w.length := by
  obtain ⟨n, rfl, le⟩ := h.best w List.prefix_rfl mem
  obtain ⟨v, is_prefix, -, rfl⟩ := h.found n rfl
  rw [le_antisymm le is_prefix.length_le]

/-- A lexeme that is found without a look at what is behind it begins no longer one. -/
theorem eq_nil_of_append_mem {L : Language Char} {find : List Char → Option Nat}
    (longest : ∀ cs, Longest L cs (find cs))
    (blind : ∀ {cs n}, find cs = some n → ∀ u, find (cs ++ u) = some n)
    (mem : w ∈ L) (longer : w ++ u ∈ L) : u = [] := by
  have found := blind ((longest w).eq_length mem) u
  rw [(longest (w ++ u)).eq_length longer, Option.some.injEq, List.length_append] at found
  exact List.eq_nil_of_length_eq_zero (Nat.add_eq_left.1 found)

theorem textReach_append (h : textReach cs = some n) (u : List Char) :
    textReach (cs ++ u) = some n := by
  induction cs using textReach.induct generalizing n with
  | case1 => cases h
  | case2 cs => rwa [List.cons_append, textReach]
  | case3 => cases h
  | case4 cs =>
    rw [textReach, if_pos rfl] at h
    cases h
  | case5 c cs not_break ih =>
    rw [textReach, if_neg not_break] at h
    obtain ⟨m, found, rfl⟩ := Option.map_eq_some_iff.1 h
    rw [List.cons_append, List.cons_append, textReach, if_neg not_break, ih found, Option.map_some]
  | case6 c cs not_quote not_last not_pair ih =>
    have not_backslash := ne_of_no_pair not_last not_pair
    rw [textReach_plain not_quote not_backslash] at h
    obtain ⟨m, found, rfl⟩ := Option.map_eq_some_iff.1 h
    rw [List.cons_append, textReach_plain not_quote not_backslash, ih found, Option.map_some]

theorem blockReach_append (h : blockReach cs = some n) (u : List Char) :
    blockReach (cs ++ u) = some n := by
  induction cs using blockReach.induct generalizing n with
  | case1 => cases h
  | case2 => cases h
  | case3 cs => rwa [List.cons_append, List.cons_append, blockReach]
  | case4 c cs not_slash ih =>
    rw [blockReach, if_neg not_slash] at h
    obtain ⟨m, found, rfl⟩ := Option.map_eq_some_iff.1 h
    rw [List.cons_append, List.cons_append, blockReach, if_neg not_slash, ih found, Option.map_some]
  | case5 c cs not_last not_pair ih =>
    have not_star := ne_of_no_pair not_last not_pair
    rw [blockReach_plain not_star] at h
    obtain ⟨m, found, rfl⟩ := Option.map_eq_some_iff.1 h
    rw [List.cons_append, blockReach_plain not_star, ih found, Option.map_some]

theorem eq_nil_of_append_mem_text (mem : w ∈ text.form) (longer : w ++ u ∈ text.form) : u = [] := by
  obtain ⟨v, v_mem, rfl⟩ := mem_char_mul.1 mem
  obtain ⟨v', longer_mem, eq⟩ := mem_char_mul.1 longer
  cases eq
  exact eq_nil_of_append_mem longest_textRest textReach_append v_mem longer_mem

theorem eq_nil_of_append_mem_blockComment (mem : w ∈ blockComment.form)
    (longer : w ++ u ∈ blockComment.form) : u = [] := by
  obtain ⟨v, star_mem, rfl⟩ := mem_char_mul.1 mem
  obtain ⟨v, v_mem, rfl⟩ := mem_char_mul.1 star_mem
  obtain ⟨v', longer_star, eq⟩ := mem_char_mul.1 longer
  cases eq
  obtain ⟨v', longer_mem, eq⟩ := mem_char_mul.1 longer_star
  cases eq
  exact eq_nil_of_append_mem longest_blockRest blockReach_append v_mem longer_mem

/-! ### Runs -/

/-- Whether a character behind a lexeme of the pattern makes it longer. -/
def goesOn : Pattern → Char → Bool
  | print, c | name, c => continuesName c
  | integer, c => isDigit c
  | lineComment, c => !endsLineComment c
  | blank, c => isBlank c
  | text, _ | blockComment, _ | symbol _ _, _ | lineBreak, _ => false

/-- Not even the character that ends a line comment goes on with anything. -/
@[simp] theorem goesOn_break : p.goesOn '\n' = false := by
  cases p <;> rfl

theorem continuesName_of_mem_keyword (mem : c ∈ ['r', 'i', 'n', 't']) : continuesName c = true := by
  simp only [List.mem_cons, List.not_mem_nil, or_false] at mem
  rcases mem with rfl | rfl | rfl | rfl <;> rfl

theorem append_mem_run {L : Language Char} {test : Char → Bool} (mem : w ∈ L * (single test)∗)
    (passes : test c = true) : w ++ [c] ∈ L * (single test)∗ := by
  obtain ⟨first, first_mem, run, run_mem, rfl⟩ := Language.mem_mul.1 mem
  rw [List.append_assoc]
  refine Language.mem_mul.2 ⟨first, first_mem, run ++ [c], mem_kstar_single.2 fun d d_mem => ?_, rfl⟩
  rcases List.mem_append.1 d_mem with d_mem | d_mem
  · exact mem_kstar_single.1 run_mem d d_mem
  · rwa [List.mem_singleton.1 d_mem]

/-- A character that goes on with a pattern makes a longer lexeme, of the same pattern or a name. -/
theorem exists_longer (mem : w ∈ p.form) (on : p.goesOn c = true) : ∃ q ∈ all, w ++ [c] ∈ q.form := by
  cases p with
  | print =>
    rw [Set.mem_singleton_iff.1 mem]
    refine ⟨name, by decide, append_mem_run ?_ on⟩
    exact mem_single_mul.2 ⟨'p', ['r', 'i', 'n', 't'], rfl,
      mem_kstar_single.2 fun d d_mem => continuesName_of_mem_keyword d_mem, rfl⟩
  | integer =>
    refine ⟨integer, by decide, ?_⟩
    rw [form, ← mul_assoc] at mem ⊢
    exact append_mem_run mem on
  | name => exact ⟨name, by decide, append_mem_run mem on⟩
  | lineComment =>
    refine ⟨lineComment, by decide, ?_⟩
    rw [form, ← mul_assoc] at mem ⊢
    exact append_mem_run mem on
  | blank => exact ⟨blank, by decide, append_mem_run mem on⟩
  | text | blockComment | symbol | lineBreak => cases on

/-- Behind its first character, a lexeme that does not end in itself has only such characters as go
on with its pattern. -/
theorem goesOn_of_mem_tail (not_text : p ≠ text) (not_block : p ≠ blockComment) (mem : w ∈ p.form)
    (c_mem : c ∈ w.tail) : p.goesOn c = true := by
  cases p with
  | print =>
    rw [Set.mem_singleton_iff.1 mem] at c_mem
    exact continuesName_of_mem_keyword c_mem
  | integer =>
    rw [form, add_mul, one_mul] at mem
    rcases mem with digits | signed
    · obtain ⟨d, v, -, run, rfl⟩ := mem_single_mul.1 digits
      exact mem_kstar_single.1 run c c_mem
    · obtain ⟨v, digits, rfl⟩ := mem_char_mul.1 signed
      obtain ⟨d, v, digit, run, rfl⟩ := mem_single_mul.1 digits
      rcases List.mem_cons.1 c_mem with rfl | c_mem
      · exact digit
      · exact mem_kstar_single.1 run c c_mem
  | name =>
    obtain ⟨d, v, -, run, rfl⟩ := mem_single_mul.1 mem
    exact mem_kstar_single.1 run c c_mem
  | lineComment =>
    obtain ⟨v, slash, rfl⟩ := mem_char_mul.1 mem
    obtain ⟨v, run, rfl⟩ := mem_char_mul.1 slash
    rcases List.mem_cons.1 c_mem with rfl | c_mem
    · rfl
    · exact mem_kstar_single.1 run c c_mem
  | blank =>
    obtain ⟨d, v, -, run, rfl⟩ := mem_single_mul.1 mem
    exact mem_kstar_single.1 run c c_mem
  | symbol token d =>
    rw [mem_char.1 mem] at c_mem
    cases c_mem
  | lineBreak =>
    rw [mem_char.1 mem] at c_mem
    cases c_mem
  | text => exact absurd rfl not_text
  | blockComment => exact absurd rfl not_block

/-! ### The next lexeme -/

theorem ne_nil_of_mem_form (mem : w ∈ p.form) : w ≠ [] := by
  rintro rfl
  have reaches := (longest_reach p []).eq_length mem
  exact absurd (reach_pos reaches) (lt_irrefl 0)

theorem family_append (listed : p ∈ all) (mem : w ∈ p.form) (u : List Char) :
    family (w ++ u) = family w := by
  rcases w with _ | ⟨c, _ | ⟨d, cs⟩⟩
  · exact absurd rfl (ne_nil_of_mem_form mem)
  · -- A single slash is no lexeme, so the second character is not asked for.
    have not_slash : c ≠ '/' := by
      rintro rfl
      have no_lexeme : longest ['/'] = none := by decide
      exact longest_eq_none_iff.1 no_lexeme p listed ['/'] List.prefix_rfl mem
    simp only [family, List.cons_append, List.nil_append]
    split
    · rfl
    · split
      · rfl
      · split
        · rfl
        · exact absurd rfl not_slash
        all_goals rfl
  · rfl

/-- A lexeme that begins with another one is of the same pattern, the keyword counting as a name. -/
theorem same_family (listed : p ∈ all) (q_listed : q ∈ all) (mem : w ∈ p.form)
    (longer : w ++ u ∈ q.form) :
    (if p = print then name else p) = if q = print then name else q := by
  rw [← family_of_mem listed mem, ← family_of_mem q_listed longer, family_append listed mem]

theorem mem_form_of_reach (reaches : p.reach w = some w.length) : w ∈ p.form := by
  obtain ⟨v, begins, fits, length⟩ := (longest_reach p w).found _ reaches
  rwa [begins.eq_of_length length] at fits

/-- Where a pattern that the start of a text belongs to finds nothing, no pattern does. -/
theorem not_mem_form_of_family (belongs : family cs = p) (no_name : p ≠ name)
    (unreached : p.reach cs = none) (listed : q ∈ all) (begins : w <+: cs) : w ∉ q.form := by
  intro fits
  obtain ⟨u, rfl⟩ := begins
  have same := family_append listed fits u
  rw [belongs, family_of_mem listed fits] at same
  split at same
  · exact no_name same
  · subst same
    obtain ⟨n, reaches, -⟩ := (longest_reach p (w ++ u)).best w (List.prefix_append w u) fits
    rw [unreached] at reaches
    cases reaches

theorem goesOn_eq (listed : p ∈ all) (q_listed : q ∈ all) (mem : w ∈ p.form)
    (longer : w ++ u ∈ q.form) : p.goesOn = q.goesOn := by
  have as_name (p : Pattern) : (if p = print then name else p).goesOn = p.goesOn := by
    split
    · next is_print =>
      rw [is_print]
      rfl
    · rfl
  rw [← as_name p, ← as_name q, same_family listed q_listed mem longer]

theorem eq_of_longer (listed : p ∈ all) (q_listed : q ∈ all) (mem : w ∈ p.form)
    (longer : w ++ u ∈ q.form) (no_keyword : q ≠ print) (no_name : q ≠ name) : p = q := by
  have same := same_family listed q_listed mem longer
  rw [if_neg no_keyword] at same
  split at same
  · exact absurd same.symm no_name
  · exact same

theorem goesOn_of_longer (listed : p ∈ all) (q_listed : q ∈ all) (mem : w ∈ p.form)
    (longer : w ++ c :: u ∈ q.form) : p.goesOn c = true := by
  by_cases is_text : q = text
  · subst is_text
    obtain rfl := eq_of_longer listed q_listed mem longer (by decide) (by decide)
    cases eq_nil_of_append_mem_text mem longer
  · by_cases is_block : q = blockComment
    · subst is_block
      obtain rfl := eq_of_longer listed q_listed mem longer (by decide) (by decide)
      cases eq_nil_of_append_mem_blockComment mem longer
    · rw [goesOn_eq listed q_listed mem longer]
      refine goesOn_of_mem_tail is_text is_block longer ?_
      rw [List.tail_append_of_ne_nil (ne_nil_of_mem_form mem)]
      exact List.mem_append_right _ List.mem_cons_self

/-- A lexeme is next if and only if the character behind it does not go on with its pattern. -/
theorem next_append_iff {rest : List Char} : Next (w ++ rest) p w ↔
    p ∈ all ∧ w ∈ p.form ∧ (p = name → w ∉ print.form) ∧ ∀ c ∈ rest.head?, p.goesOn c = false := by
  constructor
  · intro next
    refine ⟨next.listed, next.fits, next.keyword, fun c head => ?_⟩
    obtain ⟨tail, rfl⟩ := List.head?_eq_some_iff.1 head
    by_contra on
    obtain ⟨q, listed, longer⟩ := exists_longer next.fits (Bool.eq_true_of_not_eq_false on)
    have le := next.maximal q listed _ ⟨tail, by simp⟩ longer
    rw [List.length_append] at le
    exact absurd le (Nat.not_succ_le_self _)
  · rintro ⟨listed, fits, keyword, stops⟩
    refine ⟨List.prefix_append w rest, listed, fits, fun q q_listed v begins v_fits => ?_, keyword⟩
    by_contra longer
    obtain ⟨u, rfl⟩ := List.prefix_of_prefix_length_le (List.prefix_append w rest) begins
      (not_le.1 longer).le
    cases u with
    | nil =>
      rw [List.append_nil] at longer
      exact longer (le_refl _)
    | cons c u =>
      obtain ⟨tail, rfl⟩ := (List.prefix_append_right_inj w).1 begins
      have on := goesOn_of_longer listed q_listed fits v_fits
      rw [stops c rfl] at on
      cases on

/-- Only a name has to be kept apart from the keyword. -/
theorem next_of_not_name {rest : List Char} (listed : p ∈ all) (fits : w ∈ p.form)
    (no_name : p ≠ name) (stops : ∀ c ∈ rest.head?, p.goesOn c = false) : Next (w ++ rest) p w :=
  next_append_iff.2 ⟨listed, fits, fun is_name => absurd is_name no_name, stops⟩

theorem Next.of_head_eq {rest others : List Char} (h : Next (w ++ rest) p w)
    (same : others.head? = rest.head?) : Next (w ++ others) p w := by
  rw [next_append_iff] at h ⊢
  rwa [same]

/-- A lexeme that ends in a line break is next in front of anything. -/
theorem Next.of_break {rest : List Char} (h : Next (w ++ rest) p w) (breaks : '\n' ∈ w.getLast?)
    (others : List Char) : Next (w ++ others) p w := by
  obtain ⟨listed, fits, keyword, -⟩ := next_append_iff.1 h
  refine next_append_iff.2 ⟨listed, fits, keyword, fun c _ => ?_⟩
  by_cases is_text : p = text
  · rw [is_text]
    rfl
  · by_cases is_block : p = blockComment
    · rw [is_block]
      rfl
    · obtain ⟨v, rfl⟩ := List.getLast?_eq_some_iff.1 breaks
      cases v with
      | nil =>
        have break_fits : ['\n'] ++ [] ∈ lineBreak.form := mem_char.2 rfl
        rw [eq_of_longer listed (by decide) fits break_fits (by decide) (by decide)]
        rfl
      | cons d v =>
        have on := goesOn_of_mem_tail is_text is_block fits (List.mem_append_right v (.head []))
        rw [goesOn_break] at on
        cases on

theorem next_blanks (blanks : ∀ d ∈ w, isBlank d = true) (more : w ≠ [])
    {rest : List Char} (stops : ∀ d ∈ rest.head?, isBlank d = false) : Next (w ++ rest) blank w := by
  cases w with
  | nil => exact absurd rfl more
  | cons d w =>
    obtain ⟨starts, run⟩ := List.forall_mem_cons.1 blanks
    have fits := mem_single_mul.2 ⟨d, w, starts, mem_kstar_single.2 run, rfl⟩
    exact next_of_not_name (by decide) fits (by decide) stops

end Pattern

namespace Munched

open Pattern

theorem append_of_break {cs : List Char} {lexemes : List (Pattern × List Char)}
    (h : Munched cs lexemes []) (breaks : '\n' ∈ cs.getLast?) (others : List Char) :
    Munched (cs ++ others) lexemes others := by
  generalize empty : ([] : List Char) = rest at h
  induction h with
  | here cs =>
    subst empty
    cases breaks
  | @next cs _ w p lexemes first tail ih =>
    subst empty
    rw [List.append_assoc]
    cases cs with
    | nil =>
      rw [List.append_nil] at breaks
      obtain rfl := tail.eq_nil
      exact .next (first.of_break breaks others) (.here others)
    | cons c cs =>
      refine .next (first.of_head_eq rfl) (ih ?_ rfl)
      rwa [List.getLast?_append_of_ne_nil _ (List.cons_ne_nil c cs)] at breaks

end Munched

end Phrasemill
