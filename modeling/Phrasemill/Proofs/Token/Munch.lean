import Mathlib
import Phrasemill.Proofs.Token.Forms
import Phrasemill.Token.Lexer

/-!
# The next lexeme

The next lexeme of a text is the longest prefix that any pattern has among its lexemes (`Next`). No
text is a lexeme of two patterns, but that the keyword has the form of a name; so the next lexeme and
its pattern are determined, and with them the cut of the text into lexemes (`Munched`).
`Pattern.longest` finds it wherever there is one.
-/

namespace Phrasemill

namespace Pattern

/-! ### Patterns have no lexemes in common -/

/-- The pattern that a lexeme is of, the keyword counting as a name. The first character decides, and
the second one between the comments. -/
def family : List Char → Pattern
  | [] => blank
  | c :: cs =>
    if startsName c then name
    else if isDigit c || c == '-' then integer
    else
      match c with
      | '"' => text
      | '/' => if cs.head? = some '*' then blockComment else lineComment
      | '\n' => lineBreak
      | '(' => symbol .openParen '('
      | ')' => symbol .closeParen ')'
      | '[' => symbol .openBracket '['
      | ']' => symbol .closeBracket ']'
      | ',' => symbol .comma ','
      | '=' => symbol .equals '='
      | '.' => symbol .dot '.'
      | _ => blank

theorem startsName_of_isDigit {c : Char} (digit : isDigit c = true) : startsName c = false := by
  have le : c ≤ '9' := by
    rw [isDigit, Bool.and_eq_true, decide_eq_true_eq, decide_eq_true_eq] at digit
    exact digit.2
  have below (bound : Char) (above : '9' < bound) : ¬ bound ≤ c := not_le_of_gt (le.trans_lt above)
  have not_underscore : c ≠ '_' := by
    rintro rfl
    exact below '_' (by decide) (le_refl '_')
  simp [startsName, below 'a' (by decide), below 'A' (by decide), not_underscore]

theorem family_symbol {token : Token} {c : Char} (listed : symbol token c ∈ all) :
    family [c] = symbol token c := by
  simp only [all, List.mem_cons, List.not_mem_nil, or_false, reduceCtorEq, false_or,
    symbol.injEq] at listed
  rcases listed with ⟨rfl, rfl⟩ | ⟨rfl, rfl⟩ | ⟨rfl, rfl⟩ | ⟨rfl, rfl⟩ | ⟨rfl, rfl⟩ | ⟨rfl, rfl⟩ |
    ⟨rfl, rfl⟩ <;> rfl

theorem family_of_mem {p : Pattern} (listed : p ∈ all) {w : List Char} (mem : w ∈ p.form) :
    family w = if p = print then name else p := by
  cases p with
  | print =>
    rw [Set.mem_singleton_iff.1 mem]
    rfl
  | integer =>
    rw [form, add_mul, one_mul] at mem
    rcases mem with digits | signed
    · obtain ⟨c, v, digit, -, rfl⟩ := mem_single_mul.1 digits
      simp [family, digit, startsName_of_isDigit digit]
    · obtain ⟨v, -, rfl⟩ := mem_char_mul.1 signed
      rfl
  | text =>
    obtain ⟨v, -, rfl⟩ := mem_char_mul.1 mem
    rfl
  | name =>
    obtain ⟨c, v, starts, -, rfl⟩ := mem_single_mul.1 mem
    simp [family, starts]
  | lineComment =>
    obtain ⟨v, tail_mem, rfl⟩ := mem_char_mul.1 mem
    obtain ⟨v, -, rfl⟩ := mem_char_mul.1 tail_mem
    rfl
  | blockComment =>
    obtain ⟨v, tail_mem, rfl⟩ := mem_char_mul.1 mem
    obtain ⟨v, -, rfl⟩ := mem_char_mul.1 tail_mem
    rfl
  | symbol token c =>
    rw [mem_char.1 mem]
    exact family_symbol listed
  | lineBreak =>
    rw [mem_char.1 mem]
    rfl
  | blank =>
    obtain ⟨c, v, is_blank, -, rfl⟩ := mem_single_mul.1 mem
    simp only [isBlank, Bool.or_eq_true, beq_iff_eq] at is_blank
    rcases is_blank with ((rfl | rfl) | rfl) | rfl <;> rfl

/-- Where the keyword is no name, no text is a lexeme of two patterns. -/
theorem eq_of_mem_form {p q : Pattern} {w : List Char} (p_listed : p ∈ all) (q_listed : q ∈ all)
    (p_mem : w ∈ p.form) (q_mem : w ∈ q.form) (p_keyword : p = name → w ∉ print.form)
    (q_keyword : q = name → w ∉ print.form) : p = q := by
  have same := (family_of_mem p_listed p_mem).symm.trans (family_of_mem q_listed q_mem)
  by_cases p_print : p = print <;> by_cases q_print : q = print
  · rw [p_print, q_print]
  · rw [if_pos p_print, if_neg q_print] at same
    rw [p_print] at p_mem
    exact absurd p_mem (q_keyword same.symm)
  · rw [if_neg p_print, if_pos q_print] at same
    rw [q_print] at q_mem
    exact absurd q_mem (p_keyword same)
  · rwa [if_neg p_print, if_neg q_print] at same

/-! ### The farthest reach -/

section Farthest

variable {cs : List Char} {ps : List Pattern} {p q : Pattern} {n m : Nat}

theorem reach_eq_none_of_farthest (h : farthest cs ps = none) (mem : q ∈ ps) :
    q.reach cs = none := by
  induction ps with
  | nil => cases mem
  | cons p ps ih =>
    rw [farthest] at h
    split at h
    · next unreached =>
      rcases List.mem_cons.1 mem with rfl | mem
      · exact unreached
      · exact ih h mem
    · cases h
    · split at h <;> cases h

theorem le_of_farthest (h : farthest cs ps = some (p, n)) (mem : q ∈ ps)
    (reaches : q.reach cs = some m) : m ≤ n := by
  induction ps generalizing p n with
  | nil => cases mem
  | cons first ps ih =>
    rw [farthest] at h
    split at h
    · next unreached =>
      rcases List.mem_cons.1 mem with rfl | mem
      · rw [unreached] at reaches
        cases reaches
      · exact ih h mem
    · next reached others =>
      cases h
      rcases List.mem_cons.1 mem with rfl | mem
      · rw [reached] at reaches
        cases reaches
        exact le_refl _
      · rw [reach_eq_none_of_farthest others mem] at reaches
        cases reaches
    · next reached others =>
      split at h
      · next farther =>
        cases h
        rcases List.mem_cons.1 mem with rfl | mem
        · rw [reached] at reaches
          cases reaches
          exact le_refl _
        · exact (ih others mem).trans farther
      · next nearer =>
        cases h
        rcases List.mem_cons.1 mem with rfl | mem
        · rw [reached] at reaches
          cases reaches
          exact (not_le.1 nearer).le
        · exact ih others mem

/-- The first pattern wins a tie. -/
theorem lt_of_farthest_cons (h : farthest cs (q :: ps) = some (p, n)) (other : p ≠ q)
    (reaches : q.reach cs = some m) : m < n := by
  rw [farthest] at h
  split at h
  · next unreached =>
    rw [unreached] at reaches
    cases reaches
  · cases h
    exact absurd rfl other
  · next reached _ =>
    split at h
    · cases h
      exact absurd rfl other
    · next nearer =>
      cases h
      rw [reached] at reaches
      cases reaches
      exact not_le.1 nearer

end Farthest

/-! ### The next lexeme -/

/-- A text begins with a lexeme of a pattern, the longest that any pattern has there. The keyword is
no name. -/
structure Next (cs : List Char) (p : Pattern) (w : List Char) : Prop where
  begins : w <+: cs
  listed : p ∈ all
  fits : w ∈ p.form
  maximal : ∀ q ∈ all, ∀ v, v <+: cs → v ∈ q.form → v.length ≤ w.length
  keyword : p = name → w ∉ print.form

theorem next_of_longest {cs : List Char} {p : Pattern} {n : Nat} (h : longest cs = some (p, n)) :
    Next cs p (cs.take n) := by
  obtain ⟨listed, reaches⟩ := reach_of_farthest h
  obtain ⟨w, begins, fits, rfl⟩ := (longest_reach p cs).found n reaches
  rw [← List.prefix_iff_eq_take.1 begins]
  refine ⟨begins, listed, fits, fun q q_listed v v_begins v_fits => ?_, fun is_name is_print => ?_⟩
  · obtain ⟨m, q_reaches, le⟩ := (longest_reach q cs).best v v_begins v_fits
    exact le.trans (le_of_farthest h q_listed q_reaches)
  · obtain ⟨m, print_reaches, le⟩ := (longest_reach print cs).best w begins is_print
    have other : p ≠ print := by
      rw [is_name]
      decide
    exact absurd (lt_of_farthest_cons h other print_reaches) (not_lt.2 le)

theorem longest_eq_none_iff {cs : List Char} :
    longest cs = none ↔ ∀ p ∈ all, ∀ w, w <+: cs → w ∉ p.form := by
  constructor
  · intro h p listed w begins fits
    obtain ⟨n, reaches, -⟩ := (longest_reach p cs).best w begins fits
    rw [reach_eq_none_of_farthest h listed] at reaches
    cases reaches
  · intro unmatched
    cases found : longest cs with
    | none => rfl
    | some best =>
      obtain ⟨p, n⟩ := best
      have next := next_of_longest found
      exact absurd next.fits (unmatched p next.listed _ next.begins)

variable {cs : List Char} {p q : Pattern} {w v : List Char}

theorem Next.unique (h : Next cs p w) (h' : Next cs q v) : p = q ∧ w = v := by
  have same_length : w.length = v.length :=
    le_antisymm (h'.maximal p h.listed w h.begins h.fits) (h.maximal q h'.listed v h'.begins h'.fits)
  have same : w = v := by
    rw [List.prefix_iff_eq_take.1 h.begins, List.prefix_iff_eq_take.1 h'.begins, same_length]
  subst same
  exact ⟨eq_of_mem_form h.listed h'.listed h.fits h'.fits h.keyword h'.keyword, rfl⟩

theorem Next.longest_eq (h : Next cs p w) : longest cs = some (p, w.length) := by
  cases found : longest cs with
  | none => exact absurd h.fits (longest_eq_none_iff.1 found p h.listed w h.begins)
  | some best =>
    obtain ⟨q, n⟩ := best
    obtain ⟨rfl, eq⟩ := h.unique (next_of_longest found)
    obtain ⟨v, begins, -, rfl⟩ := (longest_reach p cs).found n (reach_of_farthest found).2
    rw [eq, ← List.prefix_iff_eq_take.1 begins]

theorem Next.length_pos (h : Next cs p w) : 0 < w.length :=
  longest_pos h.longest_eq

end Pattern

/-! ### The cut -/

open Pattern

/-- Next lexemes cut off a text one after the other, up to a rest. -/
inductive Munched : List Char → List (Pattern × List Char) → List Char → Prop where
  | here (cs : List Char) : Munched cs [] cs
  | next {cs rest w : List Char} {p : Pattern} {lexemes : List (Pattern × List Char)}
      (first : Next (w ++ cs) p w) (others : Munched cs lexemes rest) :
      Munched (w ++ cs) ((p, w) :: lexemes) rest

namespace Munched

variable {cs rest : List Char} {lexemes others : List (Pattern × List Char)}

theorem append_rest (h : Munched cs lexemes rest) : (lexemes.map Prod.snd).flatten ++ rest = cs := by
  induction h with
  | here cs => rfl
  | next _ _ ih => rw [List.map_cons, List.flatten_cons, List.append_assoc, ih]

theorem eq_nil (h : Munched [] lexemes rest) : lexemes = [] := by
  generalize empty : ([] : List Char) = text at h
  cases h with
  | here => rfl
  | next first _ =>
    have positive := first.length_pos
    rw [(List.append_eq_nil_iff.1 empty.symm).1] at positive
    exact absurd positive (lt_irrefl 0)

theorem eq_cons {p : Pattern} {w : List Char} (first : Next (w ++ cs) p w)
    (h : Munched (w ++ cs) lexemes []) :
    ∃ others, lexemes = (p, w) :: others ∧ Munched cs others [] := by
  generalize whole : w ++ cs = text at h
  cases h with
  | here =>
    have positive := first.length_pos
    rw [(List.append_eq_nil_iff.1 whole).1] at positive
    exact absurd positive (lt_irrefl 0)
  | next first' others =>
    rw [whole] at first
    obtain ⟨rfl, rfl⟩ := first.unique first'
    rw [List.append_cancel_left whole]
    exact ⟨_, rfl, others⟩

/-- There is at most one cut of a whole text. -/
theorem unique (h : Munched cs lexemes []) (h' : Munched cs others []) : lexemes = others := by
  generalize empty : ([] : List Char) = rest at h
  induction h generalizing others with
  | here cs =>
    subst empty
    exact h'.eq_nil.symm
  | next first _ ih =>
    obtain ⟨others, rfl, tail⟩ := h'.eq_cons first
    rw [ih tail empty]

end Munched

end Phrasemill
