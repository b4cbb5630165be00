import Mathlib
import Phrasemill.Proofs.Token.Lines

/-!
# Block comments

A block comment should be worth as much as the blank in its place. The scan of a comment pairs a star
with the character behind it, so in front of the star and slash that end the comment it is the number
of stars that decides: an even one is used up in pairs, an odd one takes the star of the end along and
the comment stays open (`Pattern.blockReach_of_closesFirst`). A comment is therefore transparent if and
only if its text ends in an even number of stars (`Token.transparent_iff`); `Token.not_transparent` is
the shortest one that is not.
-/

namespace Phrasemill

open Pattern

namespace Pattern

variable {c cs rest : List Char} {d : Char}

/-! ### The end of a comment -/

/-- Of the stars in front of a slash in a comment's text and its end, the first is that of the end. -/
def ClosesFirst (c : List Char) : Prop :=
  ∀ before after, c ++ ['*', '/'] = before ++ '*' :: '/' :: after → after = []

/-- How many stars a comment's text ends in. -/
def closingStars (c : List Char) : Nat := (c.rtakeWhile (· == '*')).length

theorem ClosesFirst.of_cons (h : ClosesFirst (d :: c)) : ClosesFirst c := by
  intro before after eq
  refine h (d :: before) after ?_
  rw [List.cons_append, List.cons_append, eq]

theorem closesFirst_iff : ClosesFirst c ↔ ¬ ['*', '/'] <:+: c := by
  constructor
  · rintro closes ⟨before, after, rfl⟩
    have nothing := closes before (after ++ ['*', '/']) (by simp)
    cases List.append_eq_nil_iff.1 nothing |>.2
  · intro no_other before after eq
    rcases List.append_eq_append_iff.1 eq with ⟨more, -, ends⟩ | ⟨more, rfl, ends⟩
    · have length := congrArg List.length ends
      simp only [List.length_append, List.length_cons, List.length_nil] at length
      exact List.eq_nil_of_length_eq_zero (by omega)
    · rcases more with _ | ⟨d, _ | ⟨e, more⟩⟩
      · cases ends
        rfl
      · cases ends
      · cases ends
        exact absurd ⟨before, more, by simp⟩ no_other

instance : Decidable (ClosesFirst c) := decidable_of_iff _ closesFirst_iff.symm

theorem closingStars_le (c : List Char) : closingStars c ≤ c.length :=
  (List.rtakeWhile_suffix (· == '*') c).length_le

theorem closingStars_cons (d : Char) (c : List Char) :
    closingStars (d :: c) =
      if closingStars c = c.length ∧ d = '*' then c.length + 1 else closingStars c := by
  simp only [closingStars, List.rtakeWhile, List.reverse_cons, List.length_reverse,
    List.takeWhile_append]
  by_cases full : (c.reverse.takeWhile (· == '*')).length = c.length <;> by_cases star : d = '*' <;>
    simp [full, star]

theorem closingStars_cons_of_ne (not_star : d ≠ '*') (c : List Char) :
    closingStars (d :: c) = closingStars c := by
  rw [closingStars_cons, if_neg fun both => not_star both.2]

/-- A star and the character behind it do not change whether the number is even: they add two stars
or none. -/
theorem even_closingStars_pair (d : Char) (c : List Char) :
    Even (closingStars ('*' :: d :: c)) ↔ Even (closingStars c) := by
  have not_succ : closingStars c ≠ c.length + 1 := ((closingStars_le c).trans_lt c.length.lt_succ_self).ne
  rw [closingStars_cons '*', closingStars_cons d, List.length_cons]
  by_cases full : closingStars c = c.length <;> by_cases star : d = '*' <;>
    simp [full, star, not_succ, Nat.even_add_one]

/-- With an odd number of stars in front of it, the end of a comment is passed over. -/
theorem blockReach_of_closesFirst (closes : ClosesFirst c) (rest : List Char) :
    blockReach (c ++ '*' :: '/' :: rest) =
      if Even (closingStars c) then some (c.length + 2)
      else (blockReach rest).map (· + (c.length + 2)) := by
  -- Each case takes what the scan takes at once, so the stars go in pairs from the front.
  induction c using blockReach.induct with
  | case1 => rfl
  | case2 =>
    rw [List.singleton_append, blockReach, if_neg (by decide), blockReach_plain (by decide),
      if_neg (by decide), Option.map_map]
    rfl
  | case3 cs => cases List.append_eq_nil_iff.1 (closes [] (cs ++ ['*', '/']) rfl) |>.2
  | case4 d cs not_slash ih =>
    rw [List.cons_append, List.cons_append, blockReach, if_neg not_slash, ih closes.of_cons.of_cons]
    simp only [even_closingStars_pair]
    split
    · rfl
    · rw [Option.map_map]
      rfl
  | case5 d cs not_last not_pair ih =>
    have not_star := ne_of_no_pair not_last not_pair
    rw [List.cons_append, blockReach_plain not_star, ih closes.of_cons,
      closingStars_cons_of_ne not_star]
    split
    · rfl
    · rw [Option.map_map]
      rfl

/-! ### The lexeme -/

/-- A comment as it is written around a text. -/
def commented (c : List Char) : List Char := '/' :: '*' :: (c ++ ['*', '/'])

theorem next_commented (closes : ClosesFirst c) (even : Even (closingStars c)) (rest : List Char) :
    Next (commented c ++ rest) blockComment (commented c) := by
  have reaches : blockComment.reach (commented c) = some (commented c).length := by
    rw [commented, reach, blockReach_of_closesFirst closes, if_pos even]
    simp
  exact next_of_not_name (by decide) (mem_form_of_reach reaches) (by decide) fun _ _ => rfl

theorem reach_commented_of_odd (closes : ClosesFirst c) (odd : ¬ Even (closingStars c)) :
    blockComment.reach (commented c) = none := by
  rw [commented, reach, blockReach_of_closesFirst closes, if_neg odd]
  rfl

end Pattern

namespace Token

variable {c cs : List Char} {first : List LocatedToken} {start : String}

/-! ### What is behind a comment -/

theorem scanFrom_commented (closes : ClosesFirst c) (even : Even (closingStars c)) (line : Nat)
    (cs : List Char) :
    scanFrom line (commented c ++ cs) = lowered (c.count '\n') (scanFrom line cs) := by
  have count : (commented c).count '\n' = c.count '\n' := by
    simp [commented]
  rw [scanFrom_of_skipped (next_commented closes even cs) rfl, lineAfter, count, scanFrom_add]

/-- A comment that stays open is a fault, since nothing else starts with a slash and a star. -/
theorem scanFrom_commented_of_odd (closes : ClosesFirst c) (odd : ¬ Even (closingStars c))
    (line : Nat) : scanFrom line (commented c) = .error (strayFault line (commented c)) := by
  have belongs : family (commented c) = blockComment := rfl
  have unreached := reach_commented_of_odd closes odd
  exact scanFrom_of_unreached (List.cons_ne_nil _ _) belongs (by decide) unreached line

/-- Behind a line break everything is read as if a text began there. -/
theorem scan_append_of_break (reads : scan (start ++ "\n") = .ok first) (others : String) :
    scan (start ++ "\n" ++ others) =
      (first ++ ·) <$> scanFrom (lineAfter 1 (start ++ "\n").toList) others.toList := by
  obtain ⟨lexemes, tokens, rest, cut, decoded, ends⟩ := exists_cut (start ++ "\n").toList
  obtain ⟨located, along, rfl⟩ := exists_located decoded 1
  rcases ends with rfl | blocked
  · obtain rfl := Except.ok.inj ((scanFrom_of_located_end cut along).symm.trans reads)
    have whole := cut.append_rest
    rw [List.append_nil] at whole
    have breaks : '\n' ∈ (start ++ "\n").toList.getLast? := by
      rw [String.toList_append]
      exact List.getLast?_concat
    rw [scan, String.toList_append, scanFrom_of_located (cut.append_of_break breaks _) along, joined,
      whole]
  · obtain ⟨fault, stops, -⟩ := exists_fault_of_blocked blocked (lineAfter 1 (joined lexemes))
    rw [scan, scanFrom_of_located cut along, stops] at reads
    cases reads

/-- A comment is worth as much as a blank, whatever is behind it, if and only if its text ends in an
even number of stars. What is read behind it is further down by the line breaks in it. -/
theorem transparent_iff {comment : String} (reads : scan (start ++ "\n") = .ok first)
    (closes : ClosesFirst comment.toList) :
    (∀ others : String, ∃ behind,
      scan (start ++ "\n" ++ " " ++ others) = (first ++ ·) <$> behind ∧
      scan (start ++ "\n" ++ "/*" ++ comment ++ "*/" ++ others) =
        (first ++ ·) <$> lowered (comment.toList.count '\n') behind) ↔
    Even (closingStars comment.toList) := by
  have with_blank (others : String) : scan (start ++ "\n" ++ " " ++ others) =
      (first ++ ·) <$> scanFrom (lineAfter 1 (start ++ "\n").toList) others.toList := by
    have spelled : (" " ++ others).toList = ' ' :: others.toList := by simp
    rw [String.append_assoc, scan_append_of_break reads, spelled, scanFrom_blank]
  have with_comment (others : String) :
      scan (start ++ "\n" ++ "/*" ++ comment ++ "*/" ++ others) = (first ++ ·) <$>
        scanFrom (lineAfter 1 (start ++ "\n").toList) (commented comment.toList ++ others.toList) := by
    have spelled : ("/*" ++ (comment ++ ("*/" ++ others))).toList =
        commented comment.toList ++ others.toList := by simp [commented]
    rw [String.append_assoc, String.append_assoc, String.append_assoc, scan_append_of_break reads,
      spelled]
  constructor
  · -- With nothing behind it, a comment that stays open is a fault and the blank is none.
    intro transparent
    by_contra odd
    obtain ⟨behind, blank_eq, comment_eq⟩ := transparent ""
    rw [with_blank, String.toList_empty, scanFrom] at blank_eq
    rw [with_comment, String.toList_empty, List.append_nil,
      scanFrom_commented_of_odd closes odd] at comment_eq
    cases behind with
    | error fault => cases blank_eq
    | ok located => cases comment_eq
  · intro even others
    refine ⟨_, with_blank others, ?_⟩
    rw [with_comment, scanFrom_commented closes even]

/-- A comment over two lines, with a slash in it and an even number of stars at its end. -/
theorem transparent_of_two_stars :
    scan ("x // y" ++ "\n") = .ok [(.name "x", 1)] ∧ ClosesFirst " a/b\n **".toList ∧
    ∀ others : String, ∃ behind,
      scan ("x // y" ++ "\n" ++ " " ++ others) = ([(.name "x", 1)] ++ ·) <$> behind ∧
      scan ("x // y" ++ "\n" ++ "/*" ++ " a/b\n **" ++ "*/" ++ others) =
        ([(.name "x", 1)] ++ ·) <$> lowered (" a/b\n **".toList.count '\n') behind := by
  have reads : scan ("x // y" ++ "\n") = .ok [(.name "x", 1)] := by cbv
  exact ⟨reads, by decide, (transparent_iff reads (by decide)).2 (by decide)⟩

/-- One star in front of the end, and the comment goes on. -/
theorem not_transparent :
    scan ("" ++ "\n") = .ok [] ∧ ClosesFirst "*".toList ∧
    ¬ ∃ behind, scan ("" ++ "\n" ++ " " ++ "x") = ([] ++ ·) <$> behind ∧
      scan ("" ++ "\n" ++ "/*" ++ "*" ++ "*/" ++ "x") =
        ([] ++ ·) <$> lowered ("*".toList.count '\n') behind := by
  refine ⟨by cbv, by decide, ?_⟩
  rintro ⟨behind, blank_eq, comment_eq⟩
  have blank : scan ("" ++ "\n" ++ " " ++ "x") = .ok [(.name "x", 2)] := by cbv
  have comment : scan ("" ++ "\n" ++ "/*" ++ "*" ++ "*/" ++ "x") =
      .error (.unexpected (.characters "/***/x") 2) := by cbv
  rw [blank] at blank_eq
  rw [comment] at comment_eq
  cases behind with
  | error fault => cases blank_eq
  | ok located => cases comment_eq

end Token

end Phrasemill
