import Mathlib
import Phrasemill.Proofs.Token.Boundary
import Phrasemill.Proofs.Token.Decoding

/-!
# Maximal munch

What the scanner does to a text is described by the cut of the text into its next lexemes and by what
each of them stands for. It succeeds where the cut comes to the end and every lexeme that is not
skipped has a token; it faults where the cut is blocked, by characters that no pattern matches or by
an integer that is too large (`Token.scan_munches`).

`Token.scanFrom_of_next` is the step: along the next lexeme the scanner does what the meaning of that
lexeme says. `Token.scanFrom_of_located` is the run: along a cut it collects the tokens of the lexemes,
each with the line it ends on, and goes on with the rest. Every text has such a cut, to its end or to
where it is blocked (`Token.exists_cut`).
-/

namespace Phrasemill

open Pattern

/-- The tokens of lexemes, one for each that is not skipped. -/
def Decoded (lexemes : List (Pattern × List Char)) (tokens : List Token) : Prop :=
  List.Forall₂ (fun lexeme token => Decodes lexeme.1 lexeme.2 token)
    (lexemes.filter (!·.1.skipped)) tokens

/-- Texts that are not at their end and cannot be scanned on. -/
inductive Blocked : List Char → Prop where
  /-- No pattern has a lexeme there. -/
  | unmatched {cs : List Char} (more : cs ≠ [])
      (no_lexeme : ∀ p ∈ all, ∀ w, w <+: cs → w ∉ p.form) : Blocked cs
  /-- The next lexeme is an integer that does not fit in 64 bits. -/
  | outside {cs w : List Char} (first : Next cs integer w) (outside : Outside w) : Blocked cs

section Decoded

variable {p : Pattern} {w : List Char} {lexemes : List (Pattern × List Char)} {tokens : List Token}

theorem decoded_nil : Decoded [] [] := .nil

theorem decoded_cons_of_skipped (skip : p.skipped = true) :
    Decoded ((p, w) :: lexemes) tokens ↔ Decoded lexemes tokens := by
  rw [Decoded, List.filter_cons_of_neg (by simp [skip]), Decoded]

theorem decoded_cons_of_not_skipped (keep : p.skipped = false) :
    Decoded ((p, w) :: lexemes) tokens ↔
      ∃ t others, Decodes p w t ∧ Decoded lexemes others ∧ tokens = t :: others := by
  rw [Decoded, List.filter_cons_of_pos (by simp [keep]), List.forall₂_cons_left_iff]
  rfl

end Decoded

namespace Token

/-! ### One step -/

variable {cs rest w : List Char} {p : Pattern} {lexemes : List (Pattern × List Char)}

theorem scanFrom_of_next (first : Next (w ++ cs) p w) (line : Nat) :
    scanFrom line (w ++ cs) =
      match p.meaning w with
      | .nothing => scanFrom (lineAfter line w) cs
      | .token t => do
        let tokens ← scanFrom (lineAfter line w) cs
        return (t, lineAfter line w) :: tokens
      | .tooLarge => .error (.literalTooLarge line) := by
  cases w with
  | nil => exact absurd first.length_pos (lt_irrefl 0)
  | cons c w =>
    have longest_eq := first.longest_eq
    rw [List.cons_append] at longest_eq ⊢
    rw [scanFrom, longest_eq]
    cases meant : p.meaning (c :: w) <;>
      simp only [List.length_cons, List.take_left, List.drop_left, meant]

theorem scanFrom_of_skipped (first : Next (w ++ cs) p w) (skip : p.skipped = true) (line : Nat) :
    scanFrom line (w ++ cs) = scanFrom (lineAfter line w) cs := by
  rw [scanFrom_of_next first, meaning_eq_nothing_iff.2 skip]

theorem scanFrom_of_decodes {t : Token} (first : Next (w ++ cs) p w) (decodes : Decodes p w t)
    (line : Nat) :
    scanFrom line (w ++ cs) = do
      let tokens ← scanFrom (lineAfter line w) cs
      return (t, lineAfter line w) :: tokens := by
  rw [scanFrom_of_next first, (decodes_iff first.fits).1 decodes]

theorem scanFrom_of_outside (first : Next (w ++ cs) .integer w) (outside : Outside w) (line : Nat) :
    scanFrom line (w ++ cs) = .error (.literalTooLarge line) := by
  rw [scanFrom_of_next first, meaning_eq_tooLarge_iff.2 ⟨rfl, outside⟩]

theorem scanFrom_of_unmatched (more : cs ≠ [])
    (no_lexeme : ∀ p ∈ all, ∀ w, w <+: cs → w ∉ p.form) (line : Nat) :
    scanFrom line cs = .error (strayFault line cs) := by
  cases cs with
  | nil => exact absurd rfl more
  | cons c cs => rw [scanFrom, longest_eq_none_iff.2 no_lexeme]

/-- Where the pattern that a text starts like finds nothing, there is no lexeme. -/
theorem scanFrom_of_unreached (more : cs ≠ []) (belongs : family cs = p) (no_name : p ≠ .name)
    (unreached : p.reach cs = none) (line : Nat) : scanFrom line cs = .error (strayFault line cs) :=
  scanFrom_of_unmatched more (fun _ listed _ begins =>
    not_mem_form_of_family belongs no_name unreached listed begins) line

theorem scanFrom_blanks (blanks : ∀ d ∈ w, isBlank d = true) (stops : ∀ d ∈ cs.head?, isBlank d = false)
    (line : Nat) : scanFrom line (w ++ cs) = scanFrom line cs := by
  by_cases more : w = []
  · rw [more, List.nil_append]
  · have no_break : w.count '\n' = 0 := List.count_eq_zero.2 fun mem => by cases blanks '\n' mem
    rw [scanFrom_of_skipped (next_blanks blanks more stops) rfl, lineAfter, no_break, Nat.add_zero]

theorem scanFrom_blank (line : Nat) (cs : List Char) :
    scanFrom line (' ' :: cs) = scanFrom line cs := by
  have blanks : ∀ d ∈ cs.takeWhile isBlank, isBlank d = true := fun d mem => List.mem_takeWhile_imp mem
  have stops : ∀ d ∈ (cs.dropWhile isBlank).head?, isBlank d = false := by
    intro d head
    have fails := List.head?_dropWhile_not isBlank cs
    rwa [head] at fails
  rw [← List.takeWhile_append_dropWhile (p := isBlank) (l := cs), scanFrom_blanks blanks stops,
    ← List.cons_append, scanFrom_blanks (List.forall_mem_cons.2 ⟨rfl, blanks⟩) stops]

/-- Nothing is left, no lexeme begins, or one is next. -/
theorem end_or_unmatched_or_next (cs : List Char) :
    cs = [] ∨ (cs ≠ [] ∧ ∀ p ∈ all, ∀ w, w <+: cs → w ∉ p.form) ∨
      ∃ p w others, cs = w ++ others ∧ Next (w ++ others) p w := by
  by_cases more : cs = []
  · exact .inl more
  · right
    cases found : longest cs with
    | none => exact .inl ⟨more, longest_eq_none_iff.1 found⟩
    | some best =>
      obtain ⟨p, n⟩ := best
      refine .inr ⟨p, cs.take n, cs.drop n, (List.take_append_drop n cs).symm, ?_⟩
      rw [List.take_append_drop]
      exact next_of_longest found

/-! ### Along a cut -/

/-- The text that lexemes make up. -/
def joined (lexemes : List (Pattern × List Char)) : List Char := (lexemes.map Prod.snd).flatten

theorem joined_cons : joined ((p, w) :: lexemes) = w ++ joined lexemes := rfl

theorem lineAfter_append (line : Nat) (w v : List Char) :
    lineAfter line (w ++ v) = lineAfter (lineAfter line w) v := by
  rw [lineAfter, lineAfter, lineAfter, List.count_append, Nat.add_assoc]

/-- The tokens of lexemes that start on a line, each with the line that its own lexeme ends on. -/
inductive Located : Nat → List (Pattern × List Char) → List LocatedToken → Prop where
  | nil (line : Nat) : Located line [] []
  | skipped {line : Nat} {p : Pattern} {w : List Char} {lexemes : List (Pattern × List Char)}
      {located : List LocatedToken} (skip : p.skipped = true)
      (others : Located (lineAfter line w) lexemes located) :
      Located line ((p, w) :: lexemes) located
  | token {line : Nat} {p : Pattern} {w : List Char} {lexemes : List (Pattern × List Char)} {t : Token}
      {located : List LocatedToken} (decodes : Decodes p w t)
      (others : Located (lineAfter line w) lexemes located) :
      Located line ((p, w) :: lexemes) ((t, lineAfter line w) :: located)

theorem exists_located {tokens : List Token} (decoded : Decoded lexemes tokens) (line : Nat) :
    ∃ located, Located line lexemes located ∧ located.map Prod.fst = tokens := by
  induction lexemes generalizing tokens line with
  | nil =>
    cases decoded
    exact ⟨[], .nil line, rfl⟩
  | cons lexeme lexemes ih =>
    obtain ⟨p, w⟩ := lexeme
    cases skip : p.skipped with
    | true =>
      obtain ⟨located, h, eq⟩ := ih ((decoded_cons_of_skipped skip).1 decoded) (lineAfter line w)
      exact ⟨located, .skipped skip h, eq⟩
    | false =>
      obtain ⟨t, others, decodes, tail, rfl⟩ := (decoded_cons_of_not_skipped skip).1 decoded
      obtain ⟨located, h, rfl⟩ := ih tail (lineAfter line w)
      exact ⟨_, .token decodes h, rfl⟩

/-- The scanner comes to the end of a cut with the tokens of its lexemes. -/
theorem scanFrom_of_located (cut : Munched cs lexemes rest) {line : Nat}
    {located : List LocatedToken} (h : Located line lexemes located) :
    scanFrom line cs = (located ++ ·) <$> scanFrom (lineAfter line (joined lexemes)) rest := by
  induction h generalizing cs with
  | nil line =>
    cases cut
    exact (id_map _).symm
  | skipped skip _ ih =>
    cases cut with
    | next first others =>
      rw [scanFrom_of_skipped first skip, ih others, joined_cons, lineAfter_append]
  | token decodes _ ih =>
    cases cut with
    | next first others =>
      rw [scanFrom_of_decodes first decodes, ih others, joined_cons, lineAfter_append]
      cases scanFrom (lineAfter _ _) rest <;> rfl

theorem scanFrom_of_located_end (cut : Munched cs lexemes []) {line : Nat}
    {located : List LocatedToken} (h : Located line lexemes located) :
    scanFrom line cs = .ok located := by
  rw [scanFrom_of_located cut h, scanFrom]
  exact congrArg Except.ok (List.append_nil located)

/-! ### The whole text -/

/-- Every text is cut into lexemes that yield tokens or nothing, to its end or to where it is
blocked. -/
theorem exists_cut (cs : List Char) :
    ∃ lexemes tokens rest, Munched cs lexemes rest ∧ Decoded lexemes tokens ∧
      (rest = [] ∨ Blocked rest) := by
  induction size : cs.length using Nat.strong_induction_on generalizing cs with
  | _ _ ih =>
    subst size
    obtain rfl | ⟨more, no_lexeme⟩ | ⟨p, w, others, rfl, first⟩ := end_or_unmatched_or_next cs
    · exact ⟨[], [], [], .here [], decoded_nil, .inl rfl⟩
    · exact ⟨[], [], cs, .here cs, decoded_nil, .inr (.unmatched more no_lexeme)⟩
    · have shorter : others.length < (w ++ others).length := by
        rw [List.length_append]
        exact Nat.lt_add_of_pos_left first.length_pos
      obtain ⟨lexemes, tokens, rest, cut, decoded, ends⟩ := ih _ shorter others rfl
      obtain skip | ⟨t, decodes⟩ | ⟨rfl, outside⟩ := skipped_or_decodes_or_outside first.fits
      · exact ⟨_, tokens, rest, .next first cut, (decoded_cons_of_skipped skip).2 decoded, ends⟩
      · have decoded := (decoded_cons_of_not_skipped decodes.not_skipped).2 ⟨t, _, decodes, decoded, rfl⟩
        exact ⟨_, t :: tokens, rest, .next first cut, decoded, ends⟩
      · exact ⟨[], [], _, .here _, decoded_nil, .inr (.outside first outside)⟩

/-- A blocked text has a fault on its own line, and that is an unterminated text if it starts with a
quote. -/
theorem exists_fault_of_blocked (blocked : Blocked cs) (line : Nat) :
    ∃ fault, scanFrom line cs = .error fault ∧ fault.line = line ∧
      (fault = .unterminatedText line ↔ cs.head? = some '"') := by
  cases blocked with
  | unmatched more no_lexeme =>
    refine ⟨_, scanFrom_of_unmatched more no_lexeme line, ?_⟩
    unfold strayFault
    split
    · exact ⟨rfl, iff_of_true rfl rfl⟩
    · next no_quote =>
      refine ⟨rfl, iff_of_false nofun fun head => ?_⟩
      obtain ⟨tail, eq⟩ := List.head?_eq_some_iff.1 head
      exact no_quote tail eq
  | @outside w first outside =>
    obtain ⟨others, rfl⟩ := first.begins
    refine ⟨_, scanFrom_of_outside first outside line, rfl, iff_of_false nofun fun head => ?_⟩
    have family_eq := family_of_mem first.listed first.fits
    cases w with
    | nil => exact absurd first.length_pos (lt_irrefl 0)
    | cons c w =>
      cases head
      cases family_eq

/-- Behind a result there is a cut, to the end of the text or to where it is blocked. -/
theorem scanFrom_cases (line : Nat) (cs : List Char) :
    (∃ lexemes located, Munched cs lexemes [] ∧ Decoded lexemes (located.map Prod.fst) ∧
      scanFrom line cs = .ok located) ∨
    ∃ lexemes rest fault, Munched cs lexemes rest ∧ Blocked rest ∧
      scanFrom line cs = .error fault := by
  obtain ⟨lexemes, tokens, rest, cut, decoded, ends⟩ := exists_cut cs
  obtain ⟨located, h, rfl⟩ := exists_located decoded line
  rcases ends with rfl | blocked
  · exact .inl ⟨lexemes, located, cut, decoded, scanFrom_of_located_end cut h⟩
  · obtain ⟨fault, stops, -⟩ := exists_fault_of_blocked blocked (lineAfter line (joined lexemes))
    have run := scanFrom_of_located cut h
    rw [stops] at run
    exact .inr ⟨lexemes, rest, fault, cut, blocked, run⟩

theorem scanFrom_of_blocked (h : Munched cs lexemes rest) (blocked : Blocked rest) (line : Nat) :
    ∃ fault, scanFrom line cs = .error fault := by
  induction h generalizing line with
  | here cs =>
    obtain ⟨fault, stops, -⟩ := exists_fault_of_blocked blocked line
    exact ⟨fault, stops⟩
  | @next cs _ w _ _ first _ ih =>
    obtain ⟨fault, run⟩ := ih blocked (lineAfter line w)
    obtain skip | ⟨t, decodes⟩ | ⟨rfl, outside⟩ := skipped_or_decodes_or_outside first.fits
    · exact ⟨fault, by rw [scanFrom_of_skipped first skip, run]⟩
    · exact ⟨fault, by rw [scanFrom_of_decodes first decodes, run]; rfl⟩
    · exact ⟨_, scanFrom_of_outside first outside line⟩

theorem scanFrom_of_munched {tokens : List Token} (h : Munched cs lexemes [])
    (decoded : Decoded lexemes tokens) (line : Nat) :
    ∃ located, scanFrom line cs = .ok located ∧ located.map Prod.fst = tokens := by
  obtain ⟨located, along, eq⟩ := exists_located decoded line
  exact ⟨located, scanFrom_of_located_end h along, eq⟩

/-- The scanner cuts a text into its next lexemes, up to the end, and yields the tokens of those that
are not skipped. It faults exactly where such a cut is blocked. -/
theorem scan_munches (source : String) :
    (∀ tokens, (∃ located, scan source = .ok located ∧ located.map Prod.fst = tokens) ↔
      ∃ lexemes, Munched source.toList lexemes [] ∧
        (lexemes.map Prod.snd).flatten = source.toList ∧ Decoded lexemes tokens) ∧
    ((∃ fault, scan source = .error fault) ↔
      ∃ lexemes rest, Munched source.toList lexemes rest ∧ Blocked rest) := by
  constructor
  · intro tokens
    constructor
    · rintro ⟨located, run, rfl⟩
      obtain ⟨lexemes, found, cut, decoded, found_run⟩ | ⟨_, _, _, -, -, fault_run⟩ :=
        scanFrom_cases 1 source.toList
      · cases run.symm.trans found_run
        have whole := cut.append_rest
        rw [List.append_nil] at whole
        exact ⟨lexemes, cut, whole, decoded⟩
      · cases run.symm.trans fault_run
    · rintro ⟨lexemes, cut, -, decoded⟩
      exact scanFrom_of_munched cut decoded 1
  · constructor
    · rintro ⟨fault, run⟩
      obtain ⟨_, _, -, -, ok_run⟩ | ⟨lexemes, rest, _, cut, blocked, -⟩ :=
        scanFrom_cases 1 source.toList
      · cases run.symm.trans ok_run
      · exact ⟨lexemes, rest, cut, blocked⟩
    · rintro ⟨lexemes, rest, cut, blocked⟩
      exact scanFrom_of_blocked cut blocked 1

end Token

end Phrasemill
