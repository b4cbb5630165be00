import Mathlib
import Phrasemill.Proofs.Token.Scan

/-!
# The lines of tokens and faults

A line is counted once, at the end of the lexeme that its break stands in, whatever kind of lexeme
that is. A token is therefore on the line its lexeme ends on and a fault on the line its lexeme starts
on (`Token.scan_lines`), and these are lines of the text. The first line is only where the count starts: a text that starts further
down has its tokens and its fault further down (`Token.scanFrom_add`).
-/

namespace Phrasemill

open Pattern

namespace SyntaxFault

/-- The same fault some lines further down. -/
def lowered (lines : Nat) : SyntaxFault → SyntaxFault
  | unexpected surprise line => unexpected surprise (line + lines)
  | endOfInput line => endOfInput (line + lines)
  | unterminatedText line => unterminatedText (line + lines)
  | printCount found line => printCount found (line + lines)
  | literalTooLarge line => literalTooLarge (line + lines)

end SyntaxFault

namespace Token

variable {cs rest : List Char} {lexemes : List (Pattern × List Char)}

/-! ### One token among the others -/

/-- A token divides the lexemes as it divides the tokens. -/
theorem Located.divide {line on : Nat} {t : Token} {earlier later : List LocatedToken}
    (h : Located line lexemes (earlier ++ (t, on) :: later)) :
    ∃ before p w after, lexemes = before ++ (p, w) :: after ∧
      Decoded before (earlier.map Prod.fst) ∧ Decodes p w t ∧
      on = lineAfter line (joined before ++ w) := by
  generalize whole : earlier ++ (t, on) :: later = located at h
  induction h generalizing earlier with
  | nil line => exact absurd whole (by simp)
  | @skipped line p w lexemes located skip _ ih =>
    obtain ⟨before, q, v, after, rfl, decoded, decodes, rfl⟩ := ih whole
    refine ⟨(p, w) :: before, q, v, after, rfl, (decoded_cons_of_skipped skip).2 decoded, decodes, ?_⟩
    rw [joined_cons, List.append_assoc, lineAfter_append line w]
  | @token line p w lexemes t' located decodes' _ ih =>
    cases earlier with
    | nil =>
      cases whole
      exact ⟨[], p, w, lexemes, rfl, decoded_nil, decodes', rfl⟩
    | cons first earlier =>
      obtain ⟨rfl, others_eq⟩ := List.cons.inj whole
      obtain ⟨before, q, v, after, rfl, decoded, decodes, rfl⟩ := ih others_eq
      refine ⟨(p, w) :: before, q, v, after, rfl, ?_, decodes, ?_⟩
      · exact (decoded_cons_of_not_skipped decodes'.not_skipped).2 ⟨_, _, decodes', decoded, rfl⟩
      · rw [joined_cons, List.append_assoc, lineAfter_append line w]

/-- A token is on the line that its lexeme ends on, which is one more than the line breaks up to
there. A fault is on the line that its lexeme starts on; if that begins with a quote, it is an
unterminated text. -/
theorem scan_lines (source : String) :
    match scan source with
    | .ok located => ∃ lexemes, Munched source.toList lexemes [] ∧
        Decoded lexemes (located.map Prod.fst) ∧
        ∀ earlier t line later, located = earlier ++ (t, line) :: later →
          ∃ before p w after, lexemes = before ++ (p, w) :: after ∧
            Decoded before (earlier.map Prod.fst) ∧ Decodes p w t ∧
            line = 1 + (joined before ++ w).count '\n'
    | .error fault => ∃ lexemes rest, Munched source.toList lexemes rest ∧ Blocked rest ∧
        fault.line = 1 + (joined lexemes).count '\n' ∧
        ((∃ line, fault = .unterminatedText line) ↔ rest.head? = some '"') := by
  obtain ⟨lexemes, tokens, rest, cut, decoded, ends⟩ := exists_cut source.toList
  obtain ⟨located, along, rfl⟩ := exists_located decoded 1
  rcases ends with rfl | blocked
  · rw [scan, scanFrom_of_located_end cut along]
    refine ⟨lexemes, cut, decoded, ?_⟩
    rintro earlier t line later rfl
    exact along.divide
  · obtain ⟨fault, stops, on, unterminated⟩ :=
      exists_fault_of_blocked blocked (lineAfter 1 (joined lexemes))
    rw [scan, scanFrom_of_located cut along, stops]
    refine ⟨lexemes, rest, cut, blocked, on, ?_⟩
    rw [← unterminated]
    constructor
    · rintro ⟨line, eq⟩
      rw [eq] at on ⊢
      rw [← on]
      rfl
    · exact fun eq => ⟨_, eq⟩

/-! ### The lines there are -/

/-- The text has that line. Lines are counted from one. -/
def HasLine (source : String) (line : Nat) : Prop :=
  1 ≤ line ∧ line ≤ 1 + source.toList.count '\n'

theorem hasLine_of_append {source : String} {front back : List Char}
    (split : front ++ back = source.toList) : HasLine source (1 + front.count '\n') := by
  rw [HasLine, ← split, List.count_append]
  omega

/-- A text is scanned to its end, or up to where it is blocked, and then its fault is on the line that
the lexemes before lead to. -/
theorem scan_cases (source : String) :
    (∃ lexemes located, Munched source.toList lexemes [] ∧ Located 1 lexemes located ∧
      scan source = .ok located) ∨
    ∃ lexemes rest fault, Munched source.toList lexemes rest ∧ Blocked rest ∧
      fault.line = 1 + (joined lexemes).count '\n' ∧ scan source = .error fault := by
  obtain ⟨lexemes, _, rest, cut, decoded, ends⟩ := exists_cut source.toList
  obtain ⟨located, along, rfl⟩ := exists_located decoded 1
  rcases ends with rfl | blocked
  · exact .inl ⟨lexemes, located, cut, along, scanFrom_of_located_end cut along⟩
  · obtain ⟨fault, stops, on, -⟩ := exists_fault_of_blocked blocked (lineAfter 1 (joined lexemes))
    refine .inr ⟨lexemes, rest, fault, cut, blocked, on, ?_⟩
    rw [scan, scanFrom_of_located cut along, stops]
    rfl

theorem hasLine_of_mem {source : String} {tokens : List LocatedToken}
    (scanned : scan source = .ok tokens) {token : LocatedToken} (mem : token ∈ tokens) :
    HasLine source token.2 := by
  obtain ⟨lexemes, located, cut, along, run⟩ | ⟨_, _, fault, -, -, -, run⟩ := scan_cases source
  · rw [scanned] at run
    obtain rfl := Except.ok.inj run
    obtain ⟨earlier, later, rfl⟩ := List.append_of_mem mem
    obtain ⟨before, p, w, after, rfl, -, -, line_eq⟩ := along.divide
    have whole := cut.append_rest
    rw [line_eq]
    apply hasLine_of_append
    show (joined before ++ w) ++ joined after = source.toList
    simpa [joined] using whole
  · rw [scanned] at run
    cases run

/-! ### A text further down -/

/-- What is read of a text that stands some lines further down. -/
def lowered (lines : Nat) :
    Except SyntaxFault (List LocatedToken) → Except SyntaxFault (List LocatedToken)
  | .ok located => .ok (located.map (Prod.map id (· + lines)))
  | .error fault => .error (fault.lowered lines)

theorem lineAfter_add (line lines : Nat) (w : List Char) :
    lineAfter (line + lines) w = lineAfter line w + lines := by
  rw [lineAfter, lineAfter, Nat.add_right_comm]

theorem Located.lower {line : Nat} {located : List LocatedToken} (h : Located line lexemes located)
    (lines : Nat) :
    Located (line + lines) lexemes (located.map (Prod.map id (· + lines))) := by
  induction h with
  | nil line => exact .nil _
  | skipped skip _ ih =>
    rw [← lineAfter_add] at ih
    exact .skipped skip ih
  | token decodes _ ih =>
    rw [← lineAfter_add] at ih
    rw [List.map_cons, Prod.map_apply, ← lineAfter_add]
    exact .token decodes ih

theorem scanFrom_add_of_blocked (blocked : Blocked cs) (line lines : Nat) :
    scanFrom (line + lines) cs = lowered lines (scanFrom line cs) := by
  cases blocked with
  | unmatched more no_lexeme =>
    rw [scanFrom_of_unmatched more no_lexeme, scanFrom_of_unmatched more no_lexeme]
    unfold strayFault
    split <;> rfl
  | outside first outside =>
    obtain ⟨others, rfl⟩ := first.begins
    rw [scanFrom_of_outside first outside, scanFrom_of_outside first outside]
    rfl

/-- Whatever line a text starts on, it has the same tokens or the same fault. -/
theorem scanFrom_add (line lines : Nat) (cs : List Char) :
    scanFrom (line + lines) cs = lowered lines (scanFrom line cs) := by
  obtain ⟨lexemes, tokens, rest, cut, decoded, ends⟩ := exists_cut cs
  obtain ⟨located, along, rfl⟩ := exists_located decoded line
  rcases ends with rfl | blocked
  · rw [scanFrom_of_located_end cut along, scanFrom_of_located_end cut (along.lower lines)]
    rfl
  · have stops := scanFrom_add_of_blocked blocked (lineAfter line (joined lexemes)) lines
    rw [scanFrom_of_located cut along, scanFrom_of_located cut (along.lower lines), lineAfter_add,
      stops]
    cases scanFrom (lineAfter line (joined lexemes)) rest with
    | error fault => rfl
    | ok located' => exact congrArg Except.ok (List.map_append ..).symm

end Token

end Phrasemill
