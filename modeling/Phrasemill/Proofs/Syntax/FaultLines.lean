import Mathlib
import Phrasemill.Proofs.Token.Lines
import Phrasemill.Proofs.Syntax.Viability

/-!
# The lines of faults

A text that is no program is refused for the characters from which no token can be read, for a token
that cannot stand where it does, or because it ends too early. In the first two cases the fault is on
the line of what is to blame. In the third case it is on the line that the construct begins on which
is still waiting for a token, and in which nothing else is unfinished (`Waits`). But where an
expression should begin (`OpensOperand`) nobody says what has been waiting for it, and the fault has
no line (`Program.line_of_fault`).

`Ended` says what line there is for an end that comes too early. Each reader is followed with what
stands before its tokens, and ends too early in that way.
-/

namespace Phrasemill

open Parsed

/-! ### What is waiting at the end -/

/-- The tokens are an expression. -/
def Expr.Fills (tokens : List LocatedToken) : Prop :=
  ∃ e : Expr, e.Written ∧ List.Forall₂ Piece.FitsAt e.layout tokens

/-- The tokens are items with commas between them, at least one. -/
inductive Expr.Items : List LocatedToken → Prop
  | one {tokens : List LocatedToken} (item : Fills tokens) : Items tokens
  | more {tokens others : List LocatedToken} (item : Fills tokens) (line : Nat)
      (rest : Items others) : Items (tokens ++ (.comma, line) :: others)

/-- The tokens are statements, or there are none. -/
def Program.Fills (tokens : List LocatedToken) : Prop := ∃ p : Program, p.WrittenAs tokens

/-- An expression has to begin behind the tokens, or may begin there in a list or a call. (What
follows the parenthesis of a print statement is its count.) -/
inductive OpensOperand : List LocatedToken → Prop
  | behind (before : List LocatedToken) (token : Token)
      (opens : token ∈ [Token.openBracket, .comma, .equals]) (line : Nat) :
      OpensOperand (before ++ [(token, line)])
  | call (before : List LocatedToken) (name : String) (name_line line : Nat) :
      OpensOperand (before ++ [(.name name, name_line), (.openParen, line)])

/-- What stands behind `before` and begins with the token `opener` goes on with `inside`, where nothing
is unfinished, and then waits for a token of its own. -/
inductive Waits (before : List LocatedToken) : Token → List LocatedToken → Prop
  | rule (program : Program.Fills before) (name : String) : Waits before (.name name) []
  | print (program : Program.Fills before) : Waits before .print []
  | printParen (program : Program.Fills before) (line : Nat) : Waits before .print [(.openParen, line)]
  | printCount (program : Program.Fills before) (count : Int64) (line₁ line₂ : Nat) :
      Waits before .print [(.openParen, line₁), (.integer count, line₂)]
  | printed (program : Program.Fills before) (count : Int64) (line₁ line₂ line₃ : Nat)
      {inside : List LocatedToken} (item : Expr.Fills inside) :
      Waits before .print
        ((.openParen, line₁) :: (.integer count, line₂) :: (.comma, line₃) :: inside)
  | list (opens : OpensOperand before) {inside : List LocatedToken} (items : Expr.Items inside) :
      Waits before .openBracket inside
  | call (opens : OpensOperand before) (name : String) (line : Nat) {inside : List LocatedToken}
      (items : Expr.Items inside) : Waits before (.name name) ((.openParen, line) :: inside)
  | dot : Waits before .dot []
  | dotName (name : String) (line : Nat) : Waits before .dot [(.name name, line)]
  | method (name : String) (line₁ line₂ : Nat) {inside : List LocatedToken}
      (items : Expr.Items inside) :
      Waits before .dot ((.name name, line₁) :: (.openParen, line₂) :: inside)

/-- The line that is reported if the tokens end too early. -/
inductive Ended : List LocatedToken → Nat → Prop
  | waiting {before inside : List LocatedToken} {opener : Token} (waits : Waits before opener inside)
      (line : Nat) : Ended (before ++ (opener, line) :: inside) line
  | missing {tokens : List LocatedToken} (opens : OpensOperand tokens) : Ended tokens 0

/-! ### Readers that end too early

The induction is that of the readers. It carries along what stands before the tokens: an expression is
read where one has to begin, and items are read behind the construct that waits for them, with the
items that have been taken since. -/

namespace Expr

mutual

theorem ended_parse {context tokens : List LocatedToken} {line : Nat} (opens : OpensOperand context)
    (ended : reading (parse tokens) = .error (.endOfInput line)) : Ended (context ++ tokens) line := by
  rw [reading_parse] at ended
  obtain primary | ⟨⟨first, rest⟩, primary, methods⟩ := bind_eq_error_iff.1 ended
  · exact ended_parsePrimary opens primary
  · have shorter := length_lt_of_reading primary
    obtain ⟨⟨used, split, -⟩, -⟩ := spells_of_parsePrimary primary
    dsimp only at methods
    rw [split, ← List.append_assoc]
    exact ended_parseMethods _ methods
termination_by (tokens.length, 1)

theorem ended_parsePrimary {context tokens : List LocatedToken} {line : Nat}
    (opens : OpensOperand context)
    (ended : reading (parsePrimary tokens) = .error (.endOfInput line)) :
    Ended (context ++ tokens) line := by
  rw [reading_parsePrimary] at ended
  cases tokens with
  | nil =>
    cases ended
    rw [List.append_nil]
    exact .missing opens
  | cons first rest =>
    obtain ⟨token, at_line⟩ := first
    dsimp only at ended
    split at ended
    · next bracket =>
      subst bracket
      obtain items | ⟨_, _, done⟩ := bind_eq_error_iff.1 ended
      · exact ended_parseItems [] (.behind context .openBracket (by simp) at_line)
          (fun used filled => .list opens filled) items
      · cases done
    · split at ended
      · next name named =>
        cases Token.name?_eq_some_iff.1 named
        exact ended_parseNamed opens ended
      · cases ended
      · cases ended
termination_by (tokens.length, 0)

theorem ended_parseNamed {context tokens : List LocatedToken} {name : String} {at_line line : Nat}
    (opens : OpensOperand context)
    (ended : reading (parseNamed name at_line tokens) = .error (.endOfInput line)) :
    Ended (context ++ (.name name, at_line) :: tokens) line := by
  rw [reading_parseNamed] at ended
  cases tokens with
  | nil => cases ended
  | cons first rest =>
    obtain ⟨token, paren_line⟩ := first
    dsimp only at ended
    split at ended
    · next paren =>
      subst paren
      obtain items | ⟨_, _, done⟩ := bind_eq_error_iff.1 ended
      · exact ended_parseItems [(.openParen, paren_line)] (.call context name at_line paren_line)
          (fun used filled => .call opens name paren_line filled) items
      · cases done
    · cases ended
termination_by (tokens.length, 0)

theorem ended_parseMethods (context : List LocatedToken) {tokens : List LocatedToken}
    {receiver : Expr} {line : Nat}
    (ended : reading (parseMethods receiver tokens) = .error (.endOfInput line)) :
    Ended (context ++ tokens) line := by
  rw [reading_parseMethods] at ended
  cases tokens with
  | nil => cases ended
  | cons first rest =>
    obtain ⟨token, at_line⟩ := first
    dsimp only at ended
    split at ended
    · next dot =>
      subst dot
      obtain named | ⟨⟨name, rest₁⟩, named, behind_name⟩ := bind_eq_error_iff.1 ended
      · obtain rfl := (takesOne_expectName at_line).eq_nil named
        cases named
        exact .waiting .dot line
      have shorter₁ : rest₁.length < rest.length := length_lt_of_reading named
      obtain ⟨name_line, split₁⟩ := reading_expectName_ok_iff.1 named
      dsimp only at behind_name
      obtain paren | ⟨⟨⟨⟩, rest₂⟩, paren, behind_paren⟩ := bind_eq_error_iff.1 behind_name
      · obtain rfl := (takesOne_expectToken _ _ at_line).eq_nil paren
        cases paren
        rw [split₁]
        exact .waiting (.dotName name name_line) line
      have shorter₂ : rest₂.length < rest₁.length := length_lt_of_reading paren
      obtain ⟨paren_line, split₂⟩ := reading_expectToken_ok_iff.1 paren
      dsimp only at behind_paren
      rw [split₁, split₂]
      obtain items | ⟨⟨arguments, rest₃⟩, items, behind_items⟩ := bind_eq_error_iff.1 behind_paren
      · have shorter : rest₂.length < rest.length + 1 := by omega
        have opens_item := OpensOperand.call (context ++ [(.dot, at_line)]) name name_line paren_line
        rw [List.append_assoc] at opens_item
        exact ended_parseItems [(.name name, name_line), (.openParen, paren_line)] opens_item
          (fun used filled => .method name name_line paren_line filled) items
      · have shorter₃ : rest₃.length < rest₂.length := length_lt_of_reading items
        have shorter : rest₃.length < rest.length + 1 := by omega
        obtain ⟨⟨used, split₃, -⟩, -⟩ := spells_of_parseItems items
        have later := ended_parseMethods (context ++ (.dot, at_line) :: (.name name, name_line) ::
          (.openParen, paren_line) :: used) behind_items
        simpa [split₃] using later
    · cases ended
termination_by (tokens.length, 0)

/-- Behind the token `opener`, and what has been taken since, items are read. -/
theorem ended_parseItems {before : List LocatedToken} (taken : List LocatedToken)
    {tokens : List LocatedToken} {opener closing : Token} {at_line line : Nat}
    (opens : OpensOperand (before ++ (opener, at_line) :: taken))
    (waits : ∀ used, Items used → Waits before opener (taken ++ used))
    (ended : reading (parseItems closing at_line tokens) = .error (.endOfInput line)) :
    Ended (before ++ (opener, at_line) :: (taken ++ tokens)) line := by
  have more : reading (parseMoreItems closing at_line tokens) = .error (.endOfInput line) := by
    rw [reading_parseItems] at ended
    cases tokens with
    | nil => exact ended
    | cons first rest =>
      dsimp only at ended
      split at ended
      · cases ended
      · exact ended
  exact ended_parseMoreItems taken opens waits more
termination_by (tokens.length, 3)

theorem ended_parseMoreItems {before : List LocatedToken} (taken : List LocatedToken)
    {tokens : List LocatedToken} {opener closing : Token} {at_line line : Nat}
    (opens : OpensOperand (before ++ (opener, at_line) :: taken))
    (waits : ∀ used, Items used → Waits before opener (taken ++ used))
    (ended : reading (parseMoreItems closing at_line tokens) = .error (.endOfInput line)) :
    Ended (before ++ (opener, at_line) :: (taken ++ tokens)) line := by
  rw [reading_parseMoreItems] at ended
  obtain first | ⟨⟨item, rest⟩, first, behind_item⟩ := bind_eq_error_iff.1 ended
  · simpa using ended_parse opens first
  have shorter := length_lt_of_reading first
  obtain ⟨⟨used, split, fits⟩, written⟩ := spells_of_parse first
  have filled : Fills used := ⟨item, written, fits⟩
  cases rest with
  | nil =>
    cases behind_item
    rw [split, List.append_nil]
    exact .waiting (waits used (.one filled)) at_line
  | cons next rest =>
    obtain ⟨token, comma_line⟩ := next
    have shorter_rest := Nat.lt_of_succ_lt shorter
    dsimp only at behind_item
    split at behind_item
    · next comma =>
      subst comma
      obtain more | ⟨_, _, done⟩ := bind_eq_error_iff.1 behind_item
      · have opens_item : OpensOperand (before ++ (opener, at_line) ::
            (taken ++ used ++ [(.comma, comma_line)])) := by
          simpa using OpensOperand.behind (before ++ (opener, at_line) :: (taken ++ used))
            .comma (by simp) comma_line
        have waits_more (others : List LocatedToken) (items : Items others) :
            Waits before opener (taken ++ used ++ [(.comma, comma_line)] ++ others) := by
          simpa using waits _ (.more filled comma_line items)
        have later := ended_parseMoreItems _ opens_item waits_more more
        simpa [split] using later
      · cases done
    · split at behind_item <;> cases behind_item
termination_by (tokens.length, 2)

end

end Expr

namespace Statement

variable {before tokens : List LocatedToken} {at_line line : Nat}

theorem ended_parsePrint (program : Program.Fills before)
    (ended : reading (parsePrint at_line tokens) = .error (.endOfInput line)) :
    Ended (before ++ (.print, at_line) :: tokens) line := by
  rw [reading_parsePrint] at ended
  obtain paren | ⟨⟨⟨⟩, rest₁⟩, paren, behind_paren⟩ := bind_eq_error_iff.1 ended
  · obtain rfl := (takesOne_expectToken _ _ at_line).eq_nil paren
    cases paren
    exact .waiting (.print program) at_line
  obtain ⟨paren_line, rfl⟩ := reading_expectToken_ok_iff.1 paren
  dsimp only at behind_paren
  obtain counted | ⟨⟨count, rest₂⟩, counted, behind_count⟩ := bind_eq_error_iff.1 behind_paren
  · obtain rfl := (takesOne_parseCount at_line).eq_nil counted
    cases counted
    exact .waiting (.printParen program paren_line) at_line
  obtain ⟨-, count_line, rfl⟩ := reading_parseCount_ok_iff.1 counted
  dsimp only at behind_count
  obtain comma | ⟨⟨⟨⟩, rest₃⟩, comma, behind_comma⟩ := bind_eq_error_iff.1 behind_count
  · obtain rfl := (takesOne_expectToken _ _ at_line).eq_nil comma
    cases comma
    exact .waiting (.printCount program _ paren_line count_line) at_line
  obtain ⟨comma_line, rfl⟩ := reading_expectToken_ok_iff.1 comma
  dsimp only at behind_comma
  obtain item | ⟨⟨e, rest₄⟩, item, behind_item⟩ := bind_eq_error_iff.1 behind_comma
  · have opens := OpensOperand.behind (before ++ [(.print, at_line), (.openParen, paren_line),
      (.integer (Int64.ofNat count), count_line)]) .comma (by simp) comma_line
    simpa using Expr.ended_parse opens item
  obtain ⟨⟨used, rfl, fits⟩, written⟩ := Expr.spells_of_parse item
  dsimp only at behind_item
  obtain closed | ⟨_, _, done⟩ := bind_eq_error_iff.1 behind_item
  · obtain rfl := (takesOne_expectToken _ _ at_line).eq_nil closed
    cases closed
    rw [List.append_nil]
    exact .waiting (.printed program _ _ _ _ ⟨e, written, fits⟩) at_line
  · cases done

theorem ended_parseDefinition {name : String} (program : Program.Fills before)
    (ended : reading (parseDefinition name at_line tokens) = .error (.endOfInput line)) :
    Ended (before ++ (.name name, at_line) :: tokens) line := by
  rw [reading_parseDefinition] at ended
  obtain equals | ⟨⟨⟨⟩, rest⟩, equals, behind_equals⟩ := bind_eq_error_iff.1 ended
  · obtain rfl := (takesOne_expectToken _ _ at_line).eq_nil equals
    cases equals
    exact .waiting (.rule program name) at_line
  obtain ⟨equals_line, rfl⟩ := reading_expectToken_ok_iff.1 equals
  dsimp only at behind_equals
  obtain value | ⟨_, _, done⟩ := bind_eq_error_iff.1 behind_equals
  · have opens := OpensOperand.behind (before ++ [(.name name, at_line)]) .equals (by simp) equals_line
    simpa using Expr.ended_parse opens value
  · cases done

theorem ended_parse (program : Program.Fills before) (some_token : tokens ≠ [])
    (ended : reading (parse tokens) = .error (.endOfInput line)) : Ended (before ++ tokens) line := by
  rw [reading_parse] at ended
  cases tokens with
  | nil => exact absurd rfl some_token
  | cons first tokens =>
    obtain ⟨token, at_line⟩ := first
    dsimp only at ended
    split at ended
    · next prints =>
      subst prints
      exact ended_parsePrint program ended
    · split at ended
      · next name named =>
        cases Token.name?_eq_some_iff.1 named
        exact ended_parseDefinition program ended
      · cases ended

end Statement

namespace Program

theorem fills_append {before used : List LocatedToken} {s : Statement} (program : Fills before)
    (written : s.Written) (fits : List.Forall₂ Piece.FitsAt s.layout used) :
    Fills (before ++ used) := by
  obtain ⟨p, others_written, others_fit⟩ := program
  refine ⟨p ++ [s], ?_, ?_⟩
  · simpa [or_imp, forall_and] using ⟨others_written, written⟩
  · simpa [layout] using List.rel_append others_fit fits

theorem ended_ofTokens {before tokens : List LocatedToken} {line : Nat} (program : Fills before)
    (ended : ofTokens tokens = .error (.endOfInput line)) : Ended (before ++ tokens) line := by
  cases tokens with
  | nil =>
    rw [ofTokens] at ended
    cases ended
  | cons first tokens =>
    rw [ofTokens_cons] at ended
    obtain here | ⟨⟨s, rest⟩, read, behind⟩ := bind_eq_error_iff.1 ended
    · exact Statement.ended_parse program (List.cons_ne_nil _ _) here
    have shorter : rest.length < (first :: tokens).length := length_lt_of_reading read
    obtain ⟨⟨used, split, fits⟩, written⟩ := Statement.spells_of_parse read
    dsimp only at behind
    obtain later | ⟨_, _, done⟩ := bind_eq_error_iff.1 behind
    · rw [split, ← List.append_assoc]
      exact ended_ofTokens (fills_append program written fits) later
    · cases done
termination_by tokens.length

end Program

/-! ### What waits has no expression to begin -/

/-- The last token is none behind which an expression begins. -/
def Closed (tokens : List LocatedToken) : Prop :=
  ∃ last ∈ tokens.getLast?, last.1 ∉ [Token.openBracket, .openParen, .comma, .equals]

theorem Closed.append {tokens : List LocatedToken} (h : Closed tokens) (front : List LocatedToken) :
    Closed (front ++ tokens) := by
  obtain ⟨last, is_last, other⟩ := h
  refine ⟨last, ?_, other⟩
  rw [List.getLast?_append, Option.mem_def.1 is_last]
  rfl

theorem OpensOperand.not_closed {tokens : List LocatedToken} (h : OpensOperand tokens) :
    ¬ Closed tokens := by
  rintro ⟨last, is_last, other⟩
  cases h with
  | behind before token opens line =>
    rw [List.getLast?_concat] at is_last
    cases is_last
    simp_all
  | call before name name_line line =>
    simp at is_last
    simp [← is_last] at other

theorem closed_of_fits (pieces : List Piece) {last : Piece} {tokens : List LocatedToken}
    (fits : List.Forall₂ Piece.FitsAt (pieces ++ [last]) tokens)
    (other : last.1 ∉ [Token.openBracket, .openParen, .comma, .equals]) : Closed tokens := by
  rw [← spells_iff_forall₂, spells_append] at fits
  obtain ⟨_, ⟨front, rfl, -⟩, ends⟩ := fits
  rw [spells_cons] at ends
  obtain ⟨token, _, rfl, ⟨same, -⟩, ends⟩ := ends
  rw [spells_nil] at ends
  subst ends
  refine ⟨token, by simp, ?_⟩
  rwa [same]

theorem Expr.Fills.closed {tokens : List LocatedToken} (h : Fills tokens) : Closed tokens := by
  obtain ⟨e, written, fits⟩ := h
  cases written with
  | literal value line =>
    refine closed_of_fits [] fits ?_
    cases value <;> simp [Literal.token]
  | reference name line => exact closed_of_fits [] fits (by simp)
  | list parts line =>
    rw [layout, enclosed, ← List.cons_append] at fits
    exact closed_of_fits _ fits (by simp)
  | call name parts line =>
    rw [layout, enclosed, ← List.cons_append, ← List.cons_append] at fits
    exact closed_of_fits _ fits (by simp)
  | method object name parts line =>
    rw [layout, enclosed, ← List.cons_append, ← List.cons_append, ← List.cons_append,
      ← List.append_assoc] at fits
    exact closed_of_fits _ fits (by simp)

theorem Expr.Items.closed {tokens : List LocatedToken} (h : Items tokens) : Closed tokens := by
  induction h with
  | one item => exact item.closed
  | more item line rest ih => exact (ih.append [_]).append _

theorem Waits.closed {before inside : List LocatedToken} {opener : Token}
    (h : Waits before opener inside) (line : Nat) :
    (opener = .print ∧ ∃ paren_line, inside = [(.openParen, paren_line)]) ∨
      Closed ((opener, line) :: inside) := by
  cases h with
  | printParen program paren_line => exact .inl ⟨rfl, paren_line, rfl⟩
  | printed program count line₁ line₂ line₃ item => exact .inr (item.closed.append [_, _, _, _])
  | list opens items => exact .inr (items.closed.append [_])
  | call opens name paren_line items => exact .inr (items.closed.append [_, _])
  | method name line₁ line₂ items => exact .inr (items.closed.append [_, _, _])
  | _ => exact .inr ⟨_, rfl, by simp⟩

/-- A construct that waits for a token of its own does not wait for an expression. -/
theorem Waits.not_opensOperand {before inside : List LocatedToken} {opener : Token}
    (h : Waits before opener inside) (line : Nat) :
    ¬ OpensOperand (before ++ (opener, line) :: inside) := by
  intro opens
  obtain ⟨rfl, paren_line, rfl⟩ | closed := h.closed line
  · -- The parenthesis of a print statement is told from that of a call by the word before it.
    generalize split : before ++ [(Token.print, line), (.openParen, paren_line)] = tokens at opens
    cases opens with
    | behind front token opens last_line =>
      have last := congrArg List.getLast? split
      simp at last
      simp [← last] at opens
    | call front name name_line last_line =>
      have last := List.append_inj_right' split rfl
      cases last
  · exact opens.not_closed (closed.append before)

/-! ### Lines of faults -/

/-- The fault is on the line of what is to blame for it. -/
inductive SyntaxFault.OnItsLine (source : String) : SyntaxFault → Prop
  /-- The characters behind the first lexemes. -/
  | characters {lexemes : List (Pattern × List Char)} {rest : List Char} {fault : SyntaxFault}
      (cut : Munched source.toList lexemes rest) (blocked : Blocked rest)
      (on : fault.line = 1 + (Token.joined lexemes).count '\n') : OnItsLine source fault
  /-- The first token with which the text is no longer the beginning of a program. -/
  | token {before after : List LocatedToken} {token : Token} {fault : SyntaxFault}
      (scanned : Token.scan source = .ok (before ++ (token, fault.line) :: after))
      (blamed : fault.blamed? = some (token, fault.line)) (begins : Program.Begins before)
      (stuck : ¬ Program.Begins (before ++ [(token, fault.line)])) : OnItsLine source fault
  /-- What is still waiting at the end. -/
  | construct {before inside : List LocatedToken} {opener : Token} {line : Nat}
      (scanned : Token.scan source = .ok (before ++ (opener, line) :: inside))
      (waits : Waits before opener inside) : OnItsLine source (.endOfInput line)

/-- The fault is that the text ends where an expression should begin. -/
def SyntaxFault.LacksOperand (source : String) (fault : SyntaxFault) : Prop :=
  (∃ line, fault = .endOfInput line) ∧
    ∃ tokens, Token.scan source = .ok tokens ∧ OpensOperand tokens

namespace Program

open SyntaxFault

theorem onItsLine_of_scan {source : String} {fault : SyntaxFault}
    (refused : Token.scan source = .error fault) :
    Token.HasLine source fault.line ∧ OnItsLine source fault := by
  obtain ⟨_, located, -, -, run⟩ | ⟨lexemes, rest, found, cut, blocked, on, run⟩ :=
    Token.scan_cases source
  · rw [refused] at run
    cases run
  · rw [refused] at run
    obtain rfl := Except.error.inj run
    refine ⟨?_, .characters cut blocked on⟩
    rw [on]
    exact Token.hasLine_of_append cut.append_rest

theorem onItsLine_of_ended {source : String} {tokens : List LocatedToken} {line : Nat}
    (scanned : Token.scan source = .ok tokens) (ended : Ended tokens line) :
    (LacksOperand source (.endOfInput line) → line = 0) ∧
      (¬ LacksOperand source (.endOfInput line) →
        Token.HasLine source line ∧ OnItsLine source (.endOfInput line)) := by
  cases ended with
  | @waiting before inside opener waits line =>
    constructor
    · rintro ⟨-, _, scanned', opens⟩
      rw [scanned] at scanned'
      cases scanned'
      exact absurd opens (waits.not_opensOperand line)
    · intro _
      have mem : (opener, line) ∈ before ++ (opener, line) :: inside := by simp
      exact ⟨Token.hasLine_of_mem scanned mem, .construct scanned waits⟩
  | missing opens =>
    constructor
    · exact fun _ => rfl
    · exact fun placed => absurd ⟨⟨0, rfl⟩, tokens, scanned, opens⟩ placed

theorem onItsLine_of_spoiledBy {source : String} {used rest : List LocatedToken}
    {token : LocatedToken} {fault : SyntaxFault}
    (scanned : Token.scan source = .ok (used ++ token :: rest))
    (spoiled : Reader.SpoiledBy reader fault used token) :
    Token.HasLine source fault.line ∧ OnItsLine source fault := by
  obtain ⟨token, line⟩ := token
  have line_eq := line_of_blamed? spoiled.blamed
  subst line_eq
  have mem : (token, fault.line) ∈ used ++ (token, fault.line) :: rest := by simp
  refine ⟨Token.hasLine_of_mem scanned mem, ?_⟩
  refine .token scanned spoiled.blamed (begins_iff_exhausts.2 spoiled.before) fun begins => ?_
  have exhausts := begins_iff_exhausts.1 begins
  obtain ⟨line, ended⟩ := Reader.exhausts_of_fault exhausts (spoiled.always [])
  have blamed := spoiled.blamed
  rw [ended] at blamed
  cases blamed

/-- A text that is no program has its fault on one of its lines, and that is the line of what is to
blame: of the characters that are no token, of the first token that cannot stand there, or of the
construct that is waiting at the end. The one exception is a text that ends where an expression should
begin, at which there is always line 0. -/
theorem line_of_fault {source : String} {fault : SyntaxFault} (refused : parse source = .error fault) :
    (fault.LacksOperand source → fault = .endOfInput 0) ∧
      (¬ fault.LacksOperand source →
        Token.HasLine source fault.line ∧ fault.OnItsLine source) := by
  cases scanned : Token.scan source with
  | error stray =>
    rw [parse, scanned] at refused
    cases refused
    constructor
    · rintro ⟨-, tokens, scanned', -⟩
      rw [scanned] at scanned'
      cases scanned'
    · exact fun _ => onItsLine_of_scan scanned
  | ok tokens =>
    rw [parse, scanned] at refused
    have faulty := reader_eq_error_iff.2 refused
    obtain ⟨line, rfl⟩ | ⟨used, token, rest, rfl, spoiled⟩ :=
      (incremental_reader tokens).fault fault faulty
    · have nothing : Fills [] := ⟨[], writtenAs_nil.2 rfl⟩
      obtain ⟨lacking, placed⟩ := onItsLine_of_ended scanned (ended_ofTokens nothing refused)
      exact ⟨fun lacks => congrArg endOfInput (lacking lacks), placed⟩
    · constructor
      · rintro ⟨⟨line, rfl⟩, -⟩
        cases spoiled.blamed
      · exact fun _ => onItsLine_of_spoiledBy scanned spoiled

/-- The list on the second line is still open. -/
theorem line_of_fault_of_list :
    parse "x = [1,\n[2\n" = .error (.endOfInput 2) ∧
      ¬ LacksOperand "x = [1,\n[2\n" (.endOfInput 2) ∧
      Token.HasLine "x = [1,\n[2\n" 2 ∧ OnItsLine "x = [1,\n[2\n" (.endOfInput 2) := by
  have refused : parse "x = [1,\n[2\n" = .error (.endOfInput 2) := by cbv
  have placed : ¬ LacksOperand "x = [1,\n[2\n" (.endOfInput 2) := by
    intro lacks
    cases (line_of_fault refused).1 lacks
  exact ⟨refused, placed, (line_of_fault refused).2 placed⟩

/-- With a comma behind its item, the list on the first line is waiting for another one, and the fault
is on no line. -/
theorem not_hasLine_of_comma :
    parse "x = [1" = .error (.endOfInput 1) ∧ parse "x = [1," = .error (.endOfInput 0) ∧
      ¬ ∀ fault, parse "x = [1," = .error fault → Token.HasLine "x = [1," fault.line := by
  have refused : parse "x = [1," = .error (.endOfInput 0) := by cbv
  refine ⟨by cbv, refused, fun placed => ?_⟩
  obtain ⟨positive, -⟩ := placed _ refused
  simp [SyntaxFault.line] at positive

end Program

end Phrasemill
