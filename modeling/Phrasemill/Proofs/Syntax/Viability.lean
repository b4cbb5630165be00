import Mathlib
import Phrasemill.Proofs.Syntax.Incremental
import Phrasemill.Proofs.Syntax.Recognition

/-!
# Where reading a program fails

The readers of expressions, statements and programs read incrementally. So a token list that is no
program fails in one of two ways. Either there is no fault with any token and the input ends too
early: then it is the beginning of a program. Or a token is named that is the first one behind which
no program can be completed (`Program.fault_of_ofTokens`).
-/

namespace Phrasemill

open Parsed Reader

/-! ### Single tokens -/

theorem takesOne_expectToken (token : Token) (expected : Expectation) (line : Nat) :
    TakesOne fun tokens => reading (expectToken token expected line tokens) where
  at_end := ⟨line, rfl⟩
  decides first := by
    simp only [reading_expectToken]
    by_cases same : first.1 = token
    · exact .inl ⟨(), fun rest => if_pos same⟩
    · exact .inr ⟨_, rfl, fun rest => if_neg same⟩
  accepts := ⟨(token, 0), (), fun _ => reading_expectToken_ok_iff.2 ⟨0, rfl⟩⟩

/-- A token is expected where it is allowed. -/
theorem resumes_expectToken {before follow : List LocatedToken → Prop} {token : Token}
    (allowed : ∀ at_line rest, before ((token, at_line) :: rest)) (expected : Expectation)
    (line : Nat) :
    Resumes before follow fun tokens => reading (expectToken token expected line tokens) where
  exhausts := .inl ⟨line, rfl⟩
  completes := ⟨[(token, 0)], (), fun rest _ =>
    ⟨allowed 0 rest, reading_expectToken_ok_iff.2 ⟨0, rfl⟩⟩⟩

theorem takesOne_expectName (line : Nat) :
    TakesOne fun tokens => reading (expectName line tokens) where
  at_end := ⟨line, rfl⟩
  decides first := by
    simp only [reading_expectName]
    cases first.1.name? with
    | some name => exact .inl ⟨name, fun _ => rfl⟩
    | none => exact .inr ⟨_, rfl, fun _ => rfl⟩
  accepts := ⟨(.name "", 0), "", fun _ => reading_expectName_ok_iff.2 ⟨0, rfl⟩⟩

theorem Statement.takesOne_parseCount (line : Nat) :
    TakesOne fun tokens => reading (parseCount line tokens) where
  at_end := ⟨line, rfl⟩
  decides first := by
    simp only [reading_parseCount]
    cases first.1.integer?.bind count? with
    | some count => exact .inl ⟨count, fun _ => rfl⟩
    | none => exact .inr ⟨_, rfl, fun _ => rfl⟩
  accepts := ⟨(.integer (Int64.ofNat 0), 0), 0, fun _ =>
    reading_parseCount_ok_iff.2 ⟨Nat.zero_le _, 0, rfl⟩⟩

/-! ### Expressions -/

namespace Expr

theorem parse_eq_andThen :
    (fun tokens => reading (parse tokens)) =
      andThen (fun tokens => reading (parsePrimary tokens)) fun first tokens =>
        reading (parseMethods first tokens) := by
  funext tokens
  exact reading_parse tokens

/-- What follows an item: a comma and more items, or the closing token. -/
def afterItem (closing : Token) (line : Nat) (item : Expr) : Reader (List Expr)
  | [] => .error (.endOfInput line)
  | (token, tokenLine) :: rest =>
    if token = .comma then
      andThen (fun tokens => reading (parseMoreItems closing line tokens))
        (fun items => done (item :: items)) rest
    else if token = closing then .ok ([item], rest)
    else .error (.unexpected (.insteadOf (.separator closing) token) tokenLine)

theorem parseMoreItems_eq_andThen (closing : Token) (line : Nat) :
    (fun tokens => reading (parseMoreItems closing line tokens)) =
      andThen (fun tokens => reading (parse tokens)) (afterItem closing line) := by
  funext tokens
  rw [reading_parseMoreItems, andThen]
  congr 1
  funext r
  obtain ⟨item, rest⟩ := r
  cases rest with
  | nil => rfl
  | cons token rest => rfl

/-- At the end of the tokens, no method has to be called. -/
theorem resumes_parseMethods (receiver : Expr) :
    Resumes Ends Ends fun tokens => reading (parseMethods receiver tokens) where
  exhausts := .inr ⟨receiver, reading_parseMethods receiver []⟩
  completes := by
    refine ⟨[], receiver, fun rest ends => ⟨ends, ?_⟩⟩
    rw [List.nil_append, reading_parseMethods_of_ends ends]

theorem resumes_parsePrimary :
    Resumes Anything Ends fun tokens => reading (parsePrimary tokens) where
  exhausts := .inl ⟨0, reading_parsePrimary []⟩
  completes := by
    refine ⟨[(.integer 0, 0)], .literal (.integer 0) 0, fun rest _ => ⟨trivial, ?_⟩⟩
    exact reading_parsePrimary _

theorem resumes_parseNamed (name : String) (line : Nat) :
    Resumes Anything Ends fun tokens => reading (parseNamed name line tokens) where
  exhausts := .inr ⟨.reference name line, reading_parseNamed name line []⟩
  completes := by
    refine ⟨[], .reference name line, fun rest ends => ⟨trivial, ?_⟩⟩
    rw [List.nil_append, reading_parseNamed_of_not_paren ends.not_paren]

section Items

variable {closing : Token} (closes : closing = .closeBracket ∨ closing = .closeParen) (line : Nat)

include closes

theorem resumes_parseItems :
    Resumes Anything Anything fun tokens => reading (parseItems closing line tokens) where
  exhausts := by
    refine .inl ⟨0, ?_⟩
    show reading (parseItems closing line []) = _
    rw [reading_parseItems, reading_parseMoreItems, reading_parse, reading_parsePrimary]
    rfl
  completes := by
    refine ⟨[(closing, 0)], [], fun rest _ => ⟨trivial, ?_⟩⟩
    refine reading_parseItems_of_spells closes line (List.forall_mem_nil _) ?_
    rw [layouts, enclosed_nil, spells_free]
    exact ⟨0, rest, rfl, spells_nil.2 rfl⟩

theorem resumes_afterItem (item : Expr) : Resumes Ends Anything (afterItem closing line item) where
  exhausts := .inl ⟨line, rfl⟩
  completes := by
    refine ⟨[(closing, 0)], [item], fun rest _ => ⟨ends_closing closes 0 rest, ?_⟩⟩
    rcases closes with rfl | rfl
    · rfl
    · rfl

theorem incremental_afterItem (item : Expr) {tokens : List LocatedToken}
    (more : ∀ rest, rest.length < tokens.length →
      Incremental Anything (fun tokens => reading (parseMoreItems closing line tokens)) rest) :
    Incremental Anything (afterItem closing line item) tokens := by
  have at_end := resumes_afterItem closes line item
  cases tokens with
  | nil => exact at_end.incremental
  | cons first rest =>
    obtain ⟨token, at_line⟩ := first
    by_cases comma : token = .comma
    · have items := more rest (Nat.lt_succ_self _)
      exact (items.andThen_done (item :: ·) fun _ _ => trivial).behind fun rest => if_pos comma
    · by_cases closed : token = closing
      · refine (incremental_done [item] rest).behind fun rest => ?_
        rw [afterItem, if_neg comma, if_pos closed]
        rfl
      · have refuses (rest : List LocatedToken) :
            afterItem closing line item ((token, at_line) :: rest) =
              .error (.unexpected (.insteadOf (.separator closing) token) at_line) := by
          rw [afterItem, if_neg comma, if_neg closed]
        exact incremental_blame at_end.exhausts rfl refuses

end Items

/-! The readers call one another as the grammar nests, and end by the same measure here as there. -/

mutual

theorem incremental_parse (tokens : List LocatedToken) :
    Incremental Ends (fun tokens => reading (parse tokens)) tokens := by
  rw [parse_eq_andThen]
  refine (incremental_parsePrimary tokens).andThen (fun first rest primary => ?_)
    resumes_parseMethods
  have shorter := length_lt_of_reading primary
  exact incremental_parseMethods first rest
termination_by (tokens.length, 1)

theorem incremental_parsePrimary (tokens : List LocatedToken) :
    Incremental Ends (fun tokens => reading (parsePrimary tokens)) tokens := by
  cases tokens with
  | nil => exact resumes_parsePrimary.incremental
  | cons first rest =>
    obtain ⟨token, line⟩ := first
    have reads (rest : List LocatedToken) := reading_parsePrimary ((token, line) :: rest)
    by_cases bracket : token = .openBracket
    · have elements := incremental_parseItems (.inl rfl) line rest
      exact (elements.andThen_done (list · line) fun _ _ => trivial).behind
        fun rest => (reads rest).trans (if_pos bracket)
    · simp only [if_neg bracket] at reads
      cases named : token.name? with
      | some name =>
        simp only [named] at reads
        exact (incremental_parseNamed name line rest).behind reads
      | none =>
        cases valued : token.literal? with
        | some value =>
          simp only [named, valued] at reads
          exact (incremental_done _ rest).behind reads
        | none =>
          simp only [named, valued] at reads
          exact incremental_blame resumes_parsePrimary.exhausts rfl reads
termination_by (tokens.length, 0)

theorem incremental_parseNamed (name : String) (line : Nat) (tokens : List LocatedToken) :
    Incremental Ends (fun tokens => reading (parseNamed name line tokens)) tokens := by
  cases tokens with
  | nil => exact (resumes_parseNamed name line).incremental
  | cons first rest =>
    obtain ⟨token, at_line⟩ := first
    have reads (rest : List LocatedToken) := reading_parseNamed name line ((token, at_line) :: rest)
    by_cases paren : token = .openParen
    · have arguments := incremental_parseItems (.inr rfl) line rest
      exact (arguments.andThen_done (call name · line) fun _ _ => trivial).behind
        fun rest => (reads rest).trans (if_pos paren)
    · exact incremental_stop (reading_parseNamed name line []) fun rest =>
        (reads rest).trans (if_neg paren)
termination_by (tokens.length, 0)

theorem incremental_parseMethods (receiver : Expr) (tokens : List LocatedToken) :
    Incremental Ends (fun tokens => reading (parseMethods receiver tokens)) tokens := by
  cases tokens with
  | nil => exact (resumes_parseMethods receiver).incremental
  | cons first rest =>
    obtain ⟨token, line⟩ := first
    have reads (rest : List LocatedToken) := reading_parseMethods receiver ((token, line) :: rest)
    by_cases dot : token = .dot
    · have methods : Incremental Ends
          (andThen (fun tokens => reading (expectName line tokens)) fun name =>
            andThen (fun tokens =>
              reading (expectToken .openParen (.parenAfterMethod name) line tokens)) fun _ =>
                andThen (fun tokens => reading (parseItems .closeParen line tokens))
                  fun arguments tokens =>
                    reading (parseMethods (method receiver name arguments line) tokens)) rest := by
        refine ((takesOne_expectName line).incremental rest).andThen_of_anything
          fun name rest₁ le₁ => ?_
        refine ((takesOne_expectToken _ _ line).incremental rest₁).andThen_of_anything
          fun _ rest₂ le₂ => ?_
        have shorter₂ : rest₂.length < rest.length + 1 := by omega
        refine (incremental_parseItems (.inr rfl) line rest₂).andThen_of_anything
          fun arguments rest₃ le₃ => ?_
        have shorter₃ : rest₃.length < rest.length + 1 := by omega
        exact incremental_parseMethods (method receiver name arguments line) rest₃
      exact methods.behind fun rest => (reads rest).trans (if_pos dot)
    · exact incremental_stop (reading_parseMethods receiver []) fun rest =>
        (reads rest).trans (if_neg dot)
termination_by (tokens.length, 0)

theorem incremental_parseItems {closing : Token}
    (closes : closing = .closeBracket ∨ closing = .closeParen) (line : Nat)
    (tokens : List LocatedToken) :
    Incremental Anything (fun tokens => reading (parseItems closing line tokens)) tokens := by
  have at_end := resumes_parseItems closes line
  cases tokens with
  | nil => exact at_end.incremental
  | cons first rest =>
    obtain ⟨token, at_line⟩ := first
    have reads (rest : List LocatedToken) :=
      reading_parseItems closing line ((token, at_line) :: rest)
    by_cases closed : token = closing
    · exact (incremental_done [] rest).behind fun rest => (reads rest).trans (if_pos closed)
    · -- Nothing is taken here: the same token is read again, as the first one of an item.
      refine (incremental_parseMoreItems closes line ((token, at_line) :: rest)).congr
        (fun rest => (reads rest).trans (if_neg closed)) at_end.exhausts fun items taken => ?_
      exact absurd (length_lt_of_reading taken) (lt_irrefl _)
termination_by (tokens.length, 3)

theorem incremental_parseMoreItems {closing : Token}
    (closes : closing = .closeBracket ∨ closing = .closeParen) (line : Nat)
    (tokens : List LocatedToken) :
    Incremental Anything (fun tokens => reading (parseMoreItems closing line tokens)) tokens := by
  rw [parseMoreItems_eq_andThen]
  refine (incremental_parse tokens).andThen (fun item rest first => ?_)
    (resumes_afterItem closes line)
  have shorter := length_lt_of_reading first
  refine incremental_afterItem closes line item fun rest' shorter' => ?_
  have shorter_rest := Nat.lt_trans shorter' shorter
  exact incremental_parseMoreItems closes line rest'
termination_by (tokens.length, 2)

end

end Expr

/-! ### Statements -/

namespace Statement

theorem parsePrint_eq_andThen (line : Nat) :
    (fun tokens => reading (parsePrint line tokens)) =
      andThen (fun tokens => reading (expectToken .openParen .parenAfterPrint line tokens)) fun _ =>
        andThen (fun tokens => reading (parseCount line tokens)) fun count =>
          andThen (fun tokens => reading (expectToken .comma .commaAfterCount line tokens)) fun _ =>
            andThen (fun tokens => reading (Expr.parse tokens)) fun e =>
              andThen (fun tokens =>
                reading (expectToken .closeParen .parenAfterPrinted line tokens)) fun _ =>
                  done (print count e line) := by
  funext tokens
  exact reading_parsePrint line tokens

theorem parseDefinition_eq_andThen (name : String) (line : Nat) :
    (fun tokens => reading (parseDefinition name line tokens)) =
      andThen (fun tokens => reading (expectToken .equals (.equalsAfterRule name) line tokens))
        fun _ => andThen (fun tokens => reading (Expr.parse tokens)) fun value =>
          done (define name value line) := by
  funext tokens
  exact reading_parseDefinition name line tokens

theorem incremental_parsePrint (line : Nat) (tokens : List LocatedToken) :
    Incremental Expr.Ends (fun tokens => reading (parsePrint line tokens)) tokens := by
  rw [parsePrint_eq_andThen]
  refine ((takesOne_expectToken _ _ line).incremental tokens).andThen_of_anything
    fun _ rest₁ _ => ?_
  refine ((takesOne_parseCount line).incremental rest₁).andThen_of_anything fun count rest₂ _ => ?_
  refine ((takesOne_expectToken _ _ line).incremental rest₂).andThen_of_anything
    fun _ rest₃ _ => ?_
  have closes (at_line : Nat) (rest : List LocatedToken) :
      Expr.Ends ((.closeParen, at_line) :: rest) :=
    Expr.ends_closing (.inr rfl) at_line rest
  refine (Expr.incremental_parse rest₃).andThen (fun e rest₄ _ => ?_) fun e => ?_
  · exact ((takesOne_expectToken _ _ line).incremental rest₄).andThen_done _ fun _ => id
  · exact (resumes_expectToken closes _ line).andThen fun _ => resumes_done _ fun _ => id

theorem incremental_parseDefinition (name : String) (line : Nat) (tokens : List LocatedToken) :
    Incremental Expr.Ends (fun tokens => reading (parseDefinition name line tokens)) tokens := by
  rw [parseDefinition_eq_andThen]
  refine ((takesOne_expectToken _ _ line).incremental tokens).andThen_of_anything fun _ rest _ => ?_
  exact (Expr.incremental_parse rest).andThen_done (define name · line) fun _ => id

theorem resumes_parse : Resumes Anything Expr.Ends fun tokens => reading (parse tokens) where
  exhausts := .inl ⟨0, rfl⟩
  completes := by
    let value := Expr.literal (.integer 0) 0
    have written : (define "" value 0).Written := Expr.Written.literal (.integer 0) 0
    refine ⟨[(.name "", 0), (.equals, 0), (.integer 0, 0)], define "" value 0, fun rest ends =>
      ⟨trivial, reading_parse_of_spells written ?_ ends⟩⟩
    simp [layout, value, Expr.layout, Literal.token]

theorem incremental_parse (tokens : List LocatedToken) :
    Incremental Expr.Ends (fun tokens => reading (parse tokens)) tokens := by
  cases tokens with
  | nil => exact resumes_parse.incremental
  | cons first rest =>
    obtain ⟨token, line⟩ := first
    have reads (rest : List LocatedToken) := reading_parse ((token, line) :: rest)
    by_cases prints : token = .print
    · exact (incremental_parsePrint line rest).behind fun rest => (reads rest).trans (if_pos prints)
    · simp only [if_neg prints] at reads
      cases named : token.name? with
      | some name =>
        simp only [named] at reads
        exact (incremental_parseDefinition name line rest).behind reads
      | none =>
        simp only [named] at reads
        exact incremental_blame resumes_parse.exhausts rfl reads

end Statement

/-! ### Programs -/

namespace Program

/-- Reads all statements up to the end of the tokens. -/
def reader : Reader Program := fun tokens => (ofTokens tokens).map fun p => (p, [])

theorem reader_eq_ok_iff {tokens rest : List LocatedToken} {p : Program} :
    reader tokens = .ok (p, rest) ↔ ofTokens tokens = .ok p ∧ rest = [] := by
  cases read : ofTokens tokens with
  | error fault => simp [reader, read, Except.map]
  | ok q => simp [reader, read, Except.map, eq_comm]

theorem reader_eq_error_iff {tokens : List LocatedToken} {fault : SyntaxFault} :
    reader tokens = .error fault ↔ ofTokens tokens = .error fault := by
  cases read : ofTokens tokens with
  | error fault => simp [reader, read, Except.map]
  | ok q => simp [reader, read, Except.map]

theorem reader_nil : reader [] = .ok ([], []) := by
  rw [reader_eq_ok_iff, ofTokens]
  exact ⟨rfl, rfl⟩

theorem reader_cons (first : LocatedToken) (tokens : List LocatedToken) :
    reader (first :: tokens) =
      andThen (fun tokens => reading (Statement.parse tokens))
        (fun statement => andThen reader fun p => done (statement :: p)) (first :: tokens) := by
  rw [reader, ofTokens_cons, andThen]
  cases reading (Statement.parse (first :: tokens)) with
  | error fault => rfl
  | ok r =>
    obtain ⟨statement, rest⟩ := r
    simp only [ok_bind, andThen, reader]
    cases ofTokens rest with
    | error fault => rfl
    | ok p => rfl

/-- A program may end behind any statement. -/
theorem resumes_reader : Resumes Expr.Ends (· = []) reader where
  exhausts := .inr ⟨[], reader_nil⟩
  completes := by
    refine ⟨[], [], ?_⟩
    rintro _ rfl
    exact ⟨Expr.ends_nil, reader_nil⟩

theorem incremental_reader (tokens : List LocatedToken) : Incremental (· = []) reader tokens := by
  cases tokens with
  | nil => exact resumes_reader.incremental
  | cons first tokens =>
    refine Incremental.congr ?_ (reader_cons first) resumes_reader.exhausts fun p taken => ?_
    · refine (Statement.incremental_parse (first :: tokens)).andThen (fun statement rest read => ?_)
        fun statement => resumes_reader.andThen fun p => resumes_done _ fun _ => id
      have shorter := length_lt_of_reading read
      exact (incremental_reader rest).andThen_done _ fun _ => id
    · rw [← reader_cons] at taken
      cases (reader_eq_ok_iff.1 taken).2
termination_by tokens.length
decreasing_by exact shorter

/-- Something can be written behind the tokens, or nothing, that makes them a program. -/
def Begins (tokens : List LocatedToken) : Prop :=
  ∃ more, ∃ p : Program, p.WrittenAs (tokens ++ more)

theorem begins_iff_exhausts {tokens : List LocatedToken} :
    Begins tokens ↔ reader.Exhausts tokens := by
  constructor
  · rintro ⟨more, p, written⟩
    cases read : reader tokens with
    | ok r =>
      obtain ⟨q, rest⟩ := r
      obtain ⟨-, rfl⟩ := reader_eq_ok_iff.1 read
      exact .inr ⟨q, read⟩
    | error fault =>
      obtain ⟨line, rfl⟩ | ⟨used, token, rest, rfl, spoiled⟩ :=
        (incremental_reader tokens).fault fault read
      · exact .inl ⟨line, read⟩
      · have refused := reader_eq_error_iff.1 (spoiled.always (rest ++ more))
        rw [List.append_assoc, List.cons_append] at written
        rw [written.ofTokens_eq] at refused
        cases refused
  · intro exhausts
    obtain ⟨more, p, completes⟩ := (incremental_reader tokens).completes exhausts
    have read := completes [] rfl
    rw [List.append_nil] at read
    exact ⟨more, p, writtenAs_of_ofTokens (reader_eq_ok_iff.1 read).1⟩

/-- Tokens that are no program. Reading them fails for the end of the input exactly if they are the
beginning of a longer program. Every other fault names one of the tokens: up to it the tokens are the
beginning of a program, with it they are not. -/
theorem fault_of_ofTokens {tokens : List LocatedToken}
    (no_program : ∀ p : Program, ¬ p.WrittenAs tokens) :
    ((∃ line, ofTokens tokens = .error (.endOfInput line)) ↔
        ∃ token more, ∃ p : Program, p.WrittenAs (tokens ++ token :: more)) ∧
      ∀ fault, ofTokens tokens = .error fault → (∀ line, fault ≠ .endOfInput line) →
        ∃ used token rest, tokens = used ++ token :: rest ∧ fault.blamed? = some token ∧
          Begins used ∧ ¬ Begins (used ++ [token]) := by
  refine ⟨⟨?_, ?_⟩, fun fault read other => ?_⟩
  · rintro ⟨line, read⟩
    obtain ⟨more, p, written⟩ := begins_iff_exhausts.2 (.inl ⟨line, reader_eq_error_iff.2 read⟩)
    cases more with
    | nil =>
      rw [List.append_nil] at written
      exact absurd written (no_program p)
    | cons token more => exact ⟨token, more, p, written⟩
  · rintro ⟨token, more, p, written⟩
    obtain ⟨line, read⟩ | ⟨q, read⟩ := begins_iff_exhausts.1 ⟨token :: more, p, written⟩
    · exact ⟨line, reader_eq_error_iff.1 read⟩
    · exact absurd (writtenAs_of_ofTokens (reader_eq_ok_iff.1 read).1) (no_program q)
  · obtain ⟨line, ended⟩ | ⟨used, token, rest, split, spoiled⟩ :=
      (incremental_reader tokens).fault fault (reader_eq_error_iff.2 read)
    · exact absurd ended (other line)
    · refine ⟨used, token, rest, split, spoiled.blamed, begins_iff_exhausts.2 spoiled.before, ?_⟩
      intro begins
      obtain ⟨line, ended⟩ := exhausts_of_fault (begins_iff_exhausts.1 begins) (spoiled.always [])
      exact other line ended

/-- A print statement that stops too early, and one with a comma in place of its count. -/
theorem fault_of_ofTokens_of_print :
    let short : List LocatedToken := [(.print, 1), (.openParen, 1)]
    let wrong : List LocatedToken := [(.print, 1), (.openParen, 1), (.comma, 2), (.equals, 3)]
    (∀ p : Program, ¬ p.WrittenAs short) ∧ (∀ p : Program, ¬ p.WrittenAs wrong) ∧
      (∃ token more, ∃ p : Program, p.WrittenAs (short ++ token :: more)) ∧
      ofTokens wrong = .error (.printCount .comma 2) ∧
      ∃ used token rest, wrong = used ++ token :: rest ∧ token = (.comma, 2) ∧ Begins used ∧
        ¬ Begins (used ++ [token]) := by
  intro short wrong
  have short_read : ofTokens short = .error (.endOfInput 1) := by
    rw [ofTokens_cons, Statement.reading_parse]
    rfl
  have wrong_read : ofTokens wrong = .error (.printCount .comma 2) := by
    rw [ofTokens_cons, Statement.reading_parse]
    rfl
  have no_program {tokens : List LocatedToken} {fault : SyntaxFault}
      (read : ofTokens tokens = .error fault) (p : Program) : ¬ p.WrittenAs tokens := by
    intro written
    rw [written.ofTokens_eq] at read
    cases read
  obtain ⟨ends_early, -⟩ := fault_of_ofTokens (no_program short_read)
  obtain ⟨-, spoiled⟩ := fault_of_ofTokens (no_program wrong_read)
  obtain ⟨used, token, rest, split, blamed, begins, stuck⟩ := spoiled _ wrong_read (by simp)
  exact ⟨no_program short_read, no_program wrong_read, ends_early.1 ⟨1, short_read⟩, wrong_read,
    used, token, rest, split, (Option.some.inj blamed).symm, begins, stuck⟩

end Program

end Phrasemill
