import Mathlib
import Phrasemill.Proofs.Except
import Phrasemill.Proofs.Syntax.Layout
import Phrasemill.Proofs.Syntax.Readers

/-!
# Programs are read exactly as they are written

What is read from a token list is spelled by the tokens that were taken, and what is spelled is read.
The readers decide by the next token alone, so the second half has to say why that never goes wrong:
an expression is followed by a comma, a closing token, the next statement or nothing, none of which
is a dot or an opening parenthesis, and so the readers stop where the expression does.
-/

namespace Phrasemill

open Parsed

theorem Parsed.length_lt_of_reading {α : Type} {n : Nat} {r : Except SyntaxFault (Parsed α n)}
    {value : α} {rest : List LocatedToken} (h : reading r = .ok (value, rest)) : rest.length < n := by
  cases r with
  | error fault => cases h
  | ok p =>
    cases h
    exact p.shorter

/-! ### Single tokens -/

theorem Token.name?_eq_some_iff {token : Token} {name : String} :
    token.name? = some name ↔ token = .name name := by
  cases token <;> simp [Token.name?]

theorem Token.literal?_eq_some_iff {token : Token} {value : Literal} :
    token.literal? = some value ↔ token = value.token := by
  cases token <;> cases value <;> simp [Token.literal?, Literal.token]

theorem reading_expectToken_ok_iff {token : Token} {expected : Expectation} {line : Nat}
    {tokens rest : List LocatedToken} :
    reading (expectToken token expected line tokens) = .ok ((), rest) ↔
      ∃ at_line, tokens = (token, at_line) :: rest := by
  rw [reading_expectToken]
  cases tokens with
  | nil => simp
  | cons first more =>
    obtain ⟨found, at_line⟩ := first
    dsimp only
    split
    · next same => simp [same]
    · next other => simp [other]

theorem reading_expectName_ok_iff {name : String} {line : Nat} {tokens rest : List LocatedToken} :
    reading (expectName line tokens) = .ok (name, rest) ↔
      ∃ at_line, tokens = (.name name, at_line) :: rest := by
  rw [reading_expectName]
  cases tokens with
  | nil => simp
  | cons first more =>
    obtain ⟨found, at_line⟩ := first
    cases found <;> simp [Token.name?]

namespace Statement

theorem count?_eq_some_iff {n : Int64} {count : Nat} :
    count? n = some count ↔ count ≤ maxCount ∧ n = Int64.ofNat count := by
  have max_eq : (maxCount : Int) = Int64.maxValue.toInt := rfl
  unfold count?
  constructor
  · intro h
    split at h
    · next nonneg =>
      cases h
      have le := n.toInt_le
      refine ⟨by omega, ?_⟩
      rw [← Int64.ofInt_eq_ofNat, Int.toNat_of_nonneg nonneg, Int64.ofInt_toInt]
    · cases h
  · rintro ⟨le, rfl⟩
    have written : (Int64.ofNat count).toInt = count := by
      refine Int64.toInt_ofNat_of_lt ?_
      rw [Int64.toInt_maxValue] at max_eq
      omega
    rw [written, if_pos (Int.natCast_nonneg count), Int.toNat_natCast]

theorem reading_parseCount_ok_iff {count line : Nat} {tokens rest : List LocatedToken} :
    reading (parseCount line tokens) = .ok (count, rest) ↔
      count ≤ maxCount ∧ ∃ at_line, tokens = (.integer (Int64.ofNat count), at_line) :: rest := by
  rw [reading_parseCount]
  cases tokens with
  | nil => simp
  | cons first more =>
    obtain ⟨found, at_line⟩ := first
    cases found with
    | integer n =>
      dsimp only [Token.integer?, Option.bind_some]
      constructor
      · intro h
        split at h
        · next counted =>
          cases h
          obtain ⟨le, rfl⟩ := count?_eq_some_iff.1 counted
          exact ⟨le, at_line, rfl⟩
        · cases h
      · rintro ⟨le, _, same⟩
        cases same
        rw [count?_eq_some_iff.2 ⟨le, rfl⟩]
    | _ => simp [Token.integer?]

end Statement

/-! ### What is read is spelled -/

namespace Expr

/-- Either the closing token comes at once, or there is at least one item. -/
theorem nothing_or_parseMoreItems {closing : Token} {line : Nat} {tokens rest : List LocatedToken}
    {es : List Expr} (h : reading (parseItems closing line tokens) = .ok (es, rest)) :
    (∃ at_line, tokens = (closing, at_line) :: rest ∧ es = []) ∨
      reading (parseMoreItems closing line tokens) = .ok (es, rest) := by
  rw [reading_parseItems] at h
  cases tokens with
  | nil => exact .inr h
  | cons token tokens =>
    obtain ⟨token, at_line⟩ := token
    dsimp only at h
    split at h
    · next closes =>
      cases h
      subst closes
      exact .inl ⟨at_line, rfl, rfl⟩
    · exact .inr h

mutual

theorem spells_of_parse {tokens rest : List LocatedToken} {e : Expr}
    (h : reading (parse tokens) = .ok (e, rest)) : Spells e.layout tokens rest ∧ e.Written := by
  rw [reading_parse] at h
  obtain ⟨⟨first, middle⟩, primary, h⟩ := bind_eq_ok_iff.1 h
  have shorter := length_lt_of_reading primary
  obtain ⟨spelled, written⟩ := spells_of_parsePrimary primary
  obtain ⟨suffix, layout_eq, calls, written⟩ := spells_of_parseMethods written h
  rw [layout_eq, spells_append]
  exact ⟨⟨middle, spelled, calls⟩, written⟩
termination_by (tokens.length, 1)

theorem spells_of_parsePrimary {tokens rest : List LocatedToken} {e : Expr}
    (h : reading (parsePrimary tokens) = .ok (e, rest)) :
    Spells e.layout tokens rest ∧ e.Written := by
  rw [reading_parsePrimary] at h
  cases tokens with
  | nil => cases h
  | cons token tokens =>
    obtain ⟨token, line⟩ := token
    dsimp only at h
    split at h
    · next bracket =>
      subst bracket
      obtain ⟨⟨elements, left⟩, items, h⟩ := bind_eq_ok_iff.1 h
      cases h
      obtain ⟨spelled, written⟩ := spells_of_parseItems items
      rw [layout, spells_bound]
      exact ⟨⟨tokens, rfl, spelled⟩, .list written line⟩
    · split at h
      · next name named =>
        cases Token.name?_eq_some_iff.1 named
        obtain ⟨suffix, layout_eq, spelled, written⟩ := spells_of_parseNamed h
        rw [layout_eq, spells_bound]
        exact ⟨⟨tokens, rfl, spelled⟩, written⟩
      · next value _ is_literal =>
        cases Token.literal?_eq_some_iff.1 is_literal
        cases h
        rw [layout, spells_bound]
        exact ⟨⟨_, rfl, spells_nil.2 rfl⟩, .literal value line⟩
      · cases h
termination_by (tokens.length, 0)

theorem spells_of_parseNamed {name : String} {line : Nat} {tokens rest : List LocatedToken}
    {e : Expr} (h : reading (parseNamed name line tokens) = .ok (e, rest)) :
    ∃ suffix, e.layout = (.name name, some line) :: suffix ∧ Spells suffix tokens rest ∧
      e.Written := by
  rw [reading_parseNamed] at h
  cases tokens with
  | nil =>
    cases h
    exact ⟨[], rfl, spells_nil.2 rfl, .reference name line⟩
  | cons token tokens =>
    obtain ⟨token, at_line⟩ := token
    dsimp only at h
    split at h
    · next paren =>
      subst paren
      obtain ⟨⟨arguments, left⟩, items, h⟩ := bind_eq_ok_iff.1 h
      cases h
      obtain ⟨spelled, written⟩ := spells_of_parseItems items
      refine ⟨(.openParen, none) :: enclosed .closeParen (layouts arguments), rfl, ?_,
        .call name written line⟩
      rw [spells_free]
      exact ⟨at_line, tokens, rfl, spelled⟩
    · cases h
      exact ⟨[], rfl, spells_nil.2 rfl, .reference name line⟩
termination_by (tokens.length, 0)

theorem spells_of_parseMethods {receiver : Expr} (object : receiver.Written)
    {tokens rest : List LocatedToken} {e : Expr}
    (h : reading (parseMethods receiver tokens) = .ok (e, rest)) :
    ∃ suffix, e.layout = receiver.layout ++ suffix ∧ Spells suffix tokens rest ∧ e.Written := by
  rw [reading_parseMethods] at h
  cases tokens with
  | nil =>
    cases h
    exact ⟨[], (List.append_nil _).symm, spells_nil.2 rfl, object⟩
  | cons token tokens =>
    obtain ⟨token, line⟩ := token
    dsimp only at h
    split at h
    · next dot =>
      subst dot
      obtain ⟨⟨name, left₁⟩, named, h⟩ := bind_eq_ok_iff.1 h
      obtain ⟨⟨⟨⟩, left₂⟩, paren, h⟩ := bind_eq_ok_iff.1 h
      obtain ⟨⟨arguments, left₃⟩, items, h⟩ := bind_eq_ok_iff.1 h
      dsimp only at paren items h
      have shorter_name : left₁.length < tokens.length := length_lt_of_reading named
      have shorter_paren : left₂.length < left₁.length := length_lt_of_reading paren
      have shorter : left₃.length < tokens.length + 1 := by
        have shorter_items : left₃.length < left₂.length := length_lt_of_reading items
        omega
      obtain ⟨name_line, at_name⟩ := reading_expectName_ok_iff.1 named
      obtain ⟨paren_line, at_paren⟩ := reading_expectToken_ok_iff.1 paren
      obtain ⟨spelled, written⟩ := spells_of_parseItems items
      obtain ⟨suffix, layout_eq, more, written⟩ :=
        spells_of_parseMethods (.method object name written line) h
      rw [layout, List.append_assoc] at layout_eq
      refine ⟨_, layout_eq, ?_, written⟩
      simp only [List.cons_append, spells_bound, spells_free, spells_append]
      exact ⟨tokens, rfl, name_line, left₁, at_name, paren_line, left₂, at_paren, left₃, spelled, more⟩
    · cases h
      exact ⟨[], (List.append_nil _).symm, spells_nil.2 rfl, object⟩
termination_by (tokens.length, 0)

theorem spells_of_parseItems {closing : Token} {line : Nat} {tokens rest : List LocatedToken}
    {es : List Expr} (h : reading (parseItems closing line tokens) = .ok (es, rest)) :
    Spells (enclosed closing (layouts es)) tokens rest ∧ ∀ e ∈ es, e.Written := by
  rcases nothing_or_parseMoreItems h with ⟨at_line, closes, rfl⟩ | more
  · rw [layouts, enclosed_nil, spells_free]
    exact ⟨⟨at_line, rest, closes, spells_nil.2 rfl⟩, List.forall_mem_nil _⟩
  · exact (spells_of_parseMoreItems more).2
termination_by (tokens.length, 3)

theorem spells_of_parseMoreItems {closing : Token} {line : Nat} {tokens rest : List LocatedToken}
    {es : List Expr} (h : reading (parseMoreItems closing line tokens) = .ok (es, rest)) :
    es ≠ [] ∧ Spells (enclosed closing (layouts es)) tokens rest ∧
      ∀ e ∈ es, e.Written := by
  rw [reading_parseMoreItems] at h
  obtain ⟨⟨item, left⟩, first, h⟩ := bind_eq_ok_iff.1 h
  have shorter := length_lt_of_reading first
  obtain ⟨spelled, written⟩ := spells_of_parse first
  cases left with
  | nil => cases h
  | cons token left =>
    obtain ⟨token, at_line⟩ := token
    have shorter_left : left.length < tokens.length := Nat.lt_of_succ_lt shorter
    dsimp only at h
    split at h
    · next comma =>
      subst comma
      obtain ⟨⟨items, left₂⟩, more, h⟩ := bind_eq_ok_iff.1 h
      cases h
      obtain ⟨some_item, more_spelled, more_written⟩ := spells_of_parseMoreItems more
      obtain ⟨next_item, items, rfl⟩ := List.exists_cons_of_ne_nil some_item
      refine ⟨List.cons_ne_nil _ _, ?_, List.forall_mem_cons.2 ⟨written, more_written⟩⟩
      rw [layouts, layouts, enclosed_cons_cons, spells_append]
      refine ⟨_, spelled, ?_⟩
      rw [spells_free]
      exact ⟨at_line, left, rfl, more_spelled⟩
    · split at h
      · next closes =>
        cases h
        subst closes
        refine ⟨List.cons_ne_nil _ _, ?_, List.forall_mem_singleton.2 written⟩
        rw [layouts, layouts, enclosed_singleton, spells_append]
        refine ⟨_, spelled, ?_⟩
        rw [spells_free]
        exact ⟨at_line, _, rfl, spells_nil.2 rfl⟩
      · cases h
termination_by (tokens.length, 2)

end

/-! ### What is spelled is read -/

/-- Whatever follows the expression, short of an opening parenthesis, the readers come to the end of
the expression and go on with the method calls there. -/
def ReadBack (e : Expr) : Prop :=
  ∀ ⦃tokens rest⦄, Spells e.layout tokens rest → (∀ line more, rest ≠ (.openParen, line) :: more) →
    reading (parse tokens) = reading (parseMethods e rest)

/-- No expression goes on with these tokens. -/
def Ends (rest : List LocatedToken) : Prop :=
  ∀ token line more, rest = (token, line) :: more → token ≠ .dot ∧ token ≠ .openParen

theorem ends_nil : Ends [] := by
  rintro _ _ _ ⟨⟩

theorem ends_cons {token : Token} (not_dot : token ≠ .dot) (not_paren : token ≠ .openParen)
    (line : Nat) (more : List LocatedToken) : Ends ((token, line) :: more) := by
  rintro _ _ _ ⟨⟩
  exact ⟨not_dot, not_paren⟩

theorem Ends.not_paren {rest : List LocatedToken} (ends : Ends rest) :
    ∀ line more, rest ≠ (.openParen, line) :: more :=
  fun line more eq => (ends _ line more eq).2 rfl

/-- Items can be closed wherever an item has ended. -/
theorem ends_closing {closing : Token} (closes : closing = .closeBracket ∨ closing = .closeParen)
    (line : Nat) (more : List LocatedToken) : Ends ((closing, line) :: more) := by
  rcases closes with rfl | rfl
  · exact ends_cons (by simp) (by simp) line more
  · exact ends_cons (by simp) (by simp) line more

theorem reading_parseMethods_of_ends {rest : List LocatedToken} (ends : Ends rest) (e : Expr) :
    reading (parseMethods e rest) = .ok (e, rest) := by
  rw [reading_parseMethods]
  cases rest with
  | nil => rfl
  | cons token rest =>
    obtain ⟨token, line⟩ := token
    dsimp only
    rw [if_neg (ends token line rest rfl).1]

theorem reading_parseNamed_of_not_paren {rest : List LocatedToken}
    (not_paren : ∀ line more, rest ≠ (.openParen, line) :: more) (name : String) (line : Nat) :
    reading (parseNamed name line rest) = .ok (.reference name line, rest) := by
  rw [reading_parseNamed]
  cases rest with
  | nil => rfl
  | cons token rest =>
    obtain ⟨token, at_line⟩ := token
    have other : token ≠ .openParen := by
      rintro rfl
      exact not_paren at_line rest rfl
    dsimp only
    rw [if_neg other]

theorem ReadBack.reading_parse {e : Expr} (h : e.ReadBack) {tokens rest : List LocatedToken}
    (spelled : Spells e.layout tokens rest) (ends : Ends rest) :
    reading (parse tokens) = .ok (e, rest) := by
  rw [h spelled ends.not_paren, reading_parseMethods_of_ends ends]

theorem reading_parseMoreItems_of_spells {closing : Token}
    (closes : closing = .closeBracket ∨ closing = .closeParen) (line : Nat) {es : List Expr}
    (some_item : es ≠ []) (h : ∀ e ∈ es, e.ReadBack) {tokens rest : List LocatedToken}
    (spelled : Spells (enclosed closing (layouts es)) tokens rest) :
    reading (parseMoreItems closing line tokens) = .ok (es, rest) := by
  induction es generalizing tokens with
  | nil => exact absurd rfl some_item
  | cons item items ih =>
    have item_back := h item List.mem_cons_self
    rw [reading_parseMoreItems]
    cases items with
    | nil =>
      rw [layouts, layouts, enclosed_singleton, spells_append] at spelled
      obtain ⟨middle, first, last⟩ := spelled
      rw [spells_free] at last
      obtain ⟨at_line, more, rfl, last⟩ := last
      cases spells_nil.1 last
      have ends : Ends ((closing, at_line) :: rest) := ends_closing closes at_line rest
      have not_comma : closing ≠ .comma := by
        rcases closes with rfl | rfl
        · simp
        · simp
      rw [item_back.reading_parse first ends, ok_bind]
      dsimp only
      rw [if_neg not_comma, if_pos rfl]
      rfl
    | cons next items =>
      rw [layouts, layouts, enclosed_cons_cons, spells_append] at spelled
      obtain ⟨middle, first, more⟩ := spelled
      rw [spells_free] at more
      obtain ⟨at_line, left, rfl, more⟩ := more
      have read := ih (List.cons_ne_nil next items) (fun e mem => h e (List.mem_cons_of_mem _ mem)) more
      have ends : Ends ((.comma, at_line) :: left) := ends_cons (by simp) (by simp) at_line left
      rw [item_back.reading_parse first ends, ok_bind]
      dsimp only
      rw [if_pos rfl, read]
      rfl

theorem reading_parseItems_of_spells {closing : Token}
    (closes : closing = .closeBracket ∨ closing = .closeParen) (line : Nat) {es : List Expr}
    (h : ∀ e ∈ es, e.ReadBack) {tokens rest : List LocatedToken}
    (spelled : Spells (enclosed closing (layouts es)) tokens rest) :
    reading (parseItems closing line tokens) = .ok (es, rest) := by
  rw [reading_parseItems]
  cases es with
  | nil =>
    rw [layouts, enclosed_nil, spells_free] at spelled
    obtain ⟨at_line, more, rfl, last⟩ := spelled
    cases spells_nil.1 last
    dsimp only
    rw [if_pos rfl]
  | cons item items =>
    have read := reading_parseMoreItems_of_spells closes line (List.cons_ne_nil item items) h spelled
    cases tokens with
    | nil => exact read
    | cons token tokens =>
      obtain ⟨token, at_line⟩ := token
      dsimp only
      -- An item does not begin with a closing token: none can be read from it.
      have not_closing : token ≠ closing := by
        rintro rfl
        rw [reading_parseMoreItems, Expr.reading_parse, reading_parsePrimary] at read
        rcases closes with rfl | rfl
        · cases read
        · cases read
      rw [if_neg not_closing]
      exact read

theorem Written.readBack {e : Expr} (h : e.Written) : e.ReadBack := by
  induction h with
  | literal value line =>
    intro tokens rest spelled _
    simp only [layout, spells_bound, spells_nil] at spelled
    obtain ⟨_, rfl, rfl⟩ := spelled
    rw [Expr.reading_parse, reading_parsePrimary]
    cases value with
    | integer n => rfl
    | text t => rfl
  | reference name line =>
    intro tokens rest spelled not_paren
    simp only [layout, spells_bound, spells_nil] at spelled
    obtain ⟨rest, rfl, rfl⟩ := spelled
    rw [Expr.reading_parse, reading_parsePrimary]
    show (reading (parseNamed name line rest) >>= _) = _
    rw [reading_parseNamed_of_not_paren not_paren]
    rfl
  | list parts line ih =>
    intro tokens rest spelled _
    rw [layout, spells_bound] at spelled
    obtain ⟨more, rfl, items⟩ := spelled
    have read := reading_parseItems_of_spells (.inl rfl) line ih items
    rw [Expr.reading_parse, reading_parsePrimary]
    dsimp only
    rw [if_pos rfl, read]
    rfl
  | call name parts line ih =>
    intro tokens rest spelled _
    simp only [layout, spells_bound, spells_free] at spelled
    obtain ⟨_, rfl, at_line, more, rfl, items⟩ := spelled
    have read := reading_parseItems_of_spells (.inr rfl) line ih items
    rw [Expr.reading_parse, reading_parsePrimary]
    show (reading (parseNamed name line _) >>= _) = _
    rw [reading_parseNamed]
    dsimp only
    rw [if_pos rfl, read]
    rfl
  | method object name parts line ih_object ih =>
    intro tokens rest spelled _
    simp only [layout, spells_append, spells_bound, spells_free] at spelled
    obtain ⟨_, first, _, rfl, name_line, _, rfl, paren_line, _, rfl, items⟩ := spelled
    have read := reading_parseItems_of_spells (.inr rfl) line ih items
    rw [ih_object first (by simp), reading_parseMethods]
    dsimp only
    rw [if_pos rfl, reading_expectName_ok_iff.2 ⟨name_line, rfl⟩, ok_bind]
    dsimp only
    rw [reading_expectToken_ok_iff.2 ⟨paren_line, rfl⟩, ok_bind]
    dsimp only
    rw [read, ok_bind]

end Expr

/-! ### Statements and programs -/

namespace Statement

theorem spells_of_parse {tokens rest : List LocatedToken} {s : Statement}
    (h : reading (parse tokens) = .ok (s, rest)) : Spells s.layout tokens rest ∧ s.Written := by
  rw [reading_parse] at h
  cases tokens with
  | nil => cases h
  | cons token tokens =>
    obtain ⟨token, line⟩ := token
    dsimp only at h
    split at h
    · next printed =>
      subst printed
      rw [reading_parsePrint] at h
      obtain ⟨⟨⟨⟩, left₁⟩, paren, h⟩ := bind_eq_ok_iff.1 h
      obtain ⟨⟨count, left₂⟩, counted, h⟩ := bind_eq_ok_iff.1 h
      obtain ⟨⟨⟨⟩, left₃⟩, comma, h⟩ := bind_eq_ok_iff.1 h
      obtain ⟨⟨e, left₄⟩, read, h⟩ := bind_eq_ok_iff.1 h
      obtain ⟨⟨⟨⟩, left₅⟩, closed, h⟩ := bind_eq_ok_iff.1 h
      cases h
      obtain ⟨paren_line, rfl⟩ := reading_expectToken_ok_iff.1 paren
      obtain ⟨le, count_line, rfl⟩ := reading_parseCount_ok_iff.1 counted
      obtain ⟨comma_line, rfl⟩ := reading_expectToken_ok_iff.1 comma
      obtain ⟨close_line, rfl⟩ := reading_expectToken_ok_iff.1 closed
      obtain ⟨spelled, written⟩ := Expr.spells_of_parse read
      refine ⟨?_, le, written⟩
      simp only [layout, List.cons_append, spells_bound, spells_free, spells_append, spells_nil]
      exact ⟨_, rfl, paren_line, _, rfl, count_line, _, rfl, comma_line, _, rfl, _, spelled,
        close_line, _, rfl, rfl⟩
    · split at h
      · next name named =>
        cases Token.name?_eq_some_iff.1 named
        rw [reading_parseDefinition] at h
        obtain ⟨⟨⟨⟩, left₁⟩, equals, h⟩ := bind_eq_ok_iff.1 h
        obtain ⟨⟨value, left₂⟩, read, h⟩ := bind_eq_ok_iff.1 h
        cases h
        obtain ⟨equals_line, rfl⟩ := reading_expectToken_ok_iff.1 equals
        obtain ⟨spelled, written⟩ := Expr.spells_of_parse read
        refine ⟨?_, written⟩
        simp only [layout, spells_bound, spells_free]
        exact ⟨_, rfl, equals_line, _, rfl, spelled⟩
      · cases h

theorem reading_parse_of_spells {s : Statement} (written : s.Written)
    {tokens rest : List LocatedToken} (spelled : Spells s.layout tokens rest)
    (ends : Expr.Ends rest) : reading (parse tokens) = .ok (s, rest) := by
  cases s with
  | define name value line =>
    simp only [layout, spells_bound, spells_free] at spelled
    obtain ⟨_, rfl, equals_line, _, rfl, spelled⟩ := spelled
    have read := (Expr.Written.readBack written).reading_parse spelled ends
    rw [reading_parse]
    show reading (parseDefinition name line _) = _
    rw [reading_parseDefinition, reading_expectToken_ok_iff.2 ⟨equals_line, rfl⟩, ok_bind]
    dsimp only
    rw [read]
    rfl
  | print count e line =>
    obtain ⟨le, written⟩ := written
    simp only [layout, List.cons_append, spells_bound, spells_free, spells_append, spells_nil]
      at spelled
    obtain ⟨_, rfl, paren_line, _, rfl, count_line, _, rfl, comma_line, _, rfl, _, spelled,
      close_line, rest, rfl, rfl⟩ := spelled
    have closes : Expr.Ends ((.closeParen, close_line) :: rest) :=
      Expr.ends_closing (.inr rfl) close_line rest
    have read := (Expr.Written.readBack written).reading_parse spelled closes
    rw [reading_parse]
    dsimp only
    rw [if_pos rfl, reading_parsePrint, reading_expectToken_ok_iff.2 ⟨paren_line, rfl⟩, ok_bind]
    dsimp only
    rw [reading_parseCount_ok_iff.2 ⟨le, count_line, rfl⟩, ok_bind]
    dsimp only
    rw [reading_expectToken_ok_iff.2 ⟨comma_line, rfl⟩, ok_bind]
    dsimp only
    rw [read, ok_bind]
    dsimp only
    rw [reading_expectToken_ok_iff.2 ⟨close_line, rfl⟩]
    rfl

/-- A statement begins with a name or with the keyword. -/
theorem ends_of_spells {s : Statement} {tokens rest : List LocatedToken}
    (spelled : Spells s.layout tokens rest) : Expr.Ends tokens := by
  cases s with
  | define name value line =>
    simp only [layout, spells_bound] at spelled
    obtain ⟨more, rfl, -⟩ := spelled
    exact Expr.ends_cons (by simp) (by simp) line more
  | print count e line =>
    simp only [layout, List.cons_append, spells_bound] at spelled
    obtain ⟨more, rfl, -⟩ := spelled
    exact Expr.ends_cons (by simp) (by simp) line more

end Statement

namespace Program

variable {p : Program} {tokens : List LocatedToken}

theorem writtenAs_nil : WrittenAs [] tokens ↔ tokens = [] := by
  constructor
  · rintro ⟨-, fits⟩
    cases fits
    rfl
  · rintro rfl
    exact ⟨List.forall_mem_nil _, .nil⟩

theorem writtenAs_cons {s : Statement} : WrittenAs (s :: p) tokens ↔
    s.Written ∧ ∃ rest, Spells s.layout tokens rest ∧ p.WrittenAs rest := by
  simp only [WrittenAs, ← spells_iff_forall₂, layout, List.flatMap_cons, spells_append,
    List.forall_mem_cons]
  constructor
  · rintro ⟨⟨written, others⟩, rest, spelled, more⟩
    exact ⟨written, rest, spelled, others, more⟩
  · rintro ⟨written, rest, spelled, others, more⟩
    exact ⟨⟨written, others⟩, rest, spelled, more⟩

theorem WrittenAs.ends (h : p.WrittenAs tokens) : Expr.Ends tokens := by
  cases p with
  | nil =>
    rw [writtenAs_nil] at h
    subst h
    exact Expr.ends_nil
  | cons s p =>
    obtain ⟨-, rest, spelled, -⟩ := writtenAs_cons.1 h
    exact s.ends_of_spells spelled

theorem writtenAs_of_ofTokens (h : ofTokens tokens = .ok p) : p.WrittenAs tokens := by
  induction p generalizing tokens with
  | nil =>
    cases tokens with
    | nil => exact writtenAs_nil.2 rfl
    | cons token tokens =>
      rw [ofTokens_cons] at h
      obtain ⟨⟨s, rest⟩, first, h⟩ := bind_eq_ok_iff.1 h
      obtain ⟨others, -, h⟩ := bind_eq_ok_iff.1 h
      cases h
  | cons s p ih =>
    cases tokens with
    | nil =>
      rw [ofTokens] at h
      cases h
    | cons token tokens =>
      rw [ofTokens_cons] at h
      obtain ⟨⟨s, rest⟩, first, h⟩ := bind_eq_ok_iff.1 h
      obtain ⟨others, more, h⟩ := bind_eq_ok_iff.1 h
      cases h
      obtain ⟨spelled, written⟩ := s.spells_of_parse first
      exact writtenAs_cons.2 ⟨written, rest, spelled, ih more⟩

theorem WrittenAs.ofTokens_eq (h : p.WrittenAs tokens) : ofTokens tokens = .ok p := by
  induction p generalizing tokens with
  | nil =>
    rw [writtenAs_nil] at h
    subst h
    rw [ofTokens]
  | cons s p ih =>
    obtain ⟨written, rest, spelled, more⟩ := writtenAs_cons.1 h
    have first := s.reading_parse_of_spells written spelled more.ends
    cases tokens with
    | nil =>
      rw [Statement.reading_parse] at first
      cases first
    | cons token tokens =>
      rw [ofTokens_cons, first, ok_bind]
      dsimp only
      rw [ih more]
      rfl

/-- The reader accepts exactly the token lists that spell a program, and reads the program they
spell. There is never more than one, so no list of tokens can be understood in two ways. -/
theorem ofTokens_exact (tokens : List LocatedToken) :
    (∀ p, ofTokens tokens = .ok p ↔ p.WrittenAs tokens) ∧
      ∀ p q : Program, p.WrittenAs tokens → q.WrittenAs tokens → p = q := by
  refine ⟨fun p => ⟨writtenAs_of_ofTokens, WrittenAs.ofTokens_eq⟩, fun p q written other => ?_⟩
  have same : Except.ok p = Except.ok (ε := SyntaxFault) q :=
    written.ofTokens_eq.symm.trans other.ofTokens_eq
  exact Except.ok.inj same

end Program

end Phrasemill
