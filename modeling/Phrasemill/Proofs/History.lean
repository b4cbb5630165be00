import Mathlib
import Phrasemill.Proofs.Lookup
import Phrasemill.Proofs.Resolution
import Phrasemill.Session

/-!
# What a grammar remembers of its definitions

A grammar stores each rule resolved: earlier rules are taken up, calls are folded, and only names
that nothing stood for yet are left. `History.evaluate` knows none of this. It keeps every definition
as it was written, with those that came before it, and decides what a name means where the name
stands. Both evaluate alike, as whole generators, so that they agree on values, faults, randomness
and draws (`evaluate_resolve`).
-/

namespace Phrasemill

namespace Grammar

theorem find?_put (g : Grammar) (name other : String) (body : Expr) :
    (g.put name body).find? other = if other = name then some body else g.find? other := by
  unfold put
  split
  · next found => exact lookup_replaced_of_isSome found other body
  · next absent => exact lookup_concat_of_not_isSome absent other body

theorem find?_define (g : Grammar) (name other : String) (body : Expr) :
    (g.define name body).find? other =
      if other = name then some (g.resolve body) else g.find? other :=
  g.find?_put name other (g.resolve body)

end Grammar

/-- Definitions as they were written, the latest first. -/
abbrev History := List (String × Expr)

namespace History

/-- The grammar that the definitions make when they are made in order. -/
def grammar : History → Grammar
  | [] => ∅
  | (name, body) :: earlier => (grammar earlier).define name body

/-- The latest definition of a name and the definitions before that. -/
def latest? (name : String) : History → Option (Expr × History)
  | [] => none
  | (defined, body) :: earlier =>
    if name = defined then some (body, earlier) else latest? name earlier

theorem find?_grammar (h : History) (name : String) :
    h.grammar.find? name = (h.latest? name).map fun d => d.2.grammar.resolve d.1 := by
  induction h with
  | nil => rfl
  | cons d earlier ih =>
    obtain ⟨defined, body⟩ := d
    rw [grammar, Grammar.find?_define, latest?]
    by_cases same : name = defined
    · rw [if_pos same, if_pos same]
      rfl
    · rw [if_neg same, if_neg same, ih]

theorem length_lt_of_latest? {h before : History} {name : String} {body : Expr}
    (known : h.latest? name = some (body, before)) : before.length < h.length := by
  induction h with
  | nil => cases known
  | cons d earlier ih =>
    rw [latest?] at known
    rw [List.length_cons]
    split at known
    · cases known
      exact Nat.lt_succ_self _
    · exact Nat.lt_succ_of_lt (ih known)

theorem mem_names_of_latest? {h before : History} {name : String} {body : Expr}
    (known : h.latest? name = some (body, before)) : name ∈ h.grammar.names := by
  have found : h.grammar.find? name = some (before.grammar.resolve body) := by
    rw [find?_grammar, known, Option.map_some]
  exact Grammar.mem_names_of_find? found

/-! ### Evaluating what was written -/

mutual

/-- Evaluates an expression that was written behind the definitions `earlier`, of all that there
are. A name means the category, the latest of the earlier definitions, or else the latest of all. -/
def evaluate (all : History) (count : Nat) (active : List String) (earlier : History) :
    Expr → Generator Batch
  | .literal constant _ => return .constant constant.toValue count
  | .reference name line =>
    match Category.ofName? name with
    | some category => return .constant (.category category) count
    | none =>
      match known : earlier.latest? name with
      | some (body, before) =>
        have := length_lt_of_latest? known
        evaluate all count (name :: active) before body
      | none =>
        match found : all.latest? name with
        | none => throw (.ruleNotFound name line)
        | some (body, before) =>
          if fresh : name ∈ active then throw (.cyclicRule name line)
          else
            have := Grammar.unentered_cons_lt (mem_names_of_latest? found) fresh
            evaluate all count (name :: active) before body
  -- No rule is written down in this form; its body would stand behind no definition.
  | .rule name body _ => evaluate all count (name :: active) [] body
  | .list elements _ => do
    let columns ← evaluateAll all count active earlier elements
    return Batch.lists columns count
  | .call name arguments line => do
    let b ← Generator.check (Builtin.resolveName name line)
    Generator.check (b.checkArity arguments.length line)
    let columns ← evaluateAll all count active earlier arguments
    b.apply ⟨active.head?, line⟩ columns count
  | .method receiver name arguments line => do
    let object ← evaluate all count active earlier receiver
    let (category, first) := Expr.receiverRole object
    let b ← Generator.check (Builtin.resolveMethod category name line)
    Generator.check (b.checkArity (first.length + arguments.length) line)
    let columns ← evaluateAll all count active earlier arguments
    b.apply ⟨active.head?, line⟩ (first ++ columns) count
termination_by e => (all.grammar.unentered active, earlier.length, sizeOf e)
decreasing_by
  · exact Prod.Lex.right' _ (all.grammar.unentered_cons_le name active) (Prod.Lex.left _ _ this)
  · exact Prod.Lex.left _ _ this
  · exact Prod.Lex.right' _ (all.grammar.unentered_cons_le name active)
      (Prod.Lex.right' _ (Nat.zero_le _) (by decreasing_tactic))
  all_goals exact Prod.Lex.right _ (Prod.Lex.right _ (by decreasing_tactic))

def evaluateAll (all : History) (count : Nat) (active : List String) (earlier : History) :
    List Expr → Generator (List Batch)
  | [] => return []
  | e :: es => do
    let column ← evaluate all count active earlier e
    let columns ← evaluateAll all count active earlier es
    return column :: columns
termination_by es => (all.grammar.unentered active, earlier.length, sizeOf es)
decreasing_by
  all_goals exact Prod.Lex.right _ (Prod.Lex.right _ (by decreasing_tactic))

end

/-! ### What a name means -/

variable (all : History) (count : Nat)

section Reference

variable (active : List String) {earlier before : History} {name : String} {body : Expr}

theorem evaluate_category {category : Category} (named : Category.ofName? name = some category)
    (earlier : History) (line : Nat) :
    evaluate all count active earlier (.reference name line) =
      pure (.constant (.category category) count) := by
  rw [evaluate, named]

theorem evaluate_known (unnamed : Category.ofName? name = none)
    (known : earlier.latest? name = some (body, before)) (line : Nat) :
    evaluate all count active earlier (.reference name line) =
      evaluate all count (name :: active) before body := by
  rw [evaluate, unnamed]
  dsimp only
  split
  · next eq =>
    rw [known] at eq
    cases eq
    rfl
  · next eq =>
    rw [known] at eq
    cases eq

theorem evaluate_unknown (unnamed : Category.ofName? name = none)
    (unknown : earlier.latest? name = none) (line : Nat) :
    evaluate all count active earlier (.reference name line) =
      match all.latest? name with
      | none => throw (.ruleNotFound name line)
      | some (body, before) =>
        if name ∈ active then throw (.cyclicRule name line)
        else evaluate all count (name :: active) before body := by
  rw [evaluate, unnamed]
  dsimp only
  split
  · next eq =>
    rw [unknown] at eq
    cases eq
  · split
    · next found => rw [found]
    · next found =>
      conv_rhs => rw [found]
      rfl

end Reference

/-! ### A grammar evaluates what was written -/

mutual

/-- What is resolved against the earlier definitions evaluates, with all of them, to what was
written. -/
theorem evaluate_resolve (active : List String) (earlier : History) (e : Expr) :
    (earlier.grammar.resolve e).evaluate all.grammar count active =
      evaluate all count active earlier e := by
  cases e with
  | literal value line => rw [Grammar.resolve, Expr.evaluate, evaluate]
  | reference name line =>
    rw [Grammar.resolve]
    cases named : Category.ofName? name with
    | some category =>
      rw [Grammar.resolveName_of_category named, evaluate_category all count active named,
        Expr.evaluate_category _ count active named]
    | none =>
      cases known : earlier.latest? name with
      | some d =>
        obtain ⟨body, before⟩ := d
        have taken : earlier.grammar.find? name = some (before.grammar.resolve body) := by
          rw [find?_grammar, known, Option.map_some]
        rw [Grammar.evaluate_resolveName named taken, evaluate_known all count active named known]
        have := length_lt_of_latest? known
        exact evaluate_resolve (name :: active) before body
      | none =>
        have left : earlier.grammar.find? name = none := by
          rw [find?_grammar, known, Option.map_none]
        rw [Grammar.resolveName_of_find?_eq_none left, Expr.evaluate_reference _ count active named,
          evaluate_unknown all count active named known, find?_grammar]
        cases found : all.latest? name with
        | none => rfl
        | some d =>
          obtain ⟨body, before⟩ := d
          rw [Option.map_some]
          dsimp only
          split
          · rfl
          · next fresh =>
            have := Grammar.unentered_cons_lt (mem_names_of_latest? found) fresh
            exact evaluate_resolve (name :: active) before body
  | rule name body line =>
    rw [Grammar.resolve, Expr.evaluate_rule, evaluate, ← evaluate_resolve (name :: active) [] body]
    have no_rules := Grammar.enterable_empty all.grammar (name :: active)
    exact (Grammar.evaluate_resolve_of_enterable no_rules count body).symm
  | list elements line =>
    rw [Grammar.resolve, Expr.evaluate, evaluate, evaluateAll_resolveAll active earlier elements]
  | call name arguments line =>
    rw [Grammar.resolve, Grammar.evaluate_getD_foldCall?, Expr.evaluate, evaluate,
      Grammar.length_resolveAll, evaluateAll_resolveAll active earlier arguments]
  | method receiver name arguments line =>
    rw [Grammar.resolve, Grammar.evaluate_getD_foldMethod?, Expr.evaluate, evaluate,
      evaluate_resolve active earlier receiver, Grammar.length_resolveAll,
      evaluateAll_resolveAll active earlier arguments]
termination_by (all.grammar.unentered active, earlier.length, sizeOf e)
decreasing_by
  · exact Prod.Lex.left _ _ this
  · exact Prod.Lex.right' _ (all.grammar.unentered_cons_le name active) (Prod.Lex.left _ _ this)
  · exact Prod.Lex.right _ (Prod.Lex.right _ (by decreasing_tactic))
  · exact Prod.Lex.right _ (Prod.Lex.right _ (by decreasing_tactic))
  · exact Prod.Lex.right _ (Prod.Lex.right _ (by decreasing_tactic))
  · exact Prod.Lex.right _ (Prod.Lex.right _ (by decreasing_tactic))
  · exact Prod.Lex.right' _ (all.grammar.unentered_cons_le name active)
      (Prod.Lex.right' _ (Nat.zero_le _) (by decreasing_tactic))

theorem evaluateAll_resolveAll (active : List String) (earlier : History) (es : List Expr) :
    Expr.evaluateAll all.grammar count active (earlier.grammar.resolveAll es) =
      evaluateAll all count active earlier es := by
  cases es with
  | nil => rw [Grammar.resolveAll, Expr.evaluateAll, evaluateAll]
  | cons e es =>
    rw [Grammar.resolveAll, Expr.evaluateAll, evaluateAll, evaluate_resolve active earlier e,
      evaluateAll_resolveAll active earlier es]
termination_by (all.grammar.unentered active, earlier.length, sizeOf es)
decreasing_by
  all_goals exact Prod.Lex.right _ (Prod.Lex.right _ (by decreasing_tactic))

end

/-! ### Sessions -/

theorem grammar_reverse (definitions : List (String × Expr)) :
    grammar definitions.reverse = definitions.foldl (fun g d => g.define d.1 d.2) ∅ := by
  have (h : History) : h.grammar = h.foldr (fun d g => g.define d.1 d.2) ∅ := by
    induction h with
    | nil => rfl
    | cons d earlier ih =>
      rw [grammar, ih]
      rfl
  rw [this, List.foldr_reverse]

/-- A session whose grammar was made by definitions generates what they and the expression say as
they were written. -/
theorem generate_of_definitions {s : Session} {definitions : List (String × Expr)}
    (defined : s.grammar = definitions.foldl (fun g d => g.define d.1 d.2) ∅) {e : Expr}
    {count : Nat} (in_one_piece : s.partition.applies (s.grammar.resolve e) count = false) :
    let written := evaluate definitions.reverse count [] definitions.reverse e
    (s.grammar.resolve e).evaluate s.grammar count [] = written ∧
      let outcome := written.outcome s.master.fork.1 s.pool
      s.generate e count =
        (outcome.result, { s with master := s.master.fork.2, pool := outcome.pool }) := by
  rw [← grammar_reverse] at defined
  have same := evaluate_resolve definitions.reverse count [] definitions.reverse e
  rw [← defined] at same
  refine ⟨same, ?_⟩
  rw [Session.generate, Partition.run, in_one_piece, if_neg Bool.false_ne_true,
    Partition.runWhole, same]

/-- A rule that extends itself and has a part that is defined only later. -/
theorem generate_of_definitions_of_extended :
    let definitions :=
      [("word", .call "append" [.reference "end" 1, .literal (.text "b") 1] 1),
        ("word", .call "append" [.literal (.text "c") 2, .reference "word" 2] 2),
        ("end", .literal (.text "a") 3)]
    let s : Session :=
      { Session.start {} with grammar := definitions.foldl (fun g d => g.define d.1 d.2) ∅ }
    s.partition.applies (s.grammar.resolve (.reference "word" 4)) 2 = false ∧
      (s.generate (.reference "word" 4) 2).1 = .ok (.constant (.text "cab") 2) := by
  intro definitions s
  have in_one_piece : s.partition.applies (s.grammar.resolve (.reference "word" 4)) 2 = false := rfl
  refine ⟨in_one_piece, ?_⟩
  have defined : s.grammar = definitions.foldl (fun g d => g.define d.1 d.2) ∅ := rfl
  rw [(generate_of_definitions defined in_one_piece).2]
  simp [evaluate, evaluateAll, definitions, latest?]
  rfl

end History

end Phrasemill
