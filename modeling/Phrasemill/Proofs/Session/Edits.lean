import Mathlib
import Phrasemill.Proofs.History
import Phrasemill.Proofs.Quiet
import Phrasemill.Proofs.Session

/-!
# Editing what was printed before

A print statement takes one fork of the master source, whatever it prints and however it ends, and a
definition takes none. So what statements leave behind of a session besides its pool is known from
their definitions and the number of their prints (`grammar_processAll`, `master_processAll`), and a
statement that draws nothing cannot tell what was printed before it (`process_print_of_edited`).
-/

namespace Phrasemill

/-- Resolving adds no draws: what a reference is replaced by was reached from it before. -/
theorem Grammar.drawsNothing_resolve {g : Grammar} {e : Expr} (silent : e.DrawsNothing g) :
    (g.resolve e).DrawsNothing g := by
  refine everywhere_resolve ⟨fun _ _ => trivial, fun _ _ => trivial, fun _ _ _ _ => id,
    fun _ _ _ _ _ _ => id⟩ (fun _ _ _ _ => trivial) ?_ silent
  exact fun name body line unnamed found here => here.part (.defined unnamed found line)

/-! ### What statements leave behind -/

/-- The name and the body that a statement defines. -/
def Statement.definition? : Statement → Option (String × Expr)
  | .define name body _ => some (name, body)
  | .print _ _ _ => none

namespace Program

/-- The definitions of a program in their order. -/
def definitions (p : Program) : List (String × Expr) := p.filterMap Statement.definition?

/-- How many print statements a program has. -/
def prints (p : Program) : Nat := p.countP fun statement => statement.definition?.isNone

end Program

namespace Session

theorem settings_process (statement : Statement) (s : Session) :
    (s.process statement).2.settings = s.settings := by
  cases statement with
  | define name body line => rfl
  | print count e line =>
    rw [process_print]
    rfl

theorem grammar_process (statement : Statement) (s : Session) :
    (s.process statement).2.grammar =
      statement.definition?.elim s.grammar fun d => s.grammar.define d.1 d.2 := by
  cases statement with
  | define name body line => rfl
  | print count e line =>
    rw [process_print]
    rfl

/-- A print statement takes one fork of the master source. -/
theorem master_process {s : Session} (single : s.settings.workers ≤ 1) (statement : Statement) :
    (s.process statement).2.master =
      if statement.definition?.isNone then s.master.fork.2 else s.master := by
  cases statement with
  | define name body line => rfl
  | print count e line =>
    rw [process_print, generate_of_workers_le_one single]
    rfl

theorem settings_processAll (p : Program) (s : Session) :
    (s.processAll p).2.settings = s.settings := by
  induction p generalizing s with
  | nil => rfl
  | cons statement p ih => rw [processAll_cons, ih, settings_process]

theorem grammar_processAll (p : Program) (s : Session) :
    (s.processAll p).2.grammar =
      p.definitions.foldl (fun g d => g.define d.1 d.2) s.grammar := by
  induction p generalizing s with
  | nil => rfl
  | cons statement p ih =>
    rw [processAll_cons, ih, grammar_process, Program.definitions, Program.definitions,
      List.filterMap_cons]
    cases statement.definition? with
    | none => rfl
    | some d => rfl

theorem master_processAll (p : Program) {s : Session} (single : s.settings.workers ≤ 1) :
    (s.processAll p).2.master = (fun master => master.fork.2)^[p.prints] s.master := by
  induction p generalizing s with
  | nil => rfl
  | cons statement p ih =>
    have still_single : (s.process statement).2.settings.workers ≤ 1 := by
      rw [settings_process]
      exact single
    rw [processAll_cons, ih still_single, master_process single, Program.prints, Program.prints,
      List.countP_cons]
    cases statement.definition? with
    | none => rfl
    | some d => rfl

/-! ### Statements that draw nothing -/

/-- What a statement that draws nothing prints is settled by the rules and the randomness. -/
theorem process_print_of_drawsNothing {s : Session} (single : s.settings.workers ≤ 1) {e : Expr}
    (silent : e.DrawsNothing s.grammar) (count line : Nat) :
    (s.process (.print count e line)).1 =
      (((s.grammar.resolve e).evaluate s.grammar count []).outcome s.master.fork.1 ∅).result.map
        fun batch => some (linesOf s.settings batch) := by
  have quiet : ((s.grammar.resolve e).evaluate s.grammar count []).Quiet :=
    Expr.quiet_evaluate (Grammar.drawsNothing_resolve silent)
  rw [process_print, generate_of_workers_le_one single, quiet.same_outcome]

/-- On a single worker, a print statement that draws nothing has the same lines or the same fault
behind all programs that have the same definitions and as many prints. -/
theorem process_print_of_edited {s : Session} (single : s.settings.workers ≤ 1) {p q : Program}
    (same_definitions : p.definitions = q.definitions) (same_prints : p.prints = q.prints)
    {e : Expr} (silent : e.DrawsNothing (s.processAll p).2.grammar) (count line : Nat) :
    ((s.processAll p).2.process (.print count e line)).1 =
      ((s.processAll q).2.process (.print count e line)).1 := by
  have single_after (r : Program) : (s.processAll r).2.settings.workers ≤ 1 := by
    rw [settings_processAll]
    exact single
  have same_grammar : (s.processAll p).2.grammar = (s.processAll q).2.grammar := by
    rw [grammar_processAll, grammar_processAll, same_definitions]
  have same_master : (s.processAll p).2.master = (s.processAll q).2.master := by
    rw [master_processAll p single, master_processAll q single, same_prints]
  have same_settings : (s.processAll p).2.settings = (s.processAll q).2.settings := by
    rw [settings_processAll, settings_processAll]
  rw [process_print_of_drawsNothing (single_after p) silent,
    process_print_of_drawsNothing (single_after q) (same_grammar ▸ silent), same_grammar,
    same_master, same_settings]

/-- Three rolls of a die, behind a draw and a fault or behind other statements. -/
theorem process_print_of_edited_of_die :
    let roll := Expr.method (.reference "number" 1) "between"
      [.literal (.integer 1) 1, .literal (.integer 6) 1] 1
    let pick := Expr.call "one_of_unique" [.literal (.text "a") 2] 2
    let p : Program :=
      [.define "die" roll 1, .print 1 pick 2, .print 0 (.reference "missing" 3) 3]
    let q : Program :=
      [.print 5 (.literal (.text "b") 1) 1, .print 2 pick 2, .define "die" roll 3]
    let s := start {}
    let e := Expr.reference "die" 4
    s.settings.workers ≤ 1 ∧ p.definitions = q.definitions ∧ p.prints = q.prints ∧
      e.DrawsNothing (s.processAll p).2.grammar ∧
      ((s.processAll p).2.process (.print 3 e 4)).1 =
        ((s.processAll q).2.process (.print 3 e 4)).1 := by
  intro roll pick p q s e
  have single : s.settings.workers ≤ 1 := le_refl 1
  have silent : e.DrawsNothing (s.processAll p).2.grammar := by
    rw [grammar_processAll]
    have found : (p.definitions.foldl (fun g d => g.define d.1 d.2) s.grammar).find? "die" =
        some roll := rfl
    exact Expr.everywhere_reference trivial found (Expr.everywhere_method (by decide)
      (Expr.everywhere_category trivial rfl)
      (Expr.everywhere_literals (fun _ => trivial) [.integer 1, .integer 6]))
  have same_definitions : p.definitions = q.definitions := rfl
  have same_prints : p.prints = q.prints := rfl
  exact ⟨single, same_definitions, same_prints, silent,
    process_print_of_edited single same_definitions same_prints silent 3 4⟩

end Session

end Phrasemill
