import Mathlib
import Phrasemill.Proofs.History.Order

/-!
# Captured definitions

A definition captures the rules it refers to as they are when it is made. If no name is defined twice,
then what was captured is what the names stand for to the end (`History.everywhere_isCurrent`).
-/

namespace Phrasemill

namespace Expr

/-- If the expression is a captured rule, then the rule still is what was captured. -/
def IsCurrent (g : Grammar) : Expr → Prop
  | rule name body _ => g.find? name = some body
  | _ => True

theorem ofKinds_isCurrent (g : Grammar) : Grammar.OfKinds (IsCurrent g) :=
  ⟨fun _ _ => trivial, fun _ _ => trivial, fun _ _ _ _ _ => trivial, fun _ _ _ _ _ _ _ => trivial⟩

/-- No rule has been captured in an expression that was written down. -/
theorem Written.everywhere_isCurrent {e : Expr} (h : e.Written) (g : Grammar) :
    Everywhere ∅ (IsCurrent g) e := by
  induction h with
  | literal value line => exact everywhere_literal trivial
  | reference name line =>
    refine .intro trivial fun part is_part => ?_
    cases is_part with
    | defined _ found => cases found
  | list _ line ih => exact everywhere_list trivial ih
  | call name _ line ih => exact everywhere_call trivial ih
  | method _ name _ line ih_receiver ih => exact everywhere_method trivial ih_receiver ih

/-- What is captured in an expression and in the rules of a grammar is all that is captured in what
can be reached from the expression. -/
theorem Everywhere.of_bodies {g : Grammar} {P : Expr → Prop}
    (bodies : ∀ name body, g.find? name = some body → Everywhere ∅ P body) {e : Expr}
    (h : Everywhere ∅ P e) : Everywhere g P e := by
  have along {part : Expr} (reached : Relation.ReflTransGen (Part g) e part) :
      Everywhere ∅ P part := by
    induction reached with
    | refl => exact h
    | tail _ is_part ih =>
      cases is_part with
      | element mem line => exact ih.part (.element mem line)
      | argument mem name line => exact ih.part (.argument mem name line)
      | receiver => exact ih.part (.receiver _ _ _ _)
      | operand mem receiver name line => exact ih.part (.operand mem receiver name line)
      | captured => exact ih.part (.captured _ _ _)
      | defined _ found => exact bodies _ _ found
  exact fun part reached => (along reached).self

end Expr

namespace History

/-- No definition that follows takes the place of one that was captured. -/
theorem everywhere_isCurrent_of_find? {h : History} (once : (h.map Prod.fst).Nodup)
    (written : ∀ d ∈ h, d.2.Written) {name : String} {body : Expr}
    (found : h.grammar.find? name = some body) :
    Expr.Everywhere ∅ (Expr.IsCurrent h.grammar) body := by
  induction h generalizing name body with
  | nil => cases found
  | cons d earlier ih =>
    obtain ⟨defined, definition⟩ := d
    obtain ⟨fresh, once_earlier⟩ := List.nodup_cons.1 once
    obtain ⟨written_here, written_earlier⟩ := List.forall_mem_cons.1 written
    have absent : (grammar earlier).find? defined = none := by
      rw [find?_grammar, latest?_eq_none_iff.2 fresh]
      rfl
    have kept {part : Expr} (current : part.IsCurrent (grammar earlier)) :
        part.IsCurrent (grammar ((defined, definition) :: earlier)) := by
      cases part with
      | rule other captured line =>
        have other_ne : other ≠ defined := by
          rintro rfl
          cases absent.symm.trans current
        rw [Expr.IsCurrent, grammar, Grammar.find?_define, if_neg other_ne]
        exact current
      | _ => trivial
    have mono {e : Expr} (h : e.Everywhere ∅ (Expr.IsCurrent (grammar earlier))) :
        e.Everywhere ∅ (Expr.IsCurrent (grammar ((defined, definition) :: earlier))) :=
      fun part reached => kept (h part reached)
    rw [grammar, Grammar.find?_define] at found
    split at found
    · cases found
      refine mono (Grammar.everywhere_resolve (Expr.ofKinds_isCurrent _) (fun _ _ _ => id) ?_
        (written_here.everywhere_isCurrent _))
      exact fun _ _ _ _ found _ => ih once_earlier written_earlier found
    · exact mono (ih once_earlier written_earlier found)

/-- Where no name is defined twice, every captured rule that an expression leads to is current. -/
theorem everywhere_isCurrent {h : History} (once : (h.map Prod.fst).Nodup)
    (written : ∀ d ∈ h, d.2.Written) {e : Expr} (written_down : e.Written) :
    (h.grammar.resolve e).Everywhere h.grammar (Expr.IsCurrent h.grammar) := by
  have bodies (name : String) (body : Expr) (found : h.grammar.find? name = some body) :=
    everywhere_isCurrent_of_find? once written found
  refine Expr.Everywhere.of_bodies bodies ?_
  refine Grammar.everywhere_resolve (Expr.ofKinds_isCurrent _) (fun _ _ _ => id) ?_
    (written_down.everywhere_isCurrent _)
  exact fun _ _ _ _ found _ => bodies _ _ found

end History

end Phrasemill
