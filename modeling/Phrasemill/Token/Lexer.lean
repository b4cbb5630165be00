import Phrasemill.SyntaxFault
import Phrasemill.Token.Pattern

/-!
# Reading tokens

The text is cut from the left: the next lexeme is always the longest that any pattern finds. A token
is located on the line its lexeme ends on, and a fault on the line its lexeme starts on.
-/

namespace Phrasemill

namespace Pattern

/-- The pattern of a list that reaches farthest into the text, the first of them on a tie, and how
far it reaches. -/
def farthest (cs : List Char) : List Pattern → Option (Pattern × Nat)
  | [] => none
  | p :: ps =>
    match p.reach cs, farthest cs ps with
    | none, best => best
    | some n, none => some (p, n)
    | some n, some (q, m) => if m ≤ n then some (p, n) else some (q, m)

def longest (cs : List Char) : Option (Pattern × Nat) := farthest cs all

theorem reach_of_farthest {cs : List Char} {ps : List Pattern} {p : Pattern} {n : Nat}
    (h : farthest cs ps = some (p, n)) : p ∈ ps ∧ p.reach cs = some n := by
  induction ps with
  | nil => simp [farthest] at h
  | cons q ps ih =>
    unfold farthest at h
    split at h
    · exact ⟨.tail _ (ih h).1, (ih h).2⟩
    · next hq _ =>
      simp only [Option.some.injEq, Prod.mk.injEq] at h
      exact ⟨by simp [h.1], by rw [← h.1, ← h.2, hq]⟩
    · next hq hr =>
      split at h
      · simp only [Option.some.injEq, Prod.mk.injEq] at h
        exact ⟨by simp [h.1], by rw [← h.1, ← h.2, hq]⟩
      · exact ⟨.tail _ (ih (hr.trans h)).1, (ih (hr.trans h)).2⟩

theorem longest_pos {cs : List Char} {p : Pattern} {n : Nat} (h : longest cs = some (p, n)) :
    0 < n :=
  reach_pos (reach_of_farthest h).2

end Pattern

namespace Token

/-- The characters reported where no lexeme begins: all that is left after the opening of a comment
that is never closed, one character otherwise. -/
def strayCharacters : List Char → List Char
  | '/' :: '*' :: cs => '/' :: '*' :: cs
  | cs => cs.take 1

/-- The fault of a text at whose start no lexeme begins. -/
def strayFault (line : Nat) : List Char → SyntaxFault
  | '"' :: _ => .unterminatedText line
  | cs => .unexpected (.characters (String.ofList (strayCharacters cs))) line

/-- The line after a lexeme that starts on `line`. -/
def lineAfter (line : Nat) (lexeme : List Char) : Nat := line + lexeme.count '\n'

theorem length_drop_lt (c : Char) (cs : List Char) (n : Nat) :
    (cs.drop n).length < (c :: cs).length :=
  Nat.lt_succ_of_le (List.drop_sublist n cs).length_le

/-- The tokens of a text that starts on `line`. -/
def scanFrom (line : Nat) : List Char → Except SyntaxFault (List LocatedToken)
  | [] => .ok []
  | c :: cs =>
    match Pattern.longest (c :: cs) with
    | some (p, n + 1) =>
      let lexeme := c :: cs.take n
      let next := lineAfter line lexeme
      match p.meaning lexeme with
      | .nothing => scanFrom next (cs.drop n)
      | .token t => do
        let tokens ← scanFrom next (cs.drop n)
        return (t, next) :: tokens
      | .tooLarge => .error (.literalTooLarge line)
    | _ => .error (strayFault line (c :: cs))
termination_by cs => cs.length
decreasing_by all_goals exact length_drop_lt c cs n

def scan (source : String) : Except SyntaxFault (List LocatedToken) :=
  scanFrom 1 source.toList

end Token

end Phrasemill
