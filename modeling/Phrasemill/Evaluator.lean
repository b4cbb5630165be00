import Phrasemill.Evaluation

/-!
# Evaluators

An evaluator evaluates one expression after the other. It keeps its random source and the stack of
the rules that it is expanding. A rule is put on the stack when it is entered and taken off when its
body is done, whatever has become of the body. A fault ends all that is under way, but what has
been done to the evaluator by then stays done.

Where `Expr.evaluate` is told the active rules, an evaluator finds them on its stack. So that it ends,
what is evaluated first must leave on the stack what it found there: the evaluator that is left carries
the proof (`Evaluator.After`).
-/

namespace Phrasemill

/-- Runs a dialogue, each request answered from a state that others may have a share in. -/
def Dialogue.runFrom {σ α : Type} (answer : σ → Pool.Request → Pool.Reply × σ) :
    Dialogue α → σ → α × σ
  | finished a, s => (a, s)
  | ask request resume, s =>
    let (reply, s) := answer s request
    (resume reply).runFrom answer s

/-- What is kept from one evaluation to the next. -/
structure Evaluator (σ : Type) where
  source : RandomSource
  /-- What draws are answered from. -/
  pool : σ
  /-- The rules that are being expanded, innermost first. -/
  active : List String

namespace Evaluator

variable {σ α β : Type}

def start (source : RandomSource) (pool : σ) : Evaluator σ := ⟨source, pool, []⟩

def enter (name : String) (v : Evaluator σ) : Evaluator σ := { v with active := name :: v.active }

/-- An evaluator that this one may have become. -/
structure After (v : Evaluator σ) extends Evaluator σ where
  kept : active = v.active

def unchanged (v : Evaluator σ) : v.After := { v with kept := rfl }

namespace After

variable {v : Evaluator σ}

/-- Takes the innermost rule off the stack. -/
def leave {name : String} (w : (v.enter name).After) : v.After :=
  { w with active := w.active.tail, kept := congrArg List.tail w.kept }

def trans (w : v.After) (u : w.After) : v.After := { u with kept := u.kept.trans w.kept }

end After

/-- What becomes of a computation, and of the evaluator, whether there is a result or a fault. -/
def Done (v : Evaluator σ) (α : Type) := Except Fault α × v.After

def result (a : α) (v : Evaluator σ) : v.Done α := (.ok a, v.unchanged)

def fault (f : Fault) (v : Evaluator σ) : v.Done α := (.error f, v.unchanged)

/-- Takes over the source and the pool that a computation has left. -/
def becomes (v : Evaluator σ) (ended : (Except Fault α × RandomSource) × σ) : v.Done α :=
  (ended.1.1, { v with source := ended.1.2, pool := ended.2, kept := rfl })

namespace Done

variable {v : Evaluator σ}

def leave {name : String} (d : (v.enter name).Done α) : v.Done α := (d.1, d.2.leave)

/-- Goes on after a result, as the evaluator that is left. A fault returns at once. -/
def andThen (d : v.Done α) (next : α → (w : v.After) → w.Done β) : v.Done β :=
  match d with
  | (.error f, w) => (.error f, w)
  | (.ok a, w) =>
    let (r, u) := next a w
    (r, w.trans u)

end Done

section

variable (answer : σ → Pool.Request → Pool.Reply × σ)

/-- Runs a generator on the source and the pool of an evaluator. -/
def perform (m : Generator α) (v : Evaluator σ) : v.Done α :=
  v.becomes ((StateT.run (ExceptT.run m) v.source).runFrom answer v.pool)

/-- A function that is called with as many operands as it accepts. -/
def callee (resolved : Except Fault Builtin) (operands line : Nat) : Except Fault Builtin := do
  let b ← resolved
  b.checkArity operands line
  return b

variable (g : Grammar) (count : Nat)

mutual

def evaluate (e : Expr) (v : Evaluator σ) : v.Done Batch :=
  match e with
  | .literal constant _ => v.result (.constant constant.toValue count)
  | .reference name line =>
    match Category.ofName? name with
    | some category => v.result (.constant (.category category) count)
    | none =>
      match found : g.find? name with
      | none => v.fault (.ruleNotFound name line)
      | some body =>
        if fresh : name ∈ v.active then v.fault (.cyclicRule name line)
        else
          have := Grammar.unentered_cons_lt (Grammar.mem_names_of_find? found) fresh
          (evaluate body (v.enter name)).leave
  | .rule name body _ => (evaluate body (v.enter name)).leave
  | .list elements _ =>
    (evaluateAll elements v).andThen fun columns w => w.result (Batch.lists columns count)
  | .call name arguments line =>
    match callee (Builtin.resolveName name line) arguments.length line with
    | .error f => v.fault f
    | .ok b =>
      (evaluateAll arguments v).andThen fun columns w =>
        w.perform answer (b.apply ⟨w.active.head?, line⟩ columns count)
  | .method receiver name arguments line =>
    (evaluate receiver v).andThen fun object w =>
      let (category, first) := Expr.receiverRole object
      match callee (Builtin.resolveMethod category name line) (first.length + arguments.length)
        line with
      | .error f => w.fault f
      | .ok b =>
        (evaluateAll arguments w.toEvaluator).andThen fun columns u =>
          u.perform answer (b.apply ⟨u.active.head?, line⟩ (first ++ columns) count)
termination_by (g.unentered v.active, sizeOf e)
decreasing_by
  · exact Prod.Lex.left _ _ this
  · exact Prod.Lex.right' _ (g.unentered_cons_le name v.active) (by decreasing_tactic)
  · exact Prod.Lex.right _ (by decreasing_tactic)
  · exact Prod.Lex.right _ (by decreasing_tactic)
  · exact Prod.Lex.right _ (by decreasing_tactic)
  · rw [w.kept]
    exact Prod.Lex.right _ (by decreasing_tactic)

/-- Evaluates expressions up to the first fault. -/
def evaluateAll (es : List Expr) (v : Evaluator σ) : v.Done (List Batch) :=
  match es with
  | [] => v.result []
  | e :: es =>
    (evaluate e v).andThen fun column w =>
      (evaluateAll es w.toEvaluator).andThen fun columns u => u.result (column :: columns)
termination_by (g.unentered v.active, sizeOf es)
decreasing_by
  · exact Prod.Lex.right _ (by decreasing_tactic)
  · rw [w.kept]
    exact Prod.Lex.right _ (by decreasing_tactic)

end

end

/-- Evaluates expressions one after the other, each for its own number of repetitions, whether the
ones before it fault or not. -/
def evaluateEach (answer : σ → Pool.Request → Pool.Reply × σ) (g : Grammar) :
    List (Expr × Nat) → Evaluator σ → List (Except Fault Batch) × Evaluator σ
  | [], v => ([], v)
  | (e, count) :: others, v =>
    let (r, w) := evaluate answer g count e v
    let (rs, last) := evaluateEach answer g others w.toEvaluator
    (r :: rs, last)

end Evaluator

end Phrasemill
