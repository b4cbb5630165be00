import Phrasemill.Random.Uniform
import Phrasemill.Value

/-!
# The pool of unique candidates

Drawing without repetition needs a memory of what has been drawn. The pool keeps, for every key, the
candidates that are left, in the order in which an index picks them. A key is the rule in which a
draw stands and the candidates it is made from; an entry begins with the distinct candidates of its
key, when the key is first drawn from, and only shrinks.

A draw is answered in two steps: the entry is found or made, and then the candidates are taken. They
are kept apart because draws of several workers may meet in between.
-/

namespace Phrasemill

namespace Pool

/-- What an entry belongs to: a rule, if the draw stands in one, and a list of candidates. -/
structure Key where
  rule : Option String
  candidates : List Value
  deriving DecidableEq

/-- The candidates without repetitions, each where it first stands. -/
def Key.distinct (k : Key) : Array Value := k.candidates.eraseDups.toArray

/-- How much a draw asks for. -/
inductive Demand where
  | one
  /-- So many candidates or none at all. -/
  | many (count : Nat)
  deriving DecidableEq

/-- A draw that waits for its answer. -/
structure Request where
  key : Key
  demand : Demand
  line : Nat
  source : RandomSource

structure Reply where
  outcome : Except Fault (Array Value)
  source : RandomSource

/-! ### Taking candidates -/

/-- What is left when the candidate at `i` is taken: the last one moves to its place. -/
def swapRemove (left : Array Value) (i : Nat) (h : i < left.size) : Array Value :=
  (left.set i left[left.size - 1]).pop

def takeAny (left : Array Value) (s : RandomSource) : Option (Value × Array Value × RandomSource) :=
  let (i, s) := s.index .long left.size
  if h : i < left.size then some (left[i], swapRemove left i h, s) else none

/-- Takes so many random candidates one after the other, or as many as there are. -/
def takeSome : Nat → (drawn left : Array Value) → RandomSource →
    Array Value × Array Value × RandomSource
  | 0, drawn, left, s => (drawn, left, s)
  | n + 1, drawn, left, s =>
    match takeAny left s with
    | some (value, left, s) => takeSome n (drawn.push value) left s
    | none => (drawn, left, s)

/-- Answers a draw from the candidates that are left; a refused draw takes nothing. -/
def serve (r : Request) (left : Array Value) : Reply × Array Value :=
  match r.demand with
  | .one =>
    match takeAny left r.source with
    | some (value, left, s) => (⟨.ok #[value], s⟩, left)
    | none => (⟨.error (.poolExhausted r.line), r.source⟩, left)
  | .many count =>
    if left.size < count then
      (⟨.error (.poolInsufficient count left.size r.line), r.source⟩, left)
    else
      let (drawn, left, s) := takeSome count #[] left r.source
      (⟨.ok drawn, s⟩, left)

end Pool

/-- The candidates that are left, by key. A key has one entry at most. -/
structure Pool where
  entries : List (Pool.Key × Array Value)
  nodup : (entries.map Prod.fst).Nodup

namespace Pool

def empty : Pool := ⟨[], List.nodup_nil⟩

instance : EmptyCollection Pool := ⟨empty⟩

/-- The keys that have been drawn from, in the order of their first draws. -/
def keys (p : Pool) : List Key := p.entries.map Prod.fst

/-- What is left of a key's candidates, if it has been drawn from. -/
def find? (p : Pool) (k : Key) : Option (Array Value) := p.entries.lookup k

/-- What is left of a key's candidates: all of them, if it has not been drawn from. -/
def left (p : Pool) (k : Key) : Array Value := (p.find? k).getD k.distinct

def remaining? (p : Pool) (k : Key) : Option Nat := (p.find? k).map Array.size

theorem find?_eq_none_iff {p : Pool} {k : Key} : p.find? k = none ↔ k ∉ p.keys := by
  rw [find?, List.lookup_eq_none_iff, keys, List.mem_map]
  constructor
  · rintro h ⟨e, he, rfl⟩
    simpa using h e he
  · intro h e he
    have : k ≠ e.1 := fun eq => h ⟨e, he, eq.symm⟩
    simpa using this

/-! ### Setting entries -/

def replaced (entries : List (Key × Array Value)) (k : Key) (left : Array Value) :
    List (Key × Array Value) :=
  entries.map fun e => if e.1 = k then (k, left) else e

theorem map_fst_replaced (entries : List (Key × Array Value)) (k : Key) (left : Array Value) :
    (replaced entries k left).map Prod.fst = entries.map Prod.fst := by
  rw [replaced, List.map_map]
  refine List.map_congr_left fun e _ => ?_
  simp only [Function.comp_apply]
  split
  · next eq => exact eq.symm
  · rfl

theorem nodup_replaced (p : Pool) (k : Key) (left : Array Value) :
    ((replaced p.entries k left).map Prod.fst).Nodup := by
  rw [map_fst_replaced]
  exact p.nodup

theorem nodup_append {p : Pool} {k : Key} (absent : ¬ (p.find? k).isSome) (left : Array Value) :
    ((p.entries ++ [(k, left)]).map Prod.fst).Nodup := by
  have new : k ∉ p.keys := find?_eq_none_iff.1 (Option.not_isSome_iff_eq_none.1 absent)
  rw [List.map_append, List.nodup_append]
  refine ⟨p.nodup, by simp, ?_⟩
  rintro a ha b hb rfl
  rw [List.map_cons, List.map_nil, List.mem_singleton] at hb
  subst hb
  exact new ha

def put (p : Pool) (k : Key) (left : Array Value) : Pool :=
  if h : (p.find? k).isSome then ⟨replaced p.entries k left, nodup_replaced p k left⟩
  else ⟨p.entries ++ [(k, left)], nodup_append h left⟩

/-- Makes the entry of a key unless there is one. -/
def enter (p : Pool) (k : Key) : Pool :=
  if (p.find? k).isSome then p else p.put k k.distinct

/-- Answers a draw from the entry of its key. -/
def take (p : Pool) (r : Request) : Reply × Pool :=
  let (reply, left) := serve r (p.left r.key)
  (reply, p.put r.key left)

/-- Answers a draw: both steps with nothing in between. -/
def answer (p : Pool) (r : Request) : Reply × Pool := (p.enter r.key).take r

/-! ### Checkpoints -/

structure Checkpoint where
  entries : List (Key × Array Value)
  nodup : (entries.map Prod.fst).Nodup

def checkpoint (p : Pool) : Checkpoint := ⟨p.entries, p.nodup⟩

def Checkpoint.contains (c : Checkpoint) (k : Key) : Bool := (c.entries.lookup k).isSome

def filter (p : Pool) (test : Key → Bool) : Pool where
  entries := p.entries.filter fun e => test e.1
  nodup := p.nodup.sublist (List.filter_sublist.map Prod.fst)

/-- Goes back to a checkpoint: entries made since are dropped, recorded ones get back what they had
left. -/
def restore (p : Pool) (c : Checkpoint) : Pool :=
  c.entries.foldl (fun p e => p.put e.1 e.2) (p.filter c.contains)

end Pool

end Phrasemill
