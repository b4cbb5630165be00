import Mathlib
import Phrasemill.Proofs.Footprint
import Phrasemill.Proofs.Pool.Serving
import Phrasemill.Proofs.Quiet

/-!
# What a dialogue needs of the pool

A dialogue needs what it will have asked for by the time it ends with a result, whatever the replies
are, as long as they are granted. A fault may end it earlier, and a draw that is refused always does.
What an expression needs is `count` times the draws of its footprint (`needs_evaluate`), provided that
the candidates of each draw are known without randomness.
-/

namespace Phrasemill

variable {α β : Type}

namespace Pool

/-- The key of a request, once for each value it asks for. -/
def Request.asked (r : Request) : Multiset Key := .replicate r.demand.amount r.key

end Pool

namespace Dialogue

/-- A dialogue needs exactly the keys `need` to come to a result; it ends in a shortage that no reply
reports only if `short`. -/
inductive Needs (short : Prop) :
    Dialogue (Except Fault α × RandomSource) → Multiset Pool.Key → Prop where
  | ok (a : α) (s : RandomSource) : Needs short (.finished (.ok a, s)) 0
  | fault {fault : Fault} (cause : fault.isShortage = true → short) (s : RandomSource)
      (need : Multiset Pool.Key) : Needs short (.finished (.error fault, s)) need
  | ask {request : Pool.Request}
      {resume : Pool.Reply → Dialogue (Except Fault α × RandomSource)} {need : Multiset Pool.Key}
      (granted : ∀ values s, Needs short (resume ⟨.ok values, s⟩) need)
      (refused : ∀ fault s, resume ⟨.error fault, s⟩ = .finished (.error fault, s)) :
      Needs short (.ask request resume) (request.asked + need)

theorem Needs.bind {short : Prop} {d : Dialogue (Except Fault α × RandomSource)}
    {need more : Multiset Pool.Key} (h : d.Needs short need)
    {next : Except Fault α × RandomSource → Dialogue (Except Fault β × RandomSource)}
    (ok : ∀ a s, (next (.ok a, s)).Needs short more)
    (error : ∀ fault s, next (.error fault, s) = .finished (.error fault, s)) :
    (d >>= next).Needs short (need + more) := by
  induction h with
  | ok a s =>
    rw [finished_bind, Multiset.zero_add]
    exact ok a s
  | fault cause s need =>
    rw [finished_bind, error]
    exact .fault cause s (need + more)
  | ask granted refused ih =>
    rw [ask_bind, Multiset.add_assoc]
    refine .ask ih fun fault s => ?_
    rw [refused, finished_bind, error]

end Dialogue

namespace Generator

/-- A generator needs exactly the keys `need` to come to a result, and runs short only of them. -/
def Needs (g : Generator α) (need : Multiset Pool.Key) : Prop :=
  ∀ short s, (g.dialogue s).Needs short need

theorem Needs.bind {g : Generator α} {need more : Multiset Pool.Key} (h : g.Needs need)
    {f : α → Generator β} (next : ∀ a, (f a).Needs more) : (g >>= f).Needs (need + more) := by
  intro short s
  rw [dialogue_bind]
  exact (h short s).bind (fun a s => next a short s) fun fault s => rfl

theorem Needs.bind_of_zero {g : Generator α} {need : Multiset Pool.Key} (h : g.Needs 0)
    {f : α → Generator β} (next : ∀ a, (f a).Needs need) : (g >>= f).Needs need := by
  have := h.bind next
  rwa [Multiset.zero_add] at this

theorem Needs.bind_zero {g : Generator α} {need : Multiset Pool.Key} (h : g.Needs need)
    {f : α → Generator β} (next : ∀ a, (f a).Needs 0) : (g >>= f).Needs need := by
  have := h.bind next
  rwa [Multiset.add_zero] at this

theorem needs_pure (a : α) : (pure a : Generator α).Needs 0 := fun _ s => .ok a s

theorem needs_throw {fault : Fault} (other : fault.isShortage = false)
    (need : Multiset Pool.Key) : (throw fault : Generator α).Needs need := by
  intro short s
  refine .fault (fun shortage => ?_) s need
  rw [other] at shortage
  cases shortage

theorem needs_draw (key : Pool.Key) (demand : Pool.Demand) (line : Nat) :
    (draw key demand line).Needs (.replicate demand.amount key) := by
  intro short s
  rw [← Multiset.add_zero (Multiset.replicate demand.amount key)]
  show Dialogue.Needs short (.ask ⟨key, demand, line, s⟩ _)
    (Pool.Request.asked ⟨key, demand, line, s⟩ + 0)
  exact .ask (fun values s => .ok values s) fun _ _ => rfl

/-- A quiet generator needs nothing. -/
theorem Quiet.needs {g : Generator α} (h : g.Quiet) : g.Needs 0 := by
  intro short s
  obtain ⟨result, left, finished, never⟩ := h s
  rw [finished]
  cases result with
  | ok a => exact .ok a left
  | error fault =>
    refine .fault (fun shortage => ?_) left 0
    rw [never fault rfl] at shortage
    cases shortage

end Generator

namespace Builtin

/-- A draw for constant operands needs a candidate for every repetition. -/
theorem needs_callBatch_oneOfUnique (site : CallSite) (operands : List Value) (count : Nat) :
    (callBatch oneOfUnique site operands count).Needs (count • {poolKey site operands}) := by
  refine (Generator.quiet_check (ofCall_checkArity _ _ _).neverShort).needs.bind_of_zero fun _ => ?_
  rw [Multiset.nsmul_singleton]
  by_cases single : count = 1
  · rw [batchValue, if_pos single, single]
    refine Generator.Needs.bind_zero (Generator.Needs.bind_zero ?_ ?_) fun _ => Generator.needs_pure _
    · exact (Generator.needs_draw (poolKey site operands) .one site.line).bind_zero
        fun _ => Generator.needs_pure _
    · exact fun _ => Generator.needs_pure _
  · rw [batchValue, if_neg single]
    exact (Generator.needs_draw (poolKey site operands) (.many count) site.line).bind_zero
      fun _ => Generator.needs_pure _

end Builtin

/-! ### Expressions -/

namespace Expr

/-- The candidates of a draw are known without randomness. -/
def CandidatesKnown (g : Grammar) : Expr → Prop
  | call name arguments _ =>
    name = Builtin.oneOfUnique.name → ∀ e ∈ arguments, RandomnessFree g e
  | method receiver name arguments _ =>
    name = Builtin.oneOfUnique.methodName →
      RandomnessFree g receiver ∧ ∀ e ∈ arguments, RandomnessFree g e
  | _ => True

section

variable {g : Grammar} {active : List String} (count : Nat)

theorem needs_evaluateAll {es : List Expr}
    (h : ∀ e ∈ es, (evaluate g count active e).Needs (count • (footprint g active e).draws)) :
    (evaluateAll g count active es).Needs
      (count • Footprint.allDraws (es.map (footprint g active))) := by
  induction es with
  | nil =>
    rw [evaluateAll, List.map_nil, Footprint.allDraws, List.map_nil, List.sum_nil, nsmul_zero]
    exact Generator.needs_pure []
  | cons e es ih =>
    rw [evaluateAll, List.map_cons, Footprint.allDraws, List.map_cons, List.sum_cons,
      nsmul_add]
    refine (h e List.mem_cons_self).bind fun column => ?_
    refine (ih fun e mem => h e (List.mem_cons_of_mem _ mem)).bind_zero fun columns => ?_
    exact Generator.needs_pure _

/-- A draw whose operands are known. -/
theorem needs_called_of_settled (active : List String) (first : List Value) {arguments : List Expr}
    (h : ∀ e ∈ arguments, RandomnessFree g e) (line : Nat) (need : Multiset Pool.Key)
    (need_eq : ∀ values, Footprint.values? (arguments.map (footprint g active)) = some values →
      need = {⟨active.head?, Builtin.candidates (first ++ values)⟩}) :
    (called g count active (.ok .oneOfUnique) (Batch.constants first count) arguments line).Needs
      (count • need) := by
  rw [called, Generator.check_ok, pure_bind]
  have accepts (found : Nat) := (Builtin.ofCall_checkArity .oneOfUnique found line).neverShort
  refine (Generator.quiet_check (accepts _)).needs.bind_of_zero fun _ => ?_
  obtain ⟨values, values_eq, gives⟩ | ⟨fault, no_shortage, faults⟩ :=
    settles_evaluateAll fun e mem => settles_of_randomnessFree active (h e mem)
  · dsimp only at gives
    rw [gives, pure_bind, ← Batch.constants_append, Builtin.apply_constants, need_eq values values_eq]
    exact Builtin.needs_callBatch_oneOfUnique ⟨active.head?, line⟩ (first ++ values) count
  · dsimp only at faults
    rw [faults, Generator.throw_bind]
    exact Generator.needs_throw no_shortage _

/-- A call of any other function needs nothing but what its arguments do. -/
theorem needs_called_of_ne {resolved : Except Fault Builtin} (never : NeverShort resolved)
    (other : ∀ b, resolved = .ok b → b ≠ .oneOfUnique) (first : List Batch) {arguments : List Expr}
    (ih : ∀ e ∈ arguments, (evaluate g count active e).Needs (count • (footprint g active e).draws))
    (line : Nat) :
    (called g count active resolved first arguments line).Needs
      (count • Footprint.allDraws (arguments.map (footprint g active))) := by
  cases resolved with
  | error fault => exact Generator.needs_throw (never fault rfl) _
  | ok b =>
    rw [called, Generator.check_ok, pure_bind]
    refine (Generator.quiet_check (Builtin.ofCall_checkArity _ _ _).neverShort).needs.bind_of_zero
      fun _ => ?_
    exact (needs_evaluateAll count ih).bind_zero fun columns =>
      (Builtin.quiet_apply (other b rfl) _ _ count).needs

theorem needs_evaluate_call {name : String} {arguments : List Expr} {line : Nat}
    (known : CandidatesKnown g (.call name arguments line))
    (ih : ∀ e ∈ arguments, (evaluate g count active e).Needs (count • (footprint g active e).draws)) :
    (evaluate g count active (.call name arguments line)).Needs
      (count • (footprint g active (.call name arguments line)).draws) := by
  rw [evaluate_call_eq]
  by_cases unique : name = Builtin.oneOfUnique.name
  · have free := known unique
    subst unique
    have found : Builtin.named? Builtin.oneOfUnique.name = some .oneOfUnique := rfl
    rw [Builtin.resolveName_of_named? found]
    exact needs_called_of_settled count active [] free line
      (footprint g active (.call Builtin.oneOfUnique.name arguments line)).draws
      fun values values_eq => by
        rw [footprint_call, values_eq,
          allDraws_footprints fun e mem => draws_of_randomnessFree (free e mem)]
        rfl
  · have other : Builtin.named? name ≠ some .oneOfUnique :=
      fun found => unique (Builtin.name_of_named? found).symm
    rw [draws_call_of_named? other]
    refine needs_called_of_ne count (Builtin.ofCall_resolveName name line).neverShort ?_ [] ih line
    rintro b resolved rfl
    exact unique (Builtin.name_of_resolveName resolved).symm

theorem needs_evaluate_method {receiver : Expr} {name : String} {arguments : List Expr} {line : Nat}
    (known : CandidatesKnown g (.method receiver name arguments line))
    (ih_receiver : (evaluate g count active receiver).Needs
      (count • (footprint g active receiver).draws))
    (ih : ∀ e ∈ arguments, (evaluate g count active e).Needs (count • (footprint g active e).draws)) :
    (evaluate g count active (.method receiver name arguments line)).Needs
      (count • (footprint g active (.method receiver name arguments line)).draws) := by
  rw [evaluate_method_eq]
  by_cases unique : name = Builtin.oneOfUnique.methodName
  · obtain ⟨free_receiver, free⟩ := known unique
    subst unique
    obtain ⟨value, value_eq, gives⟩ | ⟨fault, no_shortage, faults⟩ :=
      settles_of_randomnessFree active free_receiver
    · have found : Builtin.method? value.toCategory Builtin.oneOfUnique.methodName =
          some .oneOfUnique := by
        cases value.toCategory with
        | textual => rfl
        | numeric => rfl
      dsimp only at gives
      rw [gives, pure_bind, receiverRole_constant, Builtin.resolveMethod_of_method? found]
      exact needs_called_of_settled count active value.asReceiver free line
        (footprint g active (.method receiver Builtin.oneOfUnique.methodName arguments line)).draws
        fun values values_eq => by
          rw [footprint_method, value_eq, values_eq,
            allDraws_footprints fun e mem => draws_of_randomnessFree (free e mem),
            draws_of_randomnessFree free_receiver]
          simp only [Option.bind_eq_bind, Option.bind_some, found]
          rfl
    · dsimp only at faults
      rw [faults, Generator.throw_bind]
      exact Generator.needs_throw no_shortage _
  · rw [draws_method_of_ne unique, nsmul_add]
    refine ih_receiver.bind fun object => ?_
    refine needs_called_of_ne count (Builtin.ofCall_resolveMethod _ name line).neverShort ?_ _ ih line
    rintro b resolved rfl
    exact unique (Builtin.methodName_of_resolveMethod resolved).symm

/-- Where all candidates are known, an expression needs for each repetition what its footprint
draws. -/
theorem needs_evaluate {e : Expr} (known : Everywhere g (CandidatesKnown g) e) :
    (evaluate g count active e).Needs (count • (footprint g active e).draws) := by
  induction active, e using evaluate_induction g with
  | literal active constant line =>
    rw [evaluate, footprint, nsmul_zero]
    exact Generator.needs_pure _
  | reference active name line ih =>
    cases named : Category.ofName? name with
    | some category =>
      rw [evaluate_category g count active named, footprint_category g active named, nsmul_zero]
      exact Generator.needs_pure _
    | none =>
      obtain ⟨-, fails⟩ | ⟨-, fails⟩ | ⟨body, defined, fresh, enters⟩ :=
        evaluate_reference_cases g active named line
      · rw [fails]
        exact Generator.needs_throw rfl _
      · rw [fails]
        exact Generator.needs_throw rfl _
      · rw [enters, footprint_defined g active named defined, if_neg fresh]
        exact ih body named defined fresh (known.part (.defined named defined line))
  | list active elements line ih =>
    rw [evaluate, footprint]
    exact (needs_evaluateAll count fun e mem => ih e mem (known.part (.element mem line))).bind_zero
      fun columns => Generator.needs_pure _
  | call active name arguments line ih =>
    exact needs_evaluate_call count known.self fun e mem =>
      ih e mem (known.part (.argument mem name line))
  | method active receiver name arguments line ih_receiver ih =>
    exact needs_evaluate_method count known.self
      (ih_receiver (known.part (.receiver receiver name arguments line)))
      fun e mem => ih e mem (known.part (.operand mem receiver name line))
  | rule active name body line ih =>
    rw [evaluate, footprint]
    exact ih (known.part (.captured name body line))

end

end Expr

end Phrasemill
