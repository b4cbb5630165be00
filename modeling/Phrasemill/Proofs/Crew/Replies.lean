import Mathlib
import Phrasemill.Proofs.Crew
import Phrasemill.Proofs.Evaluation

/-!
# What dialogues come to

A dialogue knows of the pool by its replies alone. A pool that has nothing left under a key but
candidates of that key (`Pool.Faithful`) gives replies that are permitted: a fault, or as many of the
candidates as were asked for. What a dialogue comes to under all permitted replies (`Dialogue.Ends`)
it therefore comes to in every run of every crew, with any draws of the others between its own; and
the pool stays faithful, since draws only take away.
-/

namespace Phrasemill

variable {α β : Type}

namespace Pool

/-- Only candidates of a key are left under it. -/
def Faithful (p : Pool) : Prop := ∀ k, ∀ v ∈ p.left k, v ∈ k.candidates

/-- A reply that grants a request has as many candidates as were asked for, all of its key. -/
def Request.Permits (r : Request) (reply : Reply) : Prop :=
  ∀ values, reply.outcome = .ok values →
    values.size = r.demand.amount ∧ ∀ v ∈ values, v ∈ r.key.candidates

theorem faithful_empty : (∅ : Pool).Faithful := by
  intro k v mem
  rw [left_empty, ← Array.mem_toList_iff, mem_distinct] at mem
  exact mem

namespace Faithful

variable {p : Pool} (h : p.Faithful)
include h

theorem enter (k : Key) : (p.enter k).Faithful := by
  intro j
  rw [left_enter]
  exact h j

theorem take (r : Request) : (p.take r).2.Faithful := by
  intro k v mem
  rw [left_take] at mem
  split at mem
  · next same =>
    subst same
    refine h r.key v ?_
    rw [← Array.mem_toList_iff] at mem ⊢
    exact (serve_perm r (p.left r.key)).mem_iff.1 (List.mem_append_right _ mem)
  · exact h k v mem

theorem answer (r : Request) : (p.answer r).2.Faithful := (h.enter r.key).take r

theorem permits_take (r : Request) : r.Permits (p.take r).1 := by
  intro values granted
  rw [take_fst] at granted
  by_cases enough : r.demand.amount ≤ (p.left r.key).size
  · obtain ⟨drawn, s, reply, size⟩ := serve_granted enough
    rw [reply] at granted
    cases granted
    refine ⟨size, fun v mem => h r.key v ?_⟩
    have together := serve_perm r (p.left r.key)
    rw [reply, Reply.values_ok] at together
    rw [← Array.mem_toList_iff] at mem ⊢
    exact together.mem_iff.1 (List.mem_append_left _ mem)
  · obtain ⟨fault, -, refused⟩ := serve_refused (Nat.lt_of_not_le enough)
    rw [refused] at granted
    cases granted

theorem permits_answer (r : Request) : r.Permits (p.answer r).1 := (h.enter r.key).permits_take r

end Faithful

end Pool

namespace Dialogue

/-- Whatever the replies are, as long as they are permitted, the dialogue comes to a result of a
kind. -/
inductive Ends (Q : α → Prop) : Dialogue α → Prop
  | finished {a : α} (h : Q a) : Ends Q (.finished a)
  | ask {request : Pool.Request} {resume : Pool.Reply → Dialogue α}
      (h : ∀ reply, request.Permits reply → Ends Q (resume reply)) : Ends Q (.ask request resume)

theorem Ends.bind {Q : α → Prop} {R : β → Prop} {d : Dialogue α} (h : d.Ends Q)
    {f : α → Dialogue β} (next : ∀ a, Q a → (f a).Ends R) : (d >>= f).Ends R := by
  induction h with
  | finished h =>
    rw [finished_bind]
    exact next _ h
  | ask _ ih =>
    rw [ask_bind]
    exact .ask ih

theorem Ends.mono {Q R : α → Prop} {d : Dialogue α} (h : d.Ends Q) (implies : ∀ a, Q a → R a) :
    d.Ends R := by
  induction h with
  | finished h => exact .finished (implies _ h)
  | ask _ ih => exact .ask ih

theorem ends_true (d : Dialogue α) : d.Ends fun _ => True := by
  induction d with
  | finished a => exact .finished trivial
  | ask request resume ih => exact .ask fun reply _ => ih reply

theorem Ends.and {Q R : α → Prop} {d : Dialogue α} (h : d.Ends Q) (h' : d.Ends R) :
    d.Ends fun a => Q a ∧ R a := by
  induction h with
  | finished here =>
    cases h' with
    | finished here' => exact .finished ⟨here, here'⟩
  | ask _ ih =>
    cases h' with
    | ask resumed => exact .ask fun reply permitted => ih reply permitted (resumed reply permitted)

/-- Running a dialogue by itself. -/
theorem Ends.run {Q : α → Prop} {d : Dialogue α} (h : d.Ends Q) {p : Pool} (faithful : p.Faithful) :
    Q (d.run p).1 ∧ (d.run p).2.Faithful := by
  induction h generalizing p with
  | finished h => exact ⟨h, faithful⟩
  | ask _ ih => exact ih _ (faithful.permits_answer _) (faithful.answer _)

end Dialogue

namespace Generator

/-- Whatever the randomness and the replies are, the generator faults or gives a result of a kind. -/
def Yields (P : α → Prop) (m : Generator α) : Prop :=
  ∀ s, (m.dialogue s).Ends fun outcome => ∀ a, outcome.1 = .ok a → P a

theorem Yields.bind {P : α → Prop} {Q : β → Prop} {m : Generator α} (h : m.Yields P)
    {f : α → Generator β} (next : ∀ a, P a → (f a).Yields Q) : (m >>= f).Yields Q := by
  intro s
  rw [dialogue_bind]
  refine (h s).bind fun outcome kind => ?_
  obtain ⟨result, s⟩ := outcome
  cases result with
  | ok a => exact next a (kind a rfl) s
  | error fault =>
    refine .finished ?_
    rintro _ ⟨⟩

theorem Yields.mono {P Q : α → Prop} {m : Generator α} (h : m.Yields P)
    (implies : ∀ a, P a → Q a) : m.Yields Q :=
  fun s => (h s).mono fun _ kind a eq => implies a (kind a eq)

theorem Yields.and {P Q : α → Prop} {m : Generator α} (h : m.Yields P) (h' : m.Yields Q) :
    m.Yields fun a => P a ∧ Q a :=
  fun s => ((h s).and (h' s)).mono fun _ kinds a eq => ⟨kinds.1 a eq, kinds.2 a eq⟩

theorem yields_true (m : Generator α) : m.Yields fun _ => True :=
  fun s => (m.dialogue s).ends_true.mono fun _ _ _ _ => trivial

/-- What a generator gives by itself. -/
theorem Yields.result {P : α → Prop} {m : Generator α} (h : m.Yields P) {s : RandomSource}
    {p : Pool} (faithful : p.Faithful) {a : α} (given : (m.outcome s p).result = .ok a) : P a :=
  ((h s).run faithful).1 a given

theorem yields_pure {P : α → Prop} {a : α} (h : P a) : (pure a : Generator α).Yields P := by
  intro s
  refine .finished fun b eq => ?_
  cases eq
  exact h

theorem yields_throw {P : α → Prop} (fault : Fault) : (throw fault : Generator α).Yields P := by
  intro s
  refine .finished ?_
  rintro _ ⟨⟩

theorem yields_random {P : α → Prop} {draw : RandomSource → α × RandomSource}
    (h : ∀ s, P (draw s).1) : (random draw).Yields P := by
  intro s
  refine .finished fun a eq => ?_
  cases eq
  exact h s

theorem yields_check {P : α → Prop} {e : Except Fault α} (h : ∀ a, e = .ok a → P a) :
    (check e).Yields P :=
  fun _ => .finished h

theorem yields_draw (key : Pool.Key) (demand : Pool.Demand) (line : Nat) :
    (draw key demand line).Yields fun drawn =>
      drawn.size = demand.amount ∧ ∀ v ∈ drawn, v ∈ key.candidates :=
  fun _ => .ask fun _ permitted => .finished permitted

theorem yields_drawOne (key : Pool.Key) (line : Nat) :
    (drawOne key line).Yields fun value => value ∈ key.candidates := by
  refine (yields_draw key .one line).bind fun drawn granted => yields_pure ?_
  obtain ⟨size, candidates⟩ := granted
  have first : 0 < drawn.size := Nat.lt_of_lt_of_eq Nat.one_pos size.symm
  rw [Array.getD_eq_getD_getElem?, Array.getElem?_eq_getElem first, Option.getD_some]
  exact candidates _ (Array.getElem_mem first)

theorem yields_mapM {γ : Type} {P : α → Prop} {f : γ → Generator α} {cs : List γ}
    (h : ∀ c ∈ cs, (f c).Yields P) :
    (cs.mapM f).Yields fun results => results.length = cs.length ∧ ∀ a ∈ results, P a := by
  induction cs with
  | nil => exact yields_pure ⟨rfl, List.forall_mem_nil _⟩
  | cons c cs ih =>
    obtain ⟨here, others⟩ := List.forall_mem_cons.1 h
    rw [List.mapM_cons]
    refine here.bind fun a kind => (ih others).bind fun results given => yields_pure ?_
    obtain ⟨length, kinds⟩ := given
    exact ⟨congrArg Nat.succ length, List.forall_mem_cons.2 ⟨kind, kinds⟩⟩

end Generator

/-! ### Crews -/

namespace Crew

/-- The pool is faithful and every worker will come to a result of a kind. -/
structure Honest (Q : α → Prop) (c : Crew α) : Prop where
  pool : c.pool.Faithful
  programs : ∀ w ∈ c.workers, w.program.Ends Q

variable {Q : α → Prop}

theorem honest_start {pool : Pool} (faithful : pool.Faithful) {programs : List (Dialogue α)}
    (h : ∀ d ∈ programs, d.Ends Q) : (start pool programs).Honest Q := by
  refine ⟨faithful, fun w mem => ?_⟩
  obtain ⟨d, d_mem, rfl⟩ := List.mem_map.1 mem
  exact h d d_mem

theorem Honest.step {c : Crew α} (h : c.Honest Q) (i : Nat) : (c.step i).Honest Q := by
  have set {w : Worker α} (ends : w.program.Ends Q) : ∀ v ∈ c.workers.set i w, v.program.Ends Q := by
    intro v mem
    rcases List.mem_or_eq_of_mem_set mem with old | rfl
    · exact h.programs v old
    · exact ends
  obtain same | ⟨request, resume, found, next⟩ | ⟨request, resume, found, next⟩ := c.step_cases i
  · rw [same]
    exact h
  · rw [next]
    have ends : (Dialogue.ask request resume).Ends Q := h.programs _ (List.mem_of_getElem? found)
    refine ⟨h.pool.enter request.key, set ?_⟩
    exact ends
  · rw [next]
    refine ⟨h.pool.take request, set ?_⟩
    cases h.programs _ (List.mem_of_getElem? found) with
    | ask resumed => exact resumed _ (h.pool.permits_take request)

theorem Honest.run {c : Crew α} (h : c.Honest Q) (schedule : List Nat) : (c.run schedule).Honest Q :=
  run_induction (P := Honest Q) (fun _ i h => h.step i) h schedule

theorem Honest.result {c : Crew α} (h : c.Honest Q) {w : Worker α} (mem : w ∈ c.workers) {a : α}
    (result : w.result? = some a) : Q a := by
  have ends := h.programs w mem
  unfold Worker.result? at result
  split at result
  · cases result
    cases ends with
    | finished kind => exact kind
  · cases result

end Crew

end Phrasemill
