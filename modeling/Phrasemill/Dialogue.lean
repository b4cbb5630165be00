import Phrasemill.Pool

/-!
# Dialogues with the pool

A computation that draws unique candidates cannot know what the pool holds when its draw is
answered, since others may draw as well. It is therefore kept as a dialogue: either it is over, or it
asks the pool and goes on with the reply. Everything else about it is pure. Running it against one
pool without interruption is `Dialogue.run`; runs in which several dialogues take turns are made of
the same requests.
-/

namespace Phrasemill

/-- A computation that asks a pool for candidates. -/
inductive Dialogue (α : Type) where
  | finished (result : α)
  | ask (request : Pool.Request) (resume : Pool.Reply → Dialogue α)

namespace Dialogue

def bind {α β : Type} (d : Dialogue α) (f : α → Dialogue β) : Dialogue β :=
  match d with
  | finished a => f a
  | ask request resume => ask request fun reply => (resume reply).bind f

instance : Monad Dialogue where
  pure := finished
  bind := bind

@[simp] theorem finished_bind {α β : Type} (a : α) (f : α → Dialogue β) : finished a >>= f = f a := rfl

@[simp] theorem ask_bind {α β : Type} (request : Pool.Request) (resume : Pool.Reply → Dialogue α)
    (f : α → Dialogue β) : ask request resume >>= f = ask request fun reply => resume reply >>= f :=
  rfl

theorem bind_finished {α : Type} (d : Dialogue α) : d >>= finished = d := by
  induction d with
  | finished a => rfl
  | ask request resume ih => simp [ih]

theorem bind_assoc {α β γ : Type} (d : Dialogue α) (f : α → Dialogue β) (g : β → Dialogue γ) :
    d >>= f >>= g = d >>= fun a => f a >>= g := by
  induction d with
  | finished a => rfl
  | ask request resume ih => simp [ih]

instance : LawfulMonad Dialogue :=
  LawfulMonad.mk' Dialogue (fun d => bind_finished d) (fun _ _ => rfl) bind_assoc

/-- Runs a dialogue against a pool, each request answered at once. -/
def run {α : Type} : Dialogue α → Pool → α × Pool
  | finished a, p => (a, p)
  | ask request resume, p =>
    let (reply, p) := p.answer request
    (resume reply).run p

@[simp] theorem run_pure {α : Type} (a : α) (p : Pool) : (pure a : Dialogue α).run p = (a, p) := rfl

@[simp] theorem run_bind {α β : Type} (d : Dialogue α) (f : α → Dialogue β) (p : Pool) :
    (d >>= f).run p = (f (d.run p).1).run (d.run p).2 := by
  induction d generalizing p with
  | finished a => rfl
  | ask request resume ih => exact ih _ _

end Dialogue

end Phrasemill
