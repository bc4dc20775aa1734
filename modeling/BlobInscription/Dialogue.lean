/-!
Computations that ask questions of their surroundings. A dialogue is a plan: what to ask first, and
how to go on with each possible answer. It does nothing by itself, so it can be answered by the
world, by a script, or by another dialogue.
-/

namespace BlobInscription

/-- A computation that asks questions `q : Q`, each with an answer in `A q`, before it ends. -/
inductive Dialogue {Q : Type} (A : Q → Type) (α : Type) : Type
  | done (value : α)
  | ask (question : Q) (next : A question → Dialogue A α)

namespace Dialogue

variable {Q R : Type} {A : Q → Type} {B : R → Type} {α β γ : Type}

def bind : Dialogue A α → (α → Dialogue A β) → Dialogue A β
  | done value, f => f value
  | ask question next, f => ask question fun answer => (next answer).bind f

instance : Monad (Dialogue A) where
  pure := done
  bind := bind

/-- Asks one question. -/
def query (question : Q) : Dialogue A (A question) :=
  ask question done

/-- Answers each question by another dialogue. -/
def relay (answer : (question : Q) → Dialogue B (A question)) : Dialogue A α → Dialogue B α
  | done value => done value
  | ask question next => (answer question).bind fun a => (next a).relay answer

/-- Answers each question by an action. -/
def run {m : Type → Type} [Monad m] (answer : (question : Q) → m (A question)) :
    Dialogue A α → m α
  | done value => pure value
  | ask question next => do (next (← answer question)).run answer

@[simp] theorem done_bind (value : α) (f : α → Dialogue A β) : (done value).bind f = f value := rfl

@[simp] theorem ask_bind (question : Q) (next : A question → Dialogue A α) (f : α → Dialogue A β) :
    (ask question next).bind f = ask question fun answer => (next answer).bind f := rfl

@[simp] theorem bind_done (d : Dialogue A α) : d.bind done = d := by
  induction d with
  | done value => rfl
  | ask question next ih => exact congrArg (ask question) (funext ih)

theorem bind_assoc (d : Dialogue A α) (f : α → Dialogue A β) (g : β → Dialogue A γ) :
    (d.bind f).bind g = d.bind fun a => (f a).bind g := by
  induction d with
  | done value => rfl
  | ask question next ih => exact congrArg (ask question) (funext ih)

end Dialogue

end BlobInscription
