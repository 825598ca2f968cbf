/-!
# Programs that ask

The operator decides; the platform, the servers and the clock answer. A `Program` is the operator's
side of that conversation as a value: it is either done, or it asks a question and says, for every
answer, how it goes on. Nothing about the answers is assumed, so what holds of a program holds
whatever fails and whoever else writes in between; running one is a separate choice of answers.
-/

set_option autoImplicit false

namespace ClusterOperator

/-- A program that asks questions, each with its own type of answers, and ends with a result. It is
a tree that branches over all answers, so a statement about the tree holds whatever the answers
are. -/
inductive Program (Question : Type) (Answer : Question → Type) (α : Type)
  /-- The program ends. -/
  | done (result : α)
  /-- The program asks, and goes on with the answer. -/
  | ask (question : Question) (next : Answer question → Program Question Answer α)

namespace Program

variable {Question : Type} {Answer : Question → Type} {α β γ : Type}

/-- Goes on with another program where one ends. -/
def bind : Program Question Answer α → (α → Program Question Answer β) →
    Program Question Answer β
  | done a, f => f a
  | ask q next, f => ask q fun answer => (next answer).bind f

instance : Monad (Program Question Answer) where
  pure := done
  bind := bind

def query (q : Question) : Program Question Answer (Answer q) := ask q done

/-- Runs a program in a world that answers. The world is any monad, from a pure script to one that
waits for replies. -/
def run {M : Type → Type} [Monad M] (answer : (q : Question) → M (Answer q)) :
    Program Question Answer α → M α
  | done a => pure a
  | ask q next => do (next (← answer q)).run answer

@[simp] theorem bind_done (a : α) (f : α → Program Question Answer β) :
    (done a).bind f = f a := rfl

@[simp] theorem bind_ask (q : Question) (next : Answer q → Program Question Answer α)
    (f : α → Program Question Answer β) :
    (ask q next).bind f = ask q fun answer => (next answer).bind f := rfl

/-- Ending at once changes nothing. -/
@[simp] theorem bind_done_right (p : Program Question Answer α) : p.bind done = p := by
  induction p with
  | done a => rfl
  | ask q next ih => simp [ih]

/-- How programs are put together in sequence does not matter. -/
theorem bind_assoc (p : Program Question Answer α) (f : α → Program Question Answer β)
    (g : β → Program Question Answer γ) : (p.bind f).bind g = p.bind fun a => (f a).bind g := by
  induction p with
  | done a => rfl
  | ask q next ih => simp [ih]

instance : LawfulMonad (Program Question Answer) :=
  LawfulMonad.mk' _ bind_done_right (fun _ _ => rfl) bind_assoc

end Program

end ClusterOperator
