/-!
# Dialogues

* `Dialogue Question Answer α` : a computation that asks questions and goes on with their answers.
* `Dialogue.run` : the result of a dialogue whose questions are answered by a state.

A dialogue says what is asked in which order and what follows from each answer; it does not say who
answers.
-/

namespace PaymentChannel

/-- A computation that asks questions, each of which has answers of a type of its own. -/
inductive Dialogue (Question : Type) (Answer : Question → Type) (α : Type) where
  | done (result : α)
  | ask (question : Question) (next : Answer question → Dialogue Question Answer α)

namespace Dialogue

variable {Question : Type} {Answer : Question → Type} {α β : Type}

def bind : Dialogue Question Answer α → (α → Dialogue Question Answer β) →
    Dialogue Question Answer β
  | done result, f => f result
  | ask question next, f => ask question fun answer => (next answer).bind f

instance : Monad (Dialogue Question Answer) where
  pure := done
  bind := bind

def request (question : Question) : Dialogue Question Answer (Answer question) := ask question done

/-- The result of a dialogue whose questions are answered by a monad. -/
def run {m : Type → Type} [Monad m] (answer : (question : Question) → m (Answer question)) :
    Dialogue Question Answer α → m α
  | done result => pure result
  | ask question next => do (next (← answer question)).run answer

theorem bind_done (dialogue : Dialogue Question Answer α) : dialogue.bind done = dialogue := by
  induction dialogue with
  | done result => rfl
  | ask question next ih => simp only [bind, ih]

theorem bind_assoc {γ : Type} (dialogue : Dialogue Question Answer α)
    (f : α → Dialogue Question Answer β) (g : β → Dialogue Question Answer γ) :
    (dialogue.bind f).bind g = dialogue.bind fun a => (f a).bind g := by
  induction dialogue with
  | done result => rfl
  | ask question next ih => simp only [bind, ih]

instance : LawfulMonad (Dialogue Question Answer) :=
  .mk' _ bind_done (fun _ _ => rfl) bind_assoc

end Dialogue

end PaymentChannel
