/-!
# Dialogues

A dialogue asks questions of others and goes on with their answers, whatever
those may be.  What it asks is part of the value, so that a law about a dialogue
holds for all answers; only the outermost layer of a program answers for real.
-/

namespace TimedRelease

/-- A computation that asks questions, each with its own kind of answer. -/
inductive Dialogue (Question : Type) (Answer : Question → Type) (α : Type) where
  | done (value : α)
  | ask (question : Question) (next : Answer question → Dialogue Question Answer α)

/-- A question and the answer it was given. -/
structure Exchange (Question : Type) (Answer : Question → Type) where
  question : Question
  answer : Answer question

namespace Dialogue

variable {Question : Type} {Answer : Question → Type} {α β : Type}

/-- One question, with its answer as the result. -/
def question (question : Question) : Dialogue Question Answer (Answer question) :=
  .ask question .done

/-- Goes on with the result of a dialogue. -/
def bind : Dialogue Question Answer α → (α → Dialogue Question Answer β) →
    Dialogue Question Answer β
  | .done value, next => next value
  | .ask question more, next => .ask question fun answer => (more answer).bind next

/-- Goes on with the value of a dialogue that may fail, and ends where it failed. -/
def andThen {ε : Type} (dialogue : Dialogue Question Answer (Except ε α))
    (next : α → Dialogue Question Answer (Except ε β)) : Dialogue Question Answer (Except ε β) :=
  dialogue.bind fun
    | .ok value => next value
    | .error error => .done (.error error)

instance : Monad (Dialogue Question Answer) where
  pure := .done
  bind := bind

/-- Holds the dialogue with others who answer in some monad. -/
def answeredBy {m : Type → Type} [Monad m] (answer : (question : Question) → m (Answer question)) :
    Dialogue Question Answer α → m α
  | .done value => pure value
  | .ask question next => answer question >>= fun given => (next given).answeredBy answer

/-- The dialogue can go through these exchanges and end with this value. -/
inductive Yields : Dialogue Question Answer α → List (Exchange Question Answer) → α → Prop where
  | done (value : α) : Yields (.done value) [] value
  | ask {question : Question} {next : Answer question → Dialogue Question Answer α}
      {answer : Answer question} {later : List (Exchange Question Answer)} {value : α}
      (yields : Yields (next answer) later value) :
      Yields (.ask question next) (⟨question, answer⟩ :: later) value

@[simp] theorem pure_eq (value : α) :
    (pure value : Dialogue Question Answer α) = .done value := rfl

@[simp] theorem bind_eq (dialogue : Dialogue Question Answer α)
    (next : α → Dialogue Question Answer β) : dialogue >>= next = dialogue.bind next := rfl

@[simp] theorem done_bind (value : α) (next : α → Dialogue Question Answer β) :
    (done value).bind next = next value := rfl

@[simp] theorem ask_bind (question : Question) (more : Answer question → Dialogue Question Answer α)
    (next : α → Dialogue Question Answer β) :
    (ask question more).bind next = ask question fun answer => (more answer).bind next := rfl

end Dialogue

end TimedRelease
