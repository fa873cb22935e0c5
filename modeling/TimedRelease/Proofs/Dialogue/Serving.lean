import TimedRelease.Proofs.Dialogue.Yields

/-!
# Answering for others

Whoever answers the questions of a dialogue may have questions of their own.  The
dialogue then goes through its exchanges while others are asked, one service after the
other.
-/

namespace TimedRelease.Dialogue

variable {Question Asked : Type} {Answer : Question → Type} {Reply : Asked → Type}
variable {State α : Type}

theorem yields_question_iff {asked : Question} {exchanges : List (Exchange Question Answer)}
    {answer : Answer asked} :
    Yields (question asked) exchanges answer ↔ exchanges = [⟨asked, answer⟩] := by
  rw [question, yields_ask_iff]
  constructor
  · rintro ⟨given, later, rfl, ends⟩
    obtain ⟨rfl, rfl⟩ := yields_done_iff.mp ends
    rfl
  · rintro rfl
    exact ⟨answer, [], rfl, .done _⟩

/-- If every question is passed on as one other, so are the exchanges. -/
theorem yields_answeredBy_passing_iff
    {answer : (question : Question) → Dialogue Asked Reply (Answer question)}
    {passed : Exchange Question Answer → Exchange Asked Reply}
    (passes : ∀ question asked given,
      Yields (answer question) asked given ↔ asked = [passed ⟨question, given⟩])
    {dialogue : Dialogue Question Answer α} {asked : List (Exchange Asked Reply)} {value : α} :
    Yields (dialogue.answeredBy answer) asked value ↔
      ∃ exchanges, asked = exchanges.map passed ∧ Yields dialogue exchanges value := by
  induction dialogue generalizing asked with
  | done last =>
      simp only [answeredBy, pure_eq, yields_done_iff]
      constructor
      · rintro ⟨rfl, rfl⟩
        exact ⟨[], rfl, rfl, rfl⟩
      · rintro ⟨exchanges, rfl, rfl, rfl⟩
        exact ⟨rfl, rfl⟩
  | ask question next induction =>
      simp only [answeredBy, bind_eq, yields_bind_iff, passes, induction, yields_ask_iff]
      constructor
      · rintro ⟨first, given, later, rfl, rfl, exchanges, rfl, yields⟩
        exact ⟨⟨question, given⟩ :: exchanges, rfl, given, exchanges, rfl, yields⟩
      · rintro ⟨exchanges, rfl, given, later, rfl, yields⟩
        exact ⟨_, given, _, rfl, rfl, later, rfl, yields⟩

/-- Exchanges that are served, with what is asked of others for it and the states from the
first to the last. -/
inductive Served (serve : (question : Question) → StateT State (Dialogue Asked Reply)
    (Answer question)) : State → List (Exchange Question Answer) →
      List (Exchange Asked Reply) → State → Prop where
  | nil (state : State) : Served serve state [] [] state
  | cons {state next last : State} {question : Question} {answer : Answer question}
      {asked later : List (Exchange Asked Reply)} {exchanges : List (Exchange Question Answer)}
      (serves : Yields (serve question state) asked (answer, next))
      (goesOn : Served serve next exchanges later last) :
      Served serve state (⟨question, answer⟩ :: exchanges) (asked ++ later) last

variable {serve : (question : Question) → StateT State (Dialogue Asked Reply) (Answer question)}
variable {state last : State} {exchanges : List (Exchange Question Answer)}
variable {asked : List (Exchange Asked Reply)}

theorem yields_answeredBy_iff {dialogue : Dialogue Question Answer α} {value : α} :
    Yields (dialogue.answeredBy serve state) asked (value, last) ↔
      ∃ exchanges, Yields dialogue exchanges value ∧ Served serve state exchanges asked last := by
  induction dialogue generalizing state asked with
  | done result =>
      have ends : (done result : Dialogue Question Answer α).answeredBy serve state =
          .done (result, state) := rfl
      rw [ends, yields_done_iff]
      constructor
      · rintro ⟨rfl, same⟩
        cases same
        exact ⟨[], .done _, .nil _⟩
      · rintro ⟨exchanges, yields, served⟩
        cases yields
        cases served
        exact ⟨rfl, rfl⟩
  | ask question next induction =>
      have asks : (ask question next).answeredBy serve state =
          (serve question state).bind fun given =>
            (next given.1).answeredBy serve given.2 := rfl
      rw [asks, yields_bind_iff]
      constructor
      · rintro ⟨first, ⟨answer, after⟩, later, rfl, serves, goesOn⟩
        obtain ⟨exchanges, yields, served⟩ := induction answer |>.mp goesOn
        exact ⟨⟨question, answer⟩ :: exchanges, .ask yields, .cons serves served⟩
      · rintro ⟨exchanges, yields, served⟩
        obtain ⟨answer, later, rfl, goesOn⟩ := yields_ask_iff.mp yields
        cases served with
        | cons serves served =>
            exact ⟨_, _, _, rfl, serves, (induction answer).mpr ⟨later, goesOn, served⟩⟩

theorem Served.passOn {next : State} {question : Question} {answer : Answer question}
    {passed : Exchange Asked Reply} (serves : Yields (serve question state) [passed] (answer, next))
    (goesOn : Served serve next exchanges asked last) :
    Served serve state (⟨question, answer⟩ :: exchanges) (passed :: asked) last :=
  .cons serves goesOn

end TimedRelease.Dialogue
