import TimedRelease.Dialogue

/-!
# The exchanges of a dialogue

A dialogue that goes on with the result of another exchanges what the first does and
then what is asked for that result.  Whoever answers every question hears a dialogue
to its end.
-/

namespace TimedRelease.Dialogue

variable {Question : Type} {Answer : Question → Type} {α β : Type}
variable {exchanges : List (Exchange Question Answer)}

@[simp] theorem yields_done_iff {value result : α} :
    Yields (.done value) exchanges result ↔ exchanges = [] ∧ result = value := by
  constructor
  · intro yields
    cases yields
    exact ⟨rfl, rfl⟩
  · rintro ⟨rfl, rfl⟩
    exact .done _

@[simp] theorem yields_ask_iff {question : Question}
    {next : Answer question → Dialogue Question Answer α} {result : α} :
    Yields (.ask question next) exchanges result ↔
      ∃ answer later, exchanges = ⟨question, answer⟩ :: later ∧
        Yields (next answer) later result := by
  constructor
  · intro yields
    cases yields with
    | ask later => exact ⟨_, _, rfl, later⟩
  · rintro ⟨answer, later, rfl, yields⟩
    exact .ask yields

theorem yields_bind_iff {dialogue : Dialogue Question Answer α}
    {next : α → Dialogue Question Answer β} {result : β} :
    Yields (dialogue.bind next) exchanges result ↔
      ∃ first value later, exchanges = first ++ later ∧ Yields dialogue first value ∧
        Yields (next value) later result := by
  induction dialogue generalizing exchanges with
  | done value =>
      constructor
      · intro yields
        exact ⟨[], value, exchanges, rfl, .done value, yields⟩
      · rintro ⟨first, value, later, rfl, yields, rest⟩
        obtain ⟨rfl, rfl⟩ := yields_done_iff.mp yields
        exact rest
  | ask question more induction =>
      rw [ask_bind, yields_ask_iff]
      constructor
      · rintro ⟨answer, rest, rfl, yields⟩
        obtain ⟨first, value, later, rfl, given, goesOn⟩ := (induction answer).mp yields
        exact ⟨⟨question, answer⟩ :: first, value, later, rfl, .ask given, goesOn⟩
      · rintro ⟨first, value, later, rfl, asked, goesOn⟩
        obtain ⟨answer, given, rfl, answered⟩ := yields_ask_iff.mp asked
        exact ⟨answer, given ++ later, rfl,
          (induction answer).mpr ⟨given, value, later, rfl, answered, goesOn⟩⟩

theorem Yields.bind {dialogue : Dialogue Question Answer α}
    {next : α → Dialogue Question Answer β} {first later : List (Exchange Question Answer)}
    {value : α} {result : β} (yields : Yields dialogue first value)
    (goesOn : Yields (next value) later result) :
    Yields (dialogue.bind next) (first ++ later) result :=
  yields_bind_iff.mpr ⟨first, value, later, rfl, yields, goesOn⟩

theorem yields_bind_done_iff {dialogue : Dialogue Question Answer α} {result : α → β}
    {last : β} :
    Yields (dialogue.bind fun value => .done (result value)) exchanges last ↔
      ∃ value, last = result value ∧ Yields dialogue exchanges value := by
  rw [yields_bind_iff]
  constructor
  · rintro ⟨first, value, later, rfl, yields, ends⟩
    obtain ⟨rfl, same⟩ := yields_done_iff.mp ends
    rw [List.append_nil]
    exact ⟨value, same, yields⟩
  · rintro ⟨value, rfl, yields⟩
    exact ⟨exchanges, value, [], (List.append_nil _).symm, yields, .done _⟩

/-- The answers are those of someone who may look back on what was exchanged before. -/
def Answered (answer : List (Exchange Question Answer) → (question : Question) → Answer question)
    (exchanges : List (Exchange Question Answer)) : Prop :=
  ∀ earlier exchange later, exchanges = earlier ++ exchange :: later →
    exchange.answer = answer earlier exchange.question

/-- Whoever answers every question hears a dialogue to its end. -/
theorem exists_yields (dialogue : Dialogue Question Answer α)
    (answer : List (Exchange Question Answer) → (question : Question) → Answer question) :
    ∃ exchanges value, Yields dialogue exchanges value ∧ Answered answer exchanges := by
  induction dialogue generalizing answer with
  | done value => exact ⟨[], value, .done value, by simp [Answered]⟩
  | ask question next induction =>
      -- The rest is answered by the same person, who remembers this first exchange.
      let first : Exchange Question Answer := ⟨question, answer [] question⟩
      obtain ⟨later, value, yields, answered⟩ :=
        induction first.answer fun earlier => answer (first :: earlier)
      refine ⟨first :: later, value, .ask yields, ?_⟩
      intro earlier exchange after same
      cases earlier with
      | nil =>
          cases same
          rfl
      | cons other earlier =>
          obtain ⟨rfl, rest⟩ := List.cons.inj same
          exact answered earlier exchange after rest

end TimedRelease.Dialogue
