import TimedRelease.Proofs.Command.SignRequest
import TimedRelease.Proofs.Dialogue.Serving

/-!
# What is told of a command

Of the exchanges of a command these are told: what it learns from clock and wallet, what it
has signed and hands to the scheduler with the answers, and what it prints.
-/

namespace TimedRelease

open Dialogue (Yields)

/-- A transaction that is handed to the signer, and what is answered. -/
structure Signature where
  transaction : CanonicalTransaction
  answer : Except AccountError SignedTransaction

/-- A signed transaction that is handed to the scheduler, and what is answered. -/
structure Handover where
  condition : Condition
  raw : RawTransaction
  answer : Except SchedulingError String

def Handover.outcome (handover : Handover) : ScheduleOutcome :=
  .ofAnswer handover.answer

/-- What is told of the exchanges of a command, each kind in order. -/
structure Told where
  /-- The readings of the clock. -/
  readings : List UInt64 := []
  /-- The heights of the chain that are learned. -/
  heights : List UInt64 := []
  /-- What the wallet answers about its accounts. -/
  accounts : List (Except AccountError (List Account)) := []
  /-- What the wallet answers about the gas price. -/
  gasPrices : List (Except AccountError Word256) := []
  signatures : List Signature := []
  handovers : List Handover := []
  /-- The lines that are printed. -/
  lines : List String := []

namespace Told

/-- What is told of earlier and later exchanges. -/
def append (earlier later : Told) : Told where
  readings := earlier.readings ++ later.readings
  heights := earlier.heights ++ later.heights
  accounts := earlier.accounts ++ later.accounts
  gasPrices := earlier.gasPrices ++ later.gasPrices
  signatures := earlier.signatures ++ later.signatures
  handovers := earlier.handovers ++ later.handovers
  lines := earlier.lines ++ later.lines

instance : Append Told := ⟨append⟩

theorem append_eq (earlier later : Told) : earlier ++ later = earlier.append later := rfl

theorem append_assoc (first second third : Told) :
    first ++ second ++ third = first ++ (second ++ third) := by
  simp only [append_eq, append, List.append_assoc]

/-- What is told of one exchange. -/
def ofExchange : Exchange Query Query.Answer → Told
  | ⟨.clock, now⟩ => { readings := [now] }
  | ⟨.chainHead, answer⟩ => { heights := answer.toOption.toList }
  | ⟨.accounts, answer⟩ => { accounts := [answer] }
  | ⟨.gasPrice, answer⟩ => { gasPrices := [answer] }
  | ⟨.call (.sign transaction), answer⟩ => { signatures := [⟨transaction, answer⟩] }
  | ⟨.call (.schedule condition raw), answer⟩ => { handovers := [⟨condition, raw, answer⟩] }
  | ⟨.print line, _⟩ => { lines := [line] }
  | ⟨.warn _, _⟩ => {}

/-- What is told of the exchanges of a command. -/
def of : List (Exchange Query Query.Answer) → Told
  | [] => {}
  | first :: later => ofExchange first ++ of later

theorem of_append (earlier later : List (Exchange Query Query.Answer)) :
    of (earlier ++ later) = of earlier ++ of later := by
  induction earlier with
  | nil => rfl
  | cons first rest induction => rw [List.cons_append, of, of, induction, append_assoc]

/-- The first height of the chain that is learned, or zero. -/
def floor (told : Told) : UInt64 :=
  told.heights.headD 0

/-- The accounts that are offered. -/
def offers (told : Told) : List (List Account) :=
  told.accounts.filterMap Except.toOption

/-- The news of the wallet as edits of a draft. -/
def news (told : Told) : List DraftEdit :=
  told.offers.map .applyAccounts ++
    (told.gasPrices.filterMap Except.toOption).map .applyGasPrice

/-- The draft that the news of the wallet, and then flags, make of a new one. -/
def draft [Digest.Hash] (told : Told) (flags : DraftFlags) : Draft :=
  Draft.start.run (told.news ++ flags.edits)

end Told

variable {exchanges : List (Exchange Query Query.Answer)}

namespace Asking

theorem told_warnAll {lines : List String} {result : Unit}
    (yields : Yields (warnAll lines) exchanges result) : Told.of exchanges = {} := by
  induction lines generalizing exchanges with
  | nil =>
      cases yields
      rfl
  | cons line rest induction =>
      obtain ⟨answer, later, rfl, goesOn⟩ := Dialogue.yields_ask_iff.mp yields
      rw [Told.of, induction goesOn]
      rfl

theorem yields_calls_iff {α : Type} {calling : Calling α} {value : α} :
    Yields (calls calling) exchanges value ↔
      ∃ made : List (Exchange Call Call.Answer),
        exchanges = made.map (fun made => ⟨.call made.question, made.answer⟩) ∧
          Yields calling made value := by
  apply Dialogue.yields_answeredBy_passing_iff
  intro question asked given
  exact Dialogue.yields_question_iff

end Asking

end TimedRelease
