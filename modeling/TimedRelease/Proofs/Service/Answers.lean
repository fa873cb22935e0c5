import TimedRelease.Proofs.Dialogue.Yields
import TimedRelease.Proofs.Wire.Messages
import TimedRelease.Proofs.Wire.Records
import TimedRelease.Service.HttpScheduler

/-!
# What the answer of a scheduler comes to

`Reported` says of the body of an answer, and of nothing else, what a scheduling attempt
comes to.  Whatever the status, that is what does come of it; so nothing counts as
scheduled whose body carries an error or no result.
-/

namespace TimedRelease

open Json (Value IsText)
open Wire

namespace Json.Value

theorem sorted_ne_null {value : Value} (present : value ≠ .null) : value.sorted ≠ .null := by
  cases value <;> simp_all [sorted]

end Json.Value

theorem Wire.eq_sorted_of_anyValue {level : Nat} {value read : Value}
    (kept : anyValue level value = .ok read) : read = value.sorted := by
  rw [anyValue] at kept
  split at kept
  · cases kept
    rfl
  · contradiction

namespace Rpc.Response.IsReadFrom

variable {value : Value} {response : Response}

/-- A result that is read is the sorted form of what the body gives, and not `null`. -/
theorem result_eq_some {read : Value} (reads : response.IsReadFrom value)
    (given : response.result = some read) :
    ∃ result, fieldOf? value 2 "result" = some result ∧ read = result.sorted ∧
      read ≠ .null := by
  have field := reads.result
  rw [given] at field
  cases found : fieldOf? value 2 "result" with
  | none =>
      rw [found] at field
      cases field
  | some result =>
      rw [found] at field
      cases field with
      | some kept =>
          have present : result ≠ .null := by
            rintro rfl
            exact (partOf value 2 "result").value?_ne_null found
          obtain rfl := eq_sorted_of_anyValue kept
          exact ⟨result, rfl, rfl, Json.Value.sorted_ne_null present⟩

theorem failure_eq_none (reads : response.IsReadFrom value)
    (none : response.failure = none) : fieldOf? value 3 "error" = .none := by
  have field := reads.failure
  rw [none] at field
  generalize fieldOf? value 3 "error" = found at field
  cases field
  rfl

end Rpc.Response.IsReadFrom

namespace HttpScheduler

open Dialogue (Yields)
open Rpc (Response Failure)

/-- The body is an answer to a call. -/
def Answers (body : String) (response : Response) : Prop :=
  ∃ value, IsText body value ∧ response.IsReadFrom value

/-- What the body of an answer says of a scheduling attempt. -/
inductive Reported (body : String) : ScheduleOutcome → Prop where
  | undecodable (reason : String) (unread : ∀ response, ¬Answers body response) :
      Reported body (.failed ("Invalid response: " ++ reason))
  | refused {response : Response} {failure : Failure} (answers : Answers body response)
      (failed : response.failure = some failure) : Reported body (.failed failure.display)
  | named {response : Response} {id : String} (answers : Answers body response)
      (succeeded : response.failure = none) (result : response.result = some (.string id)) :
      Reported body (.scheduled id)
  | described {response : Response} {result : Value} (answers : Answers body response)
      (succeeded : response.failure = none) (given : response.result = some result)
      (present : result ≠ .null) (unnamed : ∀ id, result ≠ .string id) :
      Reported body (.scheduled result.text)
  | silent {response : Response} (answers : Answers body response)
      (succeeded : response.failure = none) (missing : response.result = none) :
      Reported body
        (.failed ("Invalid response: " ++ "Response has neither result nor error"))

theorem readText_eq_ok_iff_answers {body : String} {response : Response} :
    readText Response.decode body = .ok response ↔ Answers body response := by
  rw [readText_eq_ok_iff]
  simp only [Response.decode_eq_ok_iff, Answers]

theorem Answers.unique {body : String} {response other : Response}
    (first : Answers body response) (second : Answers body other) : response = other := by
  have read := readText_eq_ok_iff_answers.mpr first
  rw [readText_eq_ok_iff_answers.mpr second] at read
  cases read
  rfl

section

variable {response : Response}

theorem identifier_of_failure {failure : Failure} (failed : response.failure = some failure) :
    identifier response = .error (.refused failure.display) := by
  rw [identifier, Response.outcome?, failed]

theorem identifier_of_result {result : Value} (succeeded : response.failure = none)
    (given : response.result = some result) (present : result ≠ .null) :
    (∃ id, result = .string id ∧ identifier response = .ok id) ∨
      (∀ id, result ≠ .string id) ∧ identifier response = .ok result.text := by
  rw [identifier, Response.outcome?, succeeded, given]
  cases result with
  | null => contradiction
  | string id => exact .inl ⟨id, rfl, rfl⟩
  | _ => exact .inr ⟨by simp, rfl⟩

theorem identifier_of_neither (succeeded : response.failure = none)
    (missing : response.result = none) :
    identifier response =
      .error (.invalidResponse "Response has neither result nor error") := by
  rw [identifier, Response.outcome?, succeeded, missing]

end

namespace Reported

variable {body : String} {response : Response}

theorem of_answers (answers : Answers body response) :
    Reported body (.ofAnswer (identifier response)) := by
  obtain ⟨value, -, reads⟩ := id answers
  cases failed : response.failure with
  | some failure =>
      rw [identifier_of_failure failed]
      exact .refused answers failed
  | none =>
      cases given : response.result with
      | none =>
          rw [identifier_of_neither failed given]
          exact .silent answers failed given
      | some result =>
          obtain ⟨-, -, -, present⟩ := reads.result_eq_some given
          rcases identifier_of_result failed given present with
            ⟨id, rfl, same⟩ | ⟨unnamed, same⟩
          · rw [same]
            exact .named answers failed given
          · rw [same]
            exact .described answers failed given present unnamed

theorem of_classify (status : Nat) (body : String) :
    Reported body (.ofAnswer (classify (.complete status body))) := by
  rw [classify]
  cases read : readText Response.decode body with
  | ok response => exact .of_answers (readText_eq_ok_iff_answers.mp read)
  | error error =>
      apply Reported.undecodable
      intro response answers
      rw [readText_eq_ok_iff_answers.mpr answers] at read
      contradiction

theorem eq_of_answers {outcome : ScheduleOutcome} (reported : Reported body outcome)
    (answers : Answers body response) : outcome = .ofAnswer (identifier response) := by
  cases reported with
  | undecodable reason unread => exact absurd answers (unread response)
  | refused same failed =>
      obtain rfl := answers.unique same
      rw [identifier_of_failure failed]
      rfl
  | named same succeeded given =>
      obtain rfl := answers.unique same
      rcases identifier_of_result succeeded given (by simp) with
        ⟨id, named, found⟩ | ⟨unnamed, -⟩
      · cases named
        rw [found]
        rfl
      · exact absurd rfl (unnamed _)
  | described same succeeded given present unnamed =>
      obtain rfl := answers.unique same
      rcases identifier_of_result succeeded given present with ⟨id, named, -⟩ | ⟨-, found⟩
      · exact absurd named (unnamed id)
      · rw [found]
        rfl
  | silent same succeeded missing =>
      obtain rfl := answers.unique same
      rw [identifier_of_neither succeeded missing]
      rfl

/-- A body says one thing, but for the reason that it is no answer. -/
theorem unique {outcome other : ScheduleOutcome} (first : Reported body outcome)
    (second : Reported body other) :
    outcome = other ∨ (∀ response, ¬Answers body response) ∧ ∃ reason otherReason,
      outcome = .failed ("Invalid response: " ++ reason) ∧
        other = .failed ("Invalid response: " ++ otherReason) := by
  by_cases decodes : ∃ response, Answers body response
  · obtain ⟨response, answers⟩ := decodes
    exact .inl ((first.eq_of_answers answers).trans (second.eq_of_answers answers).symm)
  · have undecodable {outcome : ScheduleOutcome} (reported : Reported body outcome) :
        ∃ reason, outcome = .failed ("Invalid response: " ++ reason) := by
      cases reported with
      | undecodable reason => exact ⟨reason, rfl⟩
      | _ answers => exact absurd ⟨_, answers⟩ decodes
    obtain ⟨reason, same⟩ := undecodable first
    obtain ⟨otherReason, otherSame⟩ := undecodable second
    exact .inr ⟨not_exists.mp decodes, reason, otherReason, same, otherSame⟩

/-- What counts as scheduled carries a result, which gives the identifier, and no error. -/
theorem of_scheduled {id : String} (reported : Reported body (.scheduled id)) :
    ∃ value result, IsText body value ∧ isRecord Response.fields value = true ∧
      fieldOf? value 3 "error" = none ∧ fieldOf? value 2 "result" = some result ∧
      (result.sorted = .string id ∨ id = result.sorted.text) := by
  cases reported with
  | named answers succeeded given =>
      obtain ⟨value, text, reads⟩ := answers
      obtain ⟨result, field, same, -⟩ := reads.result_eq_some given
      exact ⟨value, result, text, reads.record, reads.failure_eq_none succeeded, field,
        .inl same.symm⟩
  | described answers succeeded given =>
      obtain ⟨value, text, reads⟩ := answers
      obtain ⟨result, field, rfl, -⟩ := reads.result_eq_some given
      exact ⟨value, result, text, reads.record, reads.failure_eq_none succeeded, field,
        .inr rfl⟩

end Reported

theorem yields_submit_iff {scheduler next : HttpScheduler} {condition : Condition}
    {raw : RawTransaction} {exchanges : List (Exchange Http.Post fun _ => Http.Reply)}
    {answer : Except SchedulingError String} :
    Yields (scheduler.submit condition raw) exchanges (next, answer) ↔
      ∃ reply, exchanges = [⟨scheduler.post condition raw, reply⟩] ∧
        next = { scheduler with nextId := scheduler.nextId + 1 } ∧ answer = classify reply := by
  simp only [submit, Dialogue.yields_ask_iff, Dialogue.yields_done_iff, Prod.mk.injEq]
  constructor
  · rintro ⟨reply, later, rfl, rfl, same, rfl⟩
    exact ⟨reply, rfl, same, rfl⟩
  · rintro ⟨reply, rfl, rfl, rfl⟩
    exact ⟨reply, [], rfl, rfl, rfl, rfl⟩

/-- Whatever the status and whatever the body that arrives, an attempt comes to what that
body says, and to nothing else that it says but for the reason that it is no answer.  It
counts as scheduled only if the body is an answer with a result and without an error. -/
theorem outcome_told_by_body (scheduler : HttpScheduler) (condition : Condition)
    (raw : RawTransaction) (status : Nat) (body : String) :
    ∃ next answer,
      (∀ last given, Yields (scheduler.submit condition raw)
          [⟨scheduler.post condition raw, .complete status body⟩] (last, given) ↔
        last = next ∧ given = answer) ∧
      Reported body (.ofAnswer answer) ∧
      (∀ outcome, Reported body outcome → ScheduleOutcome.ofAnswer answer = outcome ∨
        (∀ response, ¬Answers body response) ∧ ∃ reason otherReason,
          ScheduleOutcome.ofAnswer answer = .failed ("Invalid response: " ++ reason) ∧
            outcome = .failed ("Invalid response: " ++ otherReason)) ∧
      ∀ id, ScheduleOutcome.ofAnswer answer = .scheduled id →
        ∃ value result, IsText body value ∧ isRecord Response.fields value = true ∧
          fieldOf? value 3 "error" = none ∧ fieldOf? value 2 "result" = some result ∧
          (result.sorted = .string id ∨ id = result.sorted.text) := by
  have reported := Reported.of_classify status body
  refine ⟨{ scheduler with nextId := scheduler.nextId + 1 }, classify (.complete status body),
    ?_, reported, ?_, ?_⟩
  · intro last given
    rw [yields_submit_iff]
    constructor
    · rintro ⟨reply, same, rfl, rfl⟩
      cases same
      exact ⟨rfl, rfl⟩
    · rintro ⟨rfl, rfl⟩
      exact ⟨_, rfl, rfl, rfl⟩
  · intro outcome other
    exact reported.unique other
  · intro id scheduled
    rw [scheduled] at reported
    exact reported.of_scheduled

/-- A scheduler that gives an identifier along with an error has refused, also where the
status says that all went well. -/
theorem error_outweighs_result :
    let scheduler := make "http://127.0.0.1:8080" 30
    let raw : RawTransaction := ⟨"0xf86c", by decide⟩
    let value : Value := .object [("result", .string "sched-42"),
      ("error", .object [("code", .number (.integer (-32000))),
        ("message", .string "nonce too low")])]
    let reply : Http.Reply := .complete 200 value.text
    let failure : Failure := ⟨some (-32000), "nonce too low", none⟩
    ∃ next answer, Yields (scheduler.submit (.block 150) raw)
        [⟨scheduler.post (.block 150) raw, reply⟩] (next, answer) ∧
      ScheduleOutcome.ofAnswer answer = .failed failure.display := by
  intro scheduler raw value reply failure
  have exact : value.isExact = true := by decide
  have answers : Answers value.text ⟨none, none, some (.string "sched-42"), some failure⟩ := by
    rw [← readText_eq_ok_iff_answers, readText_text _ exact]
    rfl
  obtain ⟨next, answer, comes, -, only, -⟩ :=
    outcome_told_by_body scheduler (.block 150) raw 200 value.text
  refine ⟨next, answer, (comes next answer).mpr ⟨rfl, rfl⟩, ?_⟩
  rcases only _ (.refused answers rfl) with same | ⟨undecodable, -⟩
  · exact same
  · exact absurd answers (undecodable _)

end HttpScheduler

end TimedRelease
