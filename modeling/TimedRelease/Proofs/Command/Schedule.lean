import TimedRelease.Digest.Keccak
import TimedRelease.Proofs.Command.Condition
import TimedRelease.Proofs.Command.Network

/-!
# Scheduling at the command line

The command posts at most one request to the scheduler: the pasted transaction under the
condition that its flags choose.  It posts none if the flags are rejected or the text is no
transaction, announces no other condition, and succeeds if the reply says so.
-/

namespace TimedRelease

open Dialogue (Yields Answered Served)

/-- How scheduling goes. -/
inductive Scheduling (raw : String) (flags : ConditionFlags) (delay : UInt64) :
    Told → Except CommandError Ending → Prop where
  | rejected {readings heights : List UInt64} {error : EditError}
      (rejected : Rejected flags (heights.headD 0) readings error) :
      Scheduling raw flags delay { readings, heights } (.error (.refusedEdit error))
  | invalid {readings heights : List UInt64} {condition : Condition} {lines : List String}
      {error : CommandError} (chosen : Chosen flags delay (heights.headD 0) readings condition)
      (announced : lines = [] ∨ lines = [Editor.announcement condition])
      (invalid : Payload.isRawTransaction (Text.trimmed raw).toList = false) :
      Scheduling raw flags delay { readings, heights, lines } (.error error)
  | answered {readings heights : List UInt64} {handover : Handover} {lines : List String}
      (chosen : Chosen flags delay (heights.headD 0) readings handover.condition)
      (announced : lines = [] ∨ lines = [Editor.announcement handover.condition])
      (pasted : handover.raw.text = Text.trimmed raw) :
      Scheduling raw flags delay
        { readings, heights
          handovers := [handover]
          lines := lines ++ [handover.outcome.display] }
        (handover.outcome.verdict.map fun _ => .done)

theorem Scheduling.of_yields [Digest.Hash] {context : Context} {raw : String}
    {flags : ConditionFlags} {exchanges : List (Exchange Query Query.Answer)}
    {result : Except CommandError Ending}
    (yields : Yields (context.run (.schedule raw flags)) exchanges result) :
    Scheduling raw flags context.config.delaySeconds (.of exchanges) result := by
  obtain ⟨value, runs, rfl⟩ := Context.yields_ending yields
  obtain ⟨first, session, later, rfl, opens, goesOn⟩ := Dialogue.yields_bind_iff.mp runs
  obtain ⟨heights, opened, openTold, rfl⟩ := Context.yields_openSession opens
  obtain ⟨edits, verdict, submits, rfl, applies, ends⟩ := Dialogue.yields_bind_iff.mp goesOn
  have applied := Applied.of_yields rfl applies
  rw [Told.of_append, Told.of_append, openTold]
  generalize Told.of edits = edited at applied
  cases applied with
  | rejected rejected =>
      obtain ⟨rfl, rfl⟩ := Dialogue.yields_done_iff.mp ends
      simp only [Told.of, Told.append_eq, Told.append, List.append_nil, List.singleton_append]
      exact .rejected rejected
  | @chosen taken now editor lines chosen announced =>
      have submitted := Submitted.of_yields_paste ends
      generalize Told.of submits = sent at submitted
      have chosen := chosen.append [now]
      cases submitted with
      | refused invalid =>
          simp only [Told.append_eq, Told.append, List.append_nil, List.singleton_append]
          exact .invalid chosen announced invalid
      | answered stored answer =>
          simp only [Told.append_eq, Told.append, List.append_nil, List.singleton_append]
          exact .answered chosen announced stored

/-- The outcome that a reply stands for. -/
def Http.Reply.outcome (reply : Http.Reply) : ScheduleOutcome :=
  .ofAnswer (HttpScheduler.classify reply)

/-- What a run of the command does: the readings of the clock, the height of the chain, the
scheduling requests with their replies, the lines that are printed, and the result. -/
structure ScheduleRun (config : Config) (raw : String) (flags : ConditionFlags)
    (readings : List UInt64) (floor : UInt64) (requests : List (Http.Post × Http.Reply))
    (lines : List String) (result : Except CommandError Ending) : Prop where
  once : requests.length ≤ 1
  decided : (∃ condition, Chosen flags config.delaySeconds floor readings condition) ∨
    ∃ error, Rejected flags floor readings error
  rejected : ∀ error, Rejected flags floor readings error →
    requests = [] ∧ lines = [] ∧ result = .error (.refusedEdit error)
  invalid : Payload.isRawTransaction (Text.trimmed raw).toList = false → requests = []
  posted : ∀ request ∈ requests,
    request.1.url = HttpScheduler.rpcUrlOf config.scheduler.endpoint ∧
      ∃ (id : UInt64) (condition : Condition) (transaction : RawTransaction),
        Wire.readText (Rpc.Request.decode HttpScheduler.decodeParams) request.1.body =
          .ok (.make id Rpc.scheduleMethod (condition, transaction)) ∧
        transaction.text = Text.trimmed raw ∧
        Chosen flags config.delaySeconds floor readings condition
  sent : ∀ condition, Chosen flags config.delaySeconds floor readings condition →
    Payload.isRawTransaction (Text.trimmed raw).toList = true → requests ≠ []
  /-- What is printed before the outcomes is nothing, or announces the condition. -/
  announced : ∃ before, lines = before ++ requests.map (fun request => request.2.outcome.display) ∧
    (before = [] ∨ ∃ condition, before = [Editor.announcement condition] ∧
      Chosen flags config.delaySeconds floor readings condition)
  succeeds : (∃ ending, result = .ok ending) ↔
    ∃ request ∈ requests, request.2.outcome.isScheduled = true

theorem ScheduleOutcome.verdict_eq_ok_iff {outcome : ScheduleOutcome} :
    (∃ ending : Ending, (outcome.verdict.map fun _ => Ending.done) = .ok ending) ↔
      outcome.isScheduled = true := by
  rw [verdict]
  cases outcome.isScheduled <;> simp [Except.map]

theorem ScheduleRun.of_scheduling {config : Config} {raw : String} {flags : ConditionFlags}
    {requests : List (Http.Post × Http.Reply)} {result : Except CommandError Ending}
    {told : Told} (goes : Scheduling raw flags config.delaySeconds told result)
    (posted : List.Forall₂ (Posted (HttpScheduler.rpcUrlOf config.scheduler.endpoint))
      told.handovers requests) :
    ScheduleRun config raw flags told.readings told.floor requests told.lines result := by
  cases goes with
  | rejected rejected =>
      cases posted
      refine ⟨by simp, .inr ⟨_, rejected⟩, ?_, by simp, by simp, ?_, ⟨[], rfl, .inl rfl⟩, by simp⟩
      · intro error same
        rw [rejected.unique same]
        exact ⟨rfl, rfl, rfl⟩
      · intro condition chosen
        exact absurd chosen rejected.not_chosen
  | invalid chosen announced invalid =>
      -- The text is checked after the condition is announced, but before anything is posted.
      cases posted
      refine ⟨by simp, .inl ⟨_, chosen⟩, ?_, by simp, by simp, ?_, ?_, by simp⟩
      · intro error rejected
        exact absurd chosen rejected.not_chosen
      · intro condition _ valid
        rw [invalid] at valid
        exact absurd valid Bool.false_ne_true
      · refine ⟨_, (List.append_nil _).symm, announced.imp_right ?_⟩
        intro same
        exact ⟨_, same, chosen⟩
  | @answered _ _ handover _ chosen announced pasted =>
      obtain _ | ⟨@⟨url, ⟨id, body⟩, answer⟩, none⟩ := posted
      cases none
      have outcome : Http.Reply.outcome _ = handover.outcome := congrArg _ answer.symm
      refine ⟨by simp, .inl ⟨_, chosen⟩, ?_, ?_, ?_, by simp, ?_, ?_⟩
      · intro error rejected
        exact absurd chosen rejected.not_chosen
      · intro invalid
        have valid := handover.raw.isRaw
        rw [pasted, invalid] at valid
        exact absurd valid Bool.false_ne_true
      · intro request member
        cases List.mem_singleton.mp member
        exact ⟨url, id, _, _, body, pasted, chosen⟩
      · refine ⟨_, ?_, announced.imp_right ?_⟩
        · rw [List.map_singleton, outcome]
        · intro same
          exact ⟨_, same, chosen⟩
      · rw [ScheduleOutcome.verdict_eq_ok_iff, ← outcome]
        simp

namespace HttpScheduler

theorem build_eq_ok {table : Toml.Value} {scheduler : HttpScheduler}
    (built : build table = .ok scheduler) :
    ∃ endpoint, (table.member? "endpoint").bind Toml.Value.string? = some endpoint ∧
      scheduler.rpcUrl = rpcUrlOf endpoint := by
  rw [build] at built
  split at built
  · contradiction
  · split at built
    case h_1 endpoint given =>
      cases built
      exact ⟨endpoint, given, rfl⟩
    case h_2 => contradiction

theorem ofTable_eq_ok {name : String} {table : Toml.Value} {scheduler : HttpScheduler}
    (made : ofTable name table = .ok scheduler) : build table = .ok scheduler := by
  rw [ofTable] at made
  split at made
  case h_1 chosen named =>
    have member := List.mem_of_find?_eq_some named
    cases List.mem_singleton.mp member
    rw [Implementation.load] at made
    split at made
    · contradiction
    case h_2 built =>
      split at made
      · contradiction
      · cases made
        exact built
  case h_2 => contradiction

end HttpScheduler

theorem Context.of_ofConfig {config : Config} {context : Context}
    (opens : ofConfig config = .ok context) :
    context.config = config ∧
      context.scheduler.rpcUrl = HttpScheduler.rpcUrlOf config.scheduler.endpoint := by
  rw [ofConfig] at opens
  split at opens
  · contradiction
  · split at opens
    · contradiction
    case h_2 scheduler made =>
      cases opens
      refine ⟨rfl, ?_⟩
      rw [schedulerOf] at made
      split at made
      · contradiction
      case h_2 table written =>
        split at made
        · contradiction
        case h_2 scheduler named =>
          cases made
          obtain ⟨endpoint, given, address⟩ :=
            HttpScheduler.build_eq_ok (HttpScheduler.ofTable_eq_ok named)
          rw [SchedulerSection.table] at written
          split at written
          · cases written
            cases given
            exact address
          · contradiction

/-- With every accepted configuration the command comes to an end.  It posts at most one
request to the scheduler; none if the flags are rejected or the text is no transaction; and
otherwise the trimmed text under the condition that the flags choose.  It announces that
condition or nothing, and succeeds just when the reply says that the transaction is
scheduled. -/
theorem Context.schedule_posts_chosen [Digest.Hash] {config : Config} {context : Context}
    (opens : ofConfig config = .ok context) (raw : String) (flags : ConditionFlags) :
    (∀ answer : List (Exchange Action Action.Answer) → (action : Action) → action.Answer,
      ∃ actions outcome, Yields (context.perform (.schedule raw flags)) actions outcome ∧
        Answered answer actions) ∧
    ∀ actions result last,
      Yields (context.perform (.schedule raw flags)) actions (result, last) →
        ScheduleRun config raw flags (Action.readings actions) (Action.floor actions)
          (Action.requests actions Rpc.scheduleMethod) (Action.lines actions) result := by
  obtain ⟨rfl, address⟩ := of_ofConfig opens
  refine ⟨Dialogue.exists_yields _, ?_⟩
  intro actions result last yields
  obtain ⟨exchanges, runs, served⟩ := Dialogue.yields_answeredBy_iff.mp yields
  have heard := Services.heard_of_served served
  rw [services, address] at heard
  have run := ScheduleRun.of_scheduling (Scheduling.of_yields runs) heard.posted
  rwa [Told.floor, ← heard.heights, ← heard.readings, ← heard.lines] at run

namespace Context

/-- A pasted transaction is scheduled for a block, without a node to tell the height. -/
theorem pasted_transaction_scheduled :
    let config : Config := ⟨⟨"http", "http://127.0.0.1:8080", 30⟩, none, default, 10800⟩
    let context : Context := ⟨config, none, .make "http://127.0.0.1:8080" 30⟩
    let flags : ConditionFlags := ⟨some "12k", none⟩
    let raw : RawTransaction := ⟨"0xf86c", by decide⟩
    let value : Json.Value := .object [("result", .string "sched-42")]
    let reply : Http.Reply := .complete 200 value.text
    let actions : List (Exchange Action Action.Answer) :=
      [⟨.clock, (1700000000 : UInt64)⟩, ⟨.clock, (1700000001 : UInt64)⟩,
        ⟨.print (Editor.announcement (.block 12000)), ()⟩,
        ⟨.post (context.scheduler.post (.block 12000) raw), reply⟩,
        ⟨.print "Transaction Scheduled. Id: sched-42", ()⟩]
    ofConfig config = .ok context ∧
    (∃ last, Yields (context.perform (.schedule " 0xf86c " flags)) actions (.ok .done, last)) ∧
      ScheduleRun config " 0xf86c " flags (Action.readings actions) (Action.floor actions)
        (Action.requests actions Rpc.scheduleMethod) (Action.lines actions) (.ok .done) := by
  intro config context flags raw value reply actions
  have opens : ofConfig config = .ok context := by
    simp only [config, context]
    rfl
  have classified : HttpScheduler.classify reply = .ok "sched-42" := by
    have exact : value.isExact = true := by decide
    have read : Wire.readText Rpc.Response.decode value.text =
        .ok ⟨none, none, some (.string "sched-42"), none⟩ := by
      rw [Wire.readText_text _ exact]
      rfl
    rw [HttpScheduler.classify, read]
    rfl
  let exchanges : List (Exchange Query Query.Answer) :=
    [⟨.clock, (1700000000 : UInt64)⟩, ⟨.clock, (1700000001 : UInt64)⟩,
      ⟨.print (Editor.announcement (.block 12000)), ()⟩,
      ⟨.call (.schedule (.block 12000) raw), .ok "sched-42"⟩,
      ⟨.print "Transaction Scheduled. Id: sched-42", ()⟩]
  have runs : Yields (context.run (.schedule " 0xf86c " flags)) exchanges (.ok .done) := by
    simp only [config, context, exchanges, flags, raw]
    exact .ask (.ask (.ask (.ask (.ask (.done _)))))
  have posts : Yields (context.services.askScheduler (.block 12000) raw)
      [⟨.post (context.scheduler.post (.block 12000) raw), reply⟩]
      (.ok "sched-42", ⟨none, { context.scheduler with nextId := 2 }⟩) := by
    rw [← classified]
    exact .ask (.done _)
  have served : Served Services.answer context.services exchanges actions _ :=
    .passOn (.ask (.done _)) (.passOn (.ask (.done _)) (.passOn (.ask (.done _))
      (.passOn posts (.passOn (.ask (.done _)) (.nil _)))))
  have yields := Dialogue.yields_answeredBy_iff.mpr ⟨exchanges, runs, served⟩
  obtain ⟨-, each⟩ := schedule_posts_chosen opens " 0xf86c " flags
  exact ⟨opens, ⟨_, yields⟩, each _ _ _ yields⟩

theorem yields_unflagged [Digest.Hash] (config : Config) (scheduler : HttpScheduler)
    (raw : RawTransaction) {opened now : UInt64}
    (ahead : now < Editor.later opened config.delaySeconds) (error : SchedulingError) :
    let condition : Condition := .time (Editor.later opened config.delaySeconds)
    let outcome : ScheduleOutcome := .failed error.message
    Yields ((Context.mk config none scheduler).run (.schedule raw.text ⟨none, none⟩))
      [⟨.clock, opened⟩, ⟨.clock, now⟩, ⟨.print (Editor.announcement condition), ()⟩,
        ⟨.call (.schedule condition raw), .error error⟩, ⟨.print outcome.display, ()⟩]
      (.error (.unscheduled outcome)) := by
  intro condition outcome
  have announced : (Editor.start opened 0 config.delaySeconds).announced? now =
      some condition := if_pos ahead
  have summary : (Editor.start opened 0 config.delaySeconds).summary? now =
      some (Editor.announcement condition) := by
    rw [Editor.summary?, announced, Option.map_some]
  have valid (session : Session) : (session.paste raw.text).2 = true :=
    (session.valid_paste_iff raw.text).mpr ⟨raw, raw.parse_text⟩
  simp only [run, ending, schedule, openSession, chainHead, Session.start,
    Session.applyCondition, ConditionFlags.apply, Session.announce, Dialogue.andThen,
    Dialogue.done_bind, Dialogue.ask_bind]
  refine .ask (.ask ?_)
  rw [summary]
  refine .ask ?_
  simp only [Dialogue.done_bind, Session.pasteAndSubmit_of_valid, valid]
  simp only [Session.paste, Session.submit, Session.schedule, RawTransaction.trimmed_text,
    RawTransaction.parse_text]
  exact .ask (.ask (.done _))

/-- Where the delay reaches beyond the last time there is, what is posted is that time and
not the sum of clock and delay. -/
theorem delay_beyond_last_time :
    let config : Config :=
      ⟨⟨"http", "http://127.0.0.1:8080", 30⟩, none, default, 18446744073709551615⟩
    let context : Context := ⟨config, none, .make "http://127.0.0.1:8080" 30⟩
    let raw : RawTransaction := ⟨"0xf86c", by decide⟩
    let condition : Condition := .time 18446744073709551615
    let post := context.scheduler.post condition raw
    let reply : Http.Reply := .unreachable "connection refused"
    let clock : UInt64 := 1700000000
    let actions : List (Exchange Action Action.Answer) :=
      [⟨.clock, clock⟩, ⟨.clock, clock⟩, ⟨.print (Editor.announcement condition), ()⟩,
        ⟨.post post, reply⟩, ⟨.print reply.outcome.display, ()⟩]
    config.fault? = none ∧ ofConfig config = .ok context ∧
    (∃ result, Yields (context.perform (.schedule raw.text ⟨none, none⟩)) actions result) ∧
      Wire.readText (Rpc.Request.decode HttpScheduler.decodeParams) post.body =
        .ok (.make 1 Rpc.scheduleMethod (condition, raw)) ∧
      ∀ seconds, condition = .time seconds →
        seconds.toNat ≠ clock.toNat + config.delaySeconds.toNat := by
  intro config context raw condition post reply clock actions
  have last : Editor.later clock config.delaySeconds = 18446744073709551615 := by decide
  refine ⟨?_, ?_, ?_, HttpScheduler.readBack_request.text, ?_⟩
  · simp only [config]
    rfl
  · simp only [config, context]
    rfl
  · have ahead : clock < Editor.later clock config.delaySeconds := by
      rw [last]
      decide
    have runs := yields_unflagged config context.scheduler raw ahead
      (.network ("Failed to reach scheduler: " ++ "connection refused"))
    rw [last] at runs
    exact ⟨(_, _), Dialogue.yields_answeredBy_iff.mpr ⟨_, runs,
      .passOn (.ask (.done _)) (.passOn (.ask (.done _)) (.passOn (.ask (.done _))
        (.passOn (.ask (.done _)) (.passOn (.ask (.done _)) (.nil _)))))⟩⟩
  · intro seconds same
    obtain rfl : 18446744073709551615 = seconds := Condition.time.inj same
    decide

end Context

end TimedRelease
