import TimedRelease.Proofs.Service.Answers

/-!
# What a scheduler posts

The posts of a scheduler depend on the calls alone: the number of each is its place among
the calls, whatever came of those before, and its body is read as the call it was made of.
All go to one address, the endpoint without the slashes at its end and `/rpc` behind it.
-/

namespace TimedRelease

open Wire

namespace HttpScheduler

open Dialogue (Yields)

/-! ## The address -/

/-- The base is the endpoint without the slashes at its end. -/
structure IsBaseOf (base endpoint : String) : Prop where
  slashes : ∃ count, endpoint = base ++ String.ofList (List.replicate count '/')
  bare : base.toList.getLast? ≠ some '/'

theorem exists_isBaseOf (endpoint : String) : ∃ base, IsBaseOf base endpoint ∧
    rpcUrlOf endpoint = base ++ "/rpc" := by
  let reversed := endpoint.toList.reverse
  let slashes := reversed.takeWhile (· = '/')
  let bare := reversed.dropWhile (· = '/')
  refine ⟨String.ofList bare.reverse, ⟨⟨slashes.length, ?_⟩, ?_⟩, rfl⟩
  · have same : slashes = List.replicate slashes.length '/' := by
      apply List.eq_replicate_of_mem
      intro c member
      simpa using List.mem_takeWhile_imp member
    have whole : endpoint.toList = bare.reverse ++ slashes.reverse := by
      rw [← List.reverse_append, List.takeWhile_append_dropWhile, List.reverse_reverse]
    rw [same, List.reverse_replicate] at whole
    apply String.toList_injective
    simpa using whole
  · rw [String.toList_ofList, List.getLast?_reverse]
    intro slash
    have noSlash := List.head?_dropWhile_not (· = '/') reversed
    rw [slash] at noSlash
    simp at noSlash

/-! ## The posts -/

section

variable {scheduler last : HttpScheduler} {calls : List (Condition × RawTransaction)}
variable {exchanges : List (Exchange Http.Post fun _ => Http.Reply)}
variable {answers : List (Except SchedulingError String)}

theorem readBack_request {condition : Condition} {raw : RawTransaction} :
    ReadBack (Rpc.Request.decode decodeParams)
      ((scheduler.request condition raw).encode encodeParams)
      (scheduler.request condition raw) :=
  Rpc.Request.readBack (condition.readBack.pair raw.readBack)

/-- The scheduler when so many more calls have been made. -/
def after (scheduler : HttpScheduler) (made : Nat) : HttpScheduler :=
  { scheduler with nextId := scheduler.nextId + UInt64.ofNat made }

theorem after_zero (scheduler : HttpScheduler) : scheduler.after 0 = scheduler := by
  simp [after]

theorem after_after (scheduler : HttpScheduler) (earlier later : Nat) :
    (scheduler.after earlier).after later = scheduler.after (later + earlier) := by
  simp only [after, UInt64.ofNat_add, mk.injEq, true_and]
  ac_rfl

/-- The posts of calls made one after the other. -/
def posts (scheduler : HttpScheduler) (calls : List (Condition × RawTransaction)) :
    List Http.Post :=
  calls.mapIdx fun index (condition, raw) => (scheduler.after index).post condition raw

theorem posts_cons (scheduler : HttpScheduler) (call : Condition × RawTransaction)
    (rest : List (Condition × RawTransaction)) :
    scheduler.posts (call :: rest) =
      scheduler.post call.1 call.2 :: (scheduler.after 1).posts rest := by
  simp only [posts, List.mapIdx_cons, after_zero, after_after]

/-- Calls can go one way for each list of replies: the posts are theirs, each is answered
by the reply in its place, and nothing is posted twice or left out. -/
theorem yields_submitAll_iff :
    Yields (scheduler.submitAll calls) exchanges (last, answers) ↔
      exchanges.map Exchange.question = scheduler.posts calls ∧
        last = scheduler.after calls.length ∧
        answers = exchanges.map fun exchange => classify exchange.answer := by
  induction calls generalizing scheduler exchanges answers with
  | nil =>
      rw [submitAll, Dialogue.yields_done_iff, Prod.mk.injEq, List.length_nil, after_zero]
      constructor
      · rintro ⟨rfl, rfl, rfl⟩
        exact ⟨rfl, rfl, rfl⟩
      · rintro ⟨none, rfl, rfl⟩
        obtain rfl := List.map_eq_nil_iff.mp none
        exact ⟨rfl, rfl, rfl⟩
  | cons call rest induction =>
      obtain ⟨condition, raw⟩ := call
      have length : scheduler.after ((condition, raw) :: rest).length =
          (scheduler.after 1).after rest.length := by
        rw [after_after, List.length_cons]
      rw [submitAll, Dialogue.yields_bind_iff, posts_cons, length]
      constructor
      · rintro ⟨first, ⟨next, answer⟩, later, rfl, submits, goesOn⟩
        obtain ⟨reply, rfl, rfl, rfl⟩ := yields_submit_iff.mp submits
        obtain ⟨⟨final, rest⟩, same, yields⟩ := Dialogue.yields_bind_done_iff.mp goesOn
        cases same
        obtain ⟨posted, rfl, rfl⟩ := induction.mp yields
        exact ⟨congrArg (List.cons _) posted, rfl, rfl⟩
      · rintro ⟨posted, rfl, rfl⟩
        obtain ⟨⟨post, reply⟩, later, rfl, rfl, postedLater⟩ := List.map_eq_cons_iff.mp posted
        refine ⟨[⟨scheduler.post condition raw, reply⟩], (scheduler.after 1, classify reply),
          later, rfl, yields_submit_iff.mpr ⟨reply, rfl, rfl, rfl⟩, ?_⟩
        exact Dialogue.yields_bind_done_iff.mpr
          ⟨(_, _), rfl, induction.mpr ⟨postedLater, rfl, rfl⟩⟩

theorem length_posts (scheduler : HttpScheduler) (calls : List (Condition × RawTransaction)) :
    (scheduler.posts calls).length = calls.length :=
  List.length_mapIdx

theorem exists_yields_submitAll (scheduler : HttpScheduler)
    {calls : List (Condition × RawTransaction)} {replies : List Http.Reply}
    (answered : replies.length = calls.length) :
    ∃ exchanges result, Yields (scheduler.submitAll calls) exchanges result ∧
      exchanges.map Exchange.answer = replies := by
  let exchanges : List (Exchange Http.Post fun _ => Http.Reply) :=
    ((scheduler.posts calls).zip replies).map fun (post, reply) => ⟨post, reply⟩
  have posted : exchanges.map Exchange.question = scheduler.posts calls := by
    rw [List.map_map]
    exact List.map_fst_zip (by rw [length_posts, answered])
  have replied : exchanges.map Exchange.answer = replies := by
    rw [List.map_map]
    exact List.map_snd_zip (by rw [length_posts, answered])
  exact ⟨exchanges, _, yields_submitAll_iff.mpr ⟨posted, rfl, rfl⟩, replied⟩

/-- The post in some place, as it is read. -/
theorem readText_post_after (endpoint : String) (timeoutSeconds : UInt64) (index : Nat)
    (condition : Condition) (raw : RawTransaction) :
    readText (Rpc.Request.decode decodeParams)
        (((make endpoint timeoutSeconds).after index).post condition raw).body =
      .ok ⟨"2.0", UInt64.ofNat (index + 1), "scheduleTransaction", (condition, raw)⟩ := by
  have number : ((make endpoint timeoutSeconds).after index).nextId =
      UInt64.ofNat (index + 1) := by
    rw [UInt64.ofNat_add, UInt64.add_comm]
    rfl
  rw [post, readBack_request.text, request, number]
  rfl

end

/-- Whatever the replies, there is a way for the calls of a new scheduler to go, and every
way posts once for each call: the body of the post in each place is a request of version
2.0 under the number of that place, counted from one in 64 bits, for `scheduleTransaction`
with two parameters, which are the condition and the raw transaction of the call in that
place; and it goes to the endpoint without the slashes at its end, followed by `/rpc`. -/
theorem calls_posted_in_turn (endpoint : String) (timeoutSeconds : UInt64)
    (calls : List (Condition × RawTransaction)) :
    (∀ replies : List Http.Reply, replies.length = calls.length →
      ∃ exchanges result,
        Yields ((make endpoint timeoutSeconds).submitAll calls) exchanges result ∧
          exchanges.map Exchange.answer = replies) ∧
    ∃ base, IsBaseOf base endpoint ∧ ∀ exchanges result,
      Yields ((make endpoint timeoutSeconds).submitAll calls) exchanges result →
        exchanges.length = calls.length ∧
        ∀ index call, calls[index]? = some call → ∃ exchange,
          exchanges[index]? = some exchange ∧ exchange.question.url = base ++ "/rpc" ∧
            readText (Rpc.Request.decode decodeParams) exchange.question.body =
              .ok ⟨"2.0", UInt64.ofNat (index + 1), "scheduleTransaction", call⟩ := by
  obtain ⟨base, isBase, url⟩ := exists_isBaseOf endpoint
  refine ⟨fun replies answered => exists_yields_submitAll _ answered, base, isBase, ?_⟩
  rintro exchanges ⟨last, answers⟩ yields
  obtain ⟨posted, -, -⟩ := yields_submitAll_iff.mp yields
  refine ⟨?_, ?_⟩
  · rw [← List.length_map Exchange.question, posted, length_posts]
  · rintro index ⟨condition, raw⟩ called
    have place := congrArg (·[index]?) posted
    simp only [List.getElem?_map, posts, List.getElem?_mapIdx, called, Option.map_some] at place
    obtain ⟨exchange, there, question⟩ := Option.map_eq_some_iff.mp place
    refine ⟨exchange, there, ?_, ?_⟩
    · rw [question]
      exact url
    · rw [question]
      exact readText_post_after endpoint timeoutSeconds index condition raw

/-- A scheduler whose endpoint ends in slashes cannot be reached, then refuses, and then
takes the transaction that it was offered before. -/
theorem failed_calls_keep_their_numbers :
    let raw : RawTransaction := ⟨"0xf86c", by decide⟩
    let calls : List (Condition × RawTransaction) :=
      [(.time 18446744073709551615, raw), (.block 150, raw), (.block 150, raw)]
    let replies : List Http.Reply :=
      [.unreachable "connection refused", .complete 502 "bad gateway",
        .complete 200 "\x7b\"result\":\"sched-42\"\x7d"]
    let scheduler := make "http://127.0.0.1:8080//" 30
    replies.length = calls.length ∧
      ∃ exchanges result, Yields (scheduler.submitAll calls) exchanges result ∧
        exchanges.map Exchange.answer = replies ∧
        ∃ exchange, exchanges[2]? = some exchange ∧
          readText (Rpc.Request.decode decodeParams) exchange.question.body =
            .ok ⟨"2.0", 3, "scheduleTransaction", (.block 150, raw)⟩ := by
  intro raw calls replies scheduler
  obtain ⟨goes, base, -, posts⟩ := calls_posted_in_turn "http://127.0.0.1:8080//" 30 calls
  obtain ⟨exchanges, result, yields, replied⟩ := goes replies rfl
  obtain ⟨exchange, there, -, body⟩ := (posts exchanges result yields).2 2 (.block 150, raw) rfl
  exact ⟨rfl, exchanges, result, yields, replied, exchange, there, body⟩

end HttpScheduler

end TimedRelease
