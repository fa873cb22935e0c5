import Mathlib.Data.List.Forall2
import TimedRelease.Command.Action
import TimedRelease.Proofs.Command.Told
import TimedRelease.Proofs.Service.Posts

/-!
# Commands as the network sees them

What a command asks for is served by reading the clock, by printing, and by posting calls
to node and scheduler.  Each post names the method it calls, so that the readings, the
lines, the heights and the transactions handed over can be told from what goes over the
network alone.
-/

namespace TimedRelease

open Dialogue (Yields Served)
open Json (Value)

namespace Http

/-- The method that a post calls. -/
def Post.method? (post : Post) : Option String :=
  match Wire.readText .ok post.body with
  | .ok call => (call.member? "method").bind Value.string?
  | .error _ => none

theorem Post.method?_text {url : String} {value : Value} (exact : value.isExact = true) :
    (Post.mk url value.text).method? = (value.member? "method").bind Value.string? := by
  rw [method?, Wire.readText_text _ exact]

end Http

namespace NodeAccount

variable {node : NodeAccount} {method : String} {params : Option Value}

/-- The post of a call to a node. -/
def post (node : NodeAccount) (method : String) (params : Option Value) : Http.Post :=
  ⟨node.rpcUrl, (encodeRequest node.nextId method params).text⟩

theorem method?_post (exact : ∀ given, params = some given → given.isExact = true) :
    (node.post method params).method? = some method := by
  have number := Wire.isExact_natural node.nextId
  cases params with
  | none =>
      rw [post, Http.Post.method?_text]
      · rfl
      · simp [encodeRequest, Value.isExact, Value.isExactMembers, number]
  | some given =>
      rw [post, Http.Post.method?_text]
      · rfl
      · simp [encodeRequest, Value.isExact, Value.isExactMembers, number, exact given rfl]

/-- The method that asks for the height of the chain. -/
def heightMethod : String := "eth_blockNumber"

end NodeAccount

namespace HttpScheduler

variable {scheduler : HttpScheduler} {condition : Condition} {raw : RawTransaction}

theorem method?_post : (scheduler.post condition raw).method? = some Rpc.scheduleMethod := by
  rw [post, Http.Post.method?_text readBack_request.exact]
  rfl

end HttpScheduler

/-! ## What is heard of a command -/

namespace Action

/-- The post and its reply, if it calls the method. -/
def request? (method : String) : Exchange Action Action.Answer → Option (Http.Post × Http.Reply)
  | ⟨.post made, reply⟩ => if made.method? = some method then some (made, reply) else none
  | _ => none

theorem request?_post {method : String} {made : Http.Post}
    (calls : made.method? = some method) (reply : Http.Reply) :
    request? method ⟨.post made, reply⟩ = some (made, reply) :=
  if_pos calls

theorem request?_post_of_ne {method other : String} {made : Http.Post}
    (calls : made.method? = some method) (different : method ≠ other) (reply : Http.Reply) :
    request? other ⟨.post made, reply⟩ = none := by
  apply if_neg
  rw [calls, Option.some.injEq]
  exact different

section

variable (actions : List (Exchange Action Action.Answer))

/-- The readings of the clock, in order. -/
def readings : List UInt64 :=
  actions.filterMap fun
    | ⟨.clock, now⟩ => some now
    | _ => none

/-- The lines that are printed, in order. -/
def lines : List String :=
  actions.filterMap fun
    | ⟨.print line, _⟩ => some line
    | _ => none

/-- The posts that call a method, in order, each with its reply. -/
def requests (method : String) : List (Http.Post × Http.Reply) :=
  actions.filterMap (request? method)

/-- The heights of the chain that are learned, in order. -/
def heights : List UInt64 :=
  (requests actions NodeAccount.heightMethod).filterMap fun (_, reply) =>
    (NodeAccount.readResult NodeAccount.decodeBlockNumber reply).toOption

/-- The first height of the chain that is learned, or zero. -/
def floor : UInt64 :=
  (heights actions).headD 0

end

end Action

/-- A handover as it is posted and answered. -/
structure Posted (url : String) (handover : Handover) (request : Http.Post × Http.Reply) :
    Prop where
  address : request.1.url = url
  body : ∃ id, Wire.readText (Rpc.Request.decode HttpScheduler.decodeParams) request.1.body =
    .ok (.make id Rpc.scheduleMethod (handover.condition, handover.raw))
  answer : handover.answer = HttpScheduler.classify request.2

/-! ## How queries are served -/

namespace Services

/-- An account is asked by one call of a method, or not at all if there is none. -/
inductive Asks {α : Type} (services : Services) (method : String)
    (read : Http.Reply → Except AccountError α) :
    List (Exchange Action Action.Answer) → Except AccountError α → Services → Prop where
  | nobody : Asks services method read [] (.error noAccount) services
  | node {made : Http.Post} (calls : made.method? = some method) (reply : Http.Reply)
      (account : NodeAccount) :
      Asks services method read [⟨.post made, reply⟩] (read reply)
        { services with account := some account }

/-- How a query is served. -/
inductive Serves (services : Services) : (query : Query) → query.Answer →
    List (Exchange Action Action.Answer) → Services → Prop where
  | clock (now : UInt64) : Serves services .clock now [⟨.clock, now⟩] services
  | print (line : String) : Serves services (.print line) () [⟨.print line, ()⟩] services
  | warn (line : String) : Serves services (.warn line) () [⟨.warn line, ()⟩] services
  | chainHead {read : Http.Reply → Except AccountError UInt64} {asked} {answer} {next}
      (asks : Asks services NodeAccount.heightMethod read asked answer next)
      (reads : ∀ reply, (read reply).toOption =
        (NodeAccount.readResult NodeAccount.decodeBlockNumber reply).toOption) :
      Serves services .chainHead answer asked next
  | accounts {read : Http.Reply → Except AccountError (List Account)} {asked} {answer} {next}
      (asks : Asks services "eth_accounts" read asked answer next) :
      Serves services .accounts answer asked next
  | gasPrice {read : Http.Reply → Except AccountError Word256} {asked} {answer} {next}
      (asks : Asks services "eth_gasPrice" read asked answer next) :
      Serves services .gasPrice answer asked next
  | sign {transaction : CanonicalTransaction}
      {read : Http.Reply → Except AccountError SignedTransaction} {asked} {answer} {next}
      (asks : Asks services Rpc.signMethod read asked answer next) :
      Serves services (.call (.sign transaction)) answer asked next
  | schedule (condition : Condition) (raw : RawTransaction) (reply : Http.Reply) :
      Serves services (.call (.schedule condition raw)) (HttpScheduler.classify reply)
        [⟨.post (services.scheduler.post condition raw), reply⟩]
        { services with scheduler :=
            { services.scheduler with nextId := services.scheduler.nextId + 1 } }

variable {services next : Services} {asked : List (Exchange Action Action.Answer)}

theorem yields_posts_iff {α : Type} {posting : Http.Posting α} {value : α} :
    Yields (posts posting) asked value ↔
      ∃ (made : List (Exchange Http.Post fun _ => Http.Reply)),
        asked = made.map (fun made => ⟨.post made.question, made.answer⟩) ∧
          Yields posting made value := by
  apply Dialogue.yields_answeredBy_passing_iff
  intro question asked given
  exact Dialogue.yields_question_iff

theorem Asks.of_yields {α : Type} {method : String} {params : Option Value}
    {ask : NodeAccount → Http.Posting (NodeAccount × Except AccountError α)}
    {read : Http.Reply → Except AccountError α} {renew : NodeAccount → NodeAccount}
    (exact : ∀ given, params = some given → given.isExact = true)
    (asks : ∀ node, ask node = .ask (node.post method params) fun reply =>
      .done (renew node, read reply))
    {answer : Except AccountError α}
    (yields : Yields (services.askAccount ask) asked (answer, next)) :
    Asks services method read asked answer next := by
  rw [askAccount] at yields
  split at yields
  case h_1 missing =>
    obtain ⟨rfl, same⟩ := Dialogue.yields_done_iff.mp yields
    cases same
    exact .nobody
  case h_2 node there =>
    obtain ⟨first, ⟨account, given⟩, later, rfl, posted, ends⟩ :=
      Dialogue.yields_bind_iff.mp yields
    obtain ⟨rfl, same⟩ := Dialogue.yields_done_iff.mp ends
    cases same
    rw [asks, yields_posts_iff] at posted
    obtain ⟨made, rfl, replied⟩ := posted
    obtain ⟨reply, rest, rfl, done⟩ := Dialogue.yields_ask_iff.mp replied
    obtain ⟨rfl, same⟩ := Dialogue.yields_done_iff.mp done
    cases same
    exact .node (NodeAccount.method?_post exact) reply _

theorem Serves.of_yields {query : Query} {given : query.Answer}
    (yields : Yields (answer query services) asked (given, next)) :
    Serves services query given asked next := by
  have bare (value : Value) : (none : Option Value) = some value → value.isExact := by
    simp
  cases query with
  | clock =>
      obtain ⟨now, later, rfl, ends⟩ := Dialogue.yields_ask_iff.mp yields
      obtain ⟨rfl, same⟩ := Dialogue.yields_done_iff.mp ends
      cases same
      exact .clock _
  | print line =>
      obtain ⟨_, later, rfl, ends⟩ := Dialogue.yields_ask_iff.mp yields
      obtain ⟨rfl, same⟩ := Dialogue.yields_done_iff.mp ends
      cases same
      exact .print line
  | warn line =>
      obtain ⟨_, later, rfl, ends⟩ := Dialogue.yields_ask_iff.mp yields
      obtain ⟨rfl, same⟩ := Dialogue.yields_done_iff.mp ends
      cases same
      exact .warn line
  | chainHead =>
      have asks := Asks.of_yields bare (fun _ => rfl) yields
      apply Serves.chainHead asks
      intro reply
      cases NodeAccount.readResult NodeAccount.decodeBlockNumber reply <;> rfl
  | accounts => exact .accounts (Asks.of_yields bare (fun _ => rfl) yields)
  | gasPrice => exact .gasPrice (Asks.of_yields bare (fun _ => rfl) yields)
  | call made =>
      cases made with
      | sign transaction =>
          have exact (value : Value) (same : some (.array [transaction.encode]) = some value) :
              value.isExact := by
            cases same
            exact transaction.readBack.single.exact
          exact .sign (Asks.of_yields exact (fun _ => rfl) yields)
      | schedule condition raw =>
          obtain ⟨first, ⟨scheduler, told⟩, later, rfl, posted, ends⟩ :=
            Dialogue.yields_bind_iff.mp yields
          obtain ⟨rfl, same⟩ := Dialogue.yields_done_iff.mp ends
          cases same
          obtain ⟨made, rfl, replied⟩ := yields_posts_iff.mp posted
          obtain ⟨reply, rest, rfl, done⟩ := Dialogue.yields_ask_iff.mp replied
          obtain ⟨rfl, same⟩ := Dialogue.yields_done_iff.mp done
          cases same
          exact .schedule condition raw reply

/-- What is told of a command is heard of its actions. -/
structure Heard (url : String) (told : Told) (actions : List (Exchange Action Action.Answer)) :
    Prop where
  readings : Action.readings actions = told.readings
  heights : Action.heights actions = told.heights
  lines : Action.lines actions = told.lines
  posted : List.Forall₂ (Posted url) told.handovers
    (Action.requests actions Rpc.scheduleMethod)

theorem Heard.append {url : String} {earlier later : Told}
    {first second : List (Exchange Action Action.Answer)} (heard : Heard url earlier first)
    (goesOn : Heard url later second) : Heard url (earlier ++ later) (first ++ second) where
  readings := by
    rw [Action.readings, List.filterMap_append]
    exact congrArg₂ (· ++ ·) heard.readings goesOn.readings
  heights := by
    rw [Action.heights, Action.requests, List.filterMap_append, List.filterMap_append]
    exact congrArg₂ (· ++ ·) heard.heights goesOn.heights
  lines := by
    rw [Action.lines, List.filterMap_append]
    exact congrArg₂ (· ++ ·) heard.lines goesOn.lines
  posted := by
    rw [Action.requests, List.filterMap_append]
    exact List.rel_append heard.posted goesOn.posted

theorem Asks.requests_of_ne {α : Type} {method other : String}
    {read : Http.Reply → Except AccountError α} {answer : Except AccountError α}
    (asks : Asks services method read asked answer next) (different : method ≠ other) :
    Action.requests asked other = [] := by
  cases asks with
  | nobody => rfl
  | node calls reply =>
      rw [Action.requests, List.filterMap_cons, Action.request?_post_of_ne calls different]
      rfl

theorem Asks.requests {α : Type} {method : String}
    {read : Http.Reply → Except AccountError α} {answer : Except AccountError α}
    (asks : Asks services method read asked answer next) :
    (Action.requests asked method).filterMap (fun (_, reply) => (read reply).toOption) =
      answer.toOption.toList := by
  cases asks with
  | nobody => rfl
  | node calls reply =>
      rw [Action.requests, List.filterMap_cons, Action.request?_post calls]
      simp only [List.filterMap_cons, List.filterMap_nil]
      cases read reply <;> rfl

theorem Asks.heard {α : Type} {method url : String} {read : Http.Reply → Except AccountError α}
    {answer : Except AccountError α} {told : Told}
    (asks : Asks services method read asked answer next)
    (notScheduling : method ≠ Rpc.scheduleMethod) (readings : told.readings = [])
    (heights : Action.heights asked = told.heights) (lines : told.lines = [])
    (handovers : told.handovers = []) : Heard url told asked where
  readings := by
    rw [readings]
    cases asks <;> rfl
  heights := heights
  lines := by
    rw [lines]
    cases asks <;> rfl
  posted := by
    rw [handovers, asks.requests_of_ne notScheduling]
    exact .nil

theorem Serves.heard {query : Query} {given : query.Answer}
    (serves : Serves services query given asked next) :
    Heard services.scheduler.rpcUrl (.ofExchange ⟨query, given⟩) asked := by
  have elsewhere {α : Type} {method : String} {read : Http.Reply → Except AccountError α}
      {answer : Except AccountError α} (asks : Asks services method read asked answer next)
      (different : method ≠ NodeAccount.heightMethod) : Action.heights asked = [] := by
    rw [Action.heights, asks.requests_of_ne different, List.filterMap_nil]
  cases serves with
  | clock => exact ⟨rfl, rfl, rfl, .nil⟩
  | print => exact ⟨rfl, rfl, rfl, .nil⟩
  | warn => exact ⟨rfl, rfl, rfl, .nil⟩
  | chainHead asks reads =>
      have heights := asks.requests
      simp only [reads] at heights
      exact asks.heard (by decide) rfl heights rfl rfl
  | accounts asks => exact asks.heard (by decide) rfl (elsewhere asks (by decide)) rfl rfl
  | gasPrice asks => exact asks.heard (by decide) rfl (elsewhere asks (by decide)) rfl rfl
  | sign asks => exact asks.heard (by decide) rfl (elsewhere asks (by decide)) rfl rfl
  | schedule condition raw reply =>
      let made := services.scheduler.post condition raw
      have calls : made.method? = some Rpc.scheduleMethod := HttpScheduler.method?_post
      have different : Rpc.scheduleMethod ≠ NodeAccount.heightMethod := by decide
      refine ⟨rfl, ?_, rfl, ?_⟩
      · rw [Action.heights, Action.requests, List.filterMap_cons,
          Action.request?_post_of_ne calls different]
        rfl
      · rw [Action.requests, List.filterMap_cons, Action.request?_post calls]
        exact .cons ⟨rfl, ⟨_, HttpScheduler.readBack_request.text⟩, rfl⟩ .nil

theorem Serves.rpcUrl {query : Query} {given : query.Answer}
    (serves : Serves services query given asked next) :
    next.scheduler.rpcUrl = services.scheduler.rpcUrl := by
  cases serves with
  | clock => rfl
  | print => rfl
  | warn => rfl
  | schedule => rfl
  | _ asks => cases asks <;> rfl

theorem heard_of_served {last : Services} {exchanges : List (Exchange Query Query.Answer)}
    {actions : List (Exchange Action Action.Answer)}
    (served : Served answer services exchanges actions last) :
    Heard services.scheduler.rpcUrl (.of exchanges) actions := by
  induction served with
  | nil => exact ⟨rfl, rfl, rfl, .nil⟩
  | cons yields goesOn induction =>
      -- No query moves the scheduler, so that later posts go to its first address too.
      have serves := Serves.of_yields yields
      rw [serves.rpcUrl] at induction
      exact serves.heard.append induction

end Services

end TimedRelease
