import TimedRelease.Digest.Keccak
import TimedRelease.Proofs.Command.Condition
import TimedRelease.Proofs.Draft.Accounts

/-!
# Composing at the command line

The command fills a draft with what the wallet offers and then with its flags, so that the
flags prevail.  It has the draft signed if it validates, and schedules what the signer gave
if that was asked for and the flags choose a condition.
-/

namespace TimedRelease

open Dialogue (Yields Answered)

/-! ## Filling a draft -/

/-- The field of a transaction holds what is read from a text. -/
def CanonicalTransaction.Holds (transaction : CanonicalTransaction) : DraftField → String → Prop
  | .sender, text => transaction.sender = text
  | .recipient, text => transaction.recipient = Draft.nonEmpty text
  | .value, text => transaction.value = (Quantity.parse text).value
  | .gasLimit, text => transaction.gas = (Quantity.parse text).value
  | .gasPrice, text => transaction.gasPrice = (Quantity.parse text).value
  | .data, text => transaction.data = Draft.nonEmpty text

section

variable [Digest.Hash]

theorem Draft.holds_fill (draft : Draft) (field : DraftField) (text : String) :
    (draft.fill field text).canonical.Holds field text := by
  cases field <;> rfl

theorem Draft.holds_fill_of_ne (draft : Draft) {field other : DraftField}
    (different : other ≠ field) (text filled : String) :
    (draft.fill other filled).canonical.Holds field text ↔ draft.canonical.Holds field text := by
  cases field <;> cases other <;> first | contradiction | exact Iff.rfl

namespace DraftFlags

variable (flags : DraftFlags)

theorem applyFields_cons_none (draft : Draft) {field : DraftField} (rest : List DraftField)
    (missing : flags.text? field = none) :
    (flags.applyFields draft (field :: rest)).1 = (flags.applyFields draft rest).1 := by
  rw [applyFields, missing]

theorem applyFields_cons_some (draft : Draft) {field : DraftField} (rest : List DraftField)
    {text : String} (given : flags.text? field = some text) :
    (flags.applyFields draft (field :: rest)).1 =
      (flags.applyFields (draft.fill field text) rest).1 := by
  rw [applyFields, given]
  rfl

/-- A field that is not given, or not among those that are filled, is left alone. -/
theorem holds_applyFields_of_untouched {field : DraftField} (text : String)
    {fields : List DraftField} (untouched : field ∈ fields → flags.text? field = none)
    (draft : Draft) :
    (flags.applyFields draft fields).1.canonical.Holds field text ↔
      draft.canonical.Holds field text := by
  induction fields generalizing draft with
  | nil => exact Iff.rfl
  | cons first rest induction =>
      have later : field ∈ rest → flags.text? field = none :=
        fun member => untouched (List.mem_cons_of_mem _ member)
      cases given : flags.text? first with
      | none => rw [applyFields_cons_none flags draft rest given, induction later]
      | some filled =>
          have different : first ≠ field := by
            rintro rfl
            rw [untouched (List.mem_cons_self)] at given
            contradiction
          rw [applyFields_cons_some flags draft rest given, induction later,
            Draft.holds_fill_of_ne draft different]

theorem holds_applyFields {field : DraftField} {text : String}
    (given : flags.text? field = some text) {fields : List DraftField} (member : field ∈ fields)
    (distinct : fields.Nodup) (draft : Draft) :
    (flags.applyFields draft fields).1.canonical.Holds field text := by
  induction fields generalizing draft with
  | nil => contradiction
  | cons first rest induction =>
      -- Once it is filled, the field does not come up again, and the others leave it alone.
      obtain ⟨absent, distinct⟩ := List.nodup_cons.mp distinct
      rcases List.mem_cons.mp member with rfl | member
      · rw [applyFields_cons_some flags draft rest given,
          holds_applyFields_of_untouched flags text (fun again => absurd again absent)]
        exact draft.holds_fill field text
      · cases other : flags.text? first with
        | none =>
            rw [applyFields_cons_none flags draft rest other]
            exact induction member distinct draft
        | some filled =>
            rw [applyFields_cons_some flags draft rest other]
            exact induction member distinct _

theorem holds_apply {field : DraftField} {text : String}
    (given : flags.text? field = some text) (draft : Draft) :
    (flags.apply draft).1.canonical.Holds field text :=
  flags.holds_applyFields given (by cases field <;> decide) (by decide) draft

theorem sender_apply (missing : flags.sender = none) (draft : Draft) :
    (flags.apply draft).1.sender.value = draft.sender.value := by
  have untouched : DraftField.sender ∈ order → flags.text? .sender = none := fun _ => missing
  exact (flags.holds_applyFields_of_untouched _ untouched draft).mpr rfl

end DraftFlags

namespace Told

variable (told : Told) (flags : DraftFlags)

theorem draft_eq_apply : told.draft flags = (flags.apply (Draft.start.run told.news)).1 := by
  rw [draft, Draft.run_append, flags.apply_eq_run]

theorem holds_draft {field : DraftField} {text : String}
    (given : flags.text? field = some text) :
    (told.draft flags).canonical.Holds field text := by
  rw [draft_eq_apply]
  exact flags.holds_apply given _

/-- News of the gas price leave the sender alone. -/
theorem sender_news :
    (Draft.start.run told.news).sender =
      (Draft.start.run (told.offers.map .applyAccounts)).sender := by
  rw [news, Draft.run_append]
  generalize Draft.start.run (told.offers.map .applyAccounts) = offered
  induction told.gasPrices.filterMap Except.toOption generalizing offered with
  | nil => rfl
  | cons price rest induction =>
      rw [List.map_cons, Draft.run, List.foldl_cons, ← Draft.run, induction, Draft.step,
        Draft.applyGasPrice_eq]

variable {told} {flags}

theorem sender_draft (missing : flags.sender = none) :
    (told.draft flags).sender.value =
      (Draft.start.run (told.offers.map .applyAccounts)).sender.value := by
  rw [draft_eq_apply, flags.sender_apply missing, sender_news]

theorem sender_draft_of_offered {account : Account} {rest : List Account}
    (offered : told.accounts = [.ok (account :: rest)]) (missing : flags.sender = none) :
    (told.draft flags).sender.value = account.address := by
  rw [sender_draft missing, offers, offered]
  rfl

/-- Without a sender among the flags, a draft that validates has that of the first account. -/
theorem first_account {answer : Except AccountError (List Account)}
    (asked : told.accounts = [answer]) (missing : flags.sender = none)
    (valid : (told.draft flags).validate = .ok ()) :
    ∃ account rest, told.offers = [account :: rest] ∧
      (told.draft flags).sender.value = account.address := by
  obtain ⟨present, -⟩ := Draft.validate_eq_ok_iff.mp valid
  have offers : told.offers = [answer].filterMap Except.toOption := by
    rw [Told.offers, asked]
  rcases answer with error | _ | ⟨account, rest⟩
  · rw [sender_draft missing, offers] at present
    exact (present rfl).elim
  · rw [sender_draft missing, offers] at present
    exact (present rfl).elim
  · exact ⟨account, rest, offers, sender_draft_of_offered asked missing⟩

/-- With an account on offer, nothing is wrong with a sender that is not given. -/
theorem validate_draft_of_offered {account : Account} {rest : List Account}
    (offered : told.accounts = [.ok (account :: rest)]) (missing : flags.sender = none) :
    (told.draft flags).validate = .ok () ↔
      (told.draft flags).recipient.warning ≠ some .malformed ∧
        Payload.isData (told.draft flags).data.toList = true := by
  have sender : (told.draft flags).sender.value = (AccountOption.ofAccount account).address :=
    sender_draft_of_offered offered missing
  have offers := AccountOption.offers_ofAccount account
  have classified : (told.draft flags).Classified := Draft.Classified.start.run _
  have given : (told.draft flags).sender.value ≠ "" := by
    obtain ⟨digits, -, address, -⟩ := offers.address
    rw [sender, address]
    simp [Address.marked]
  have unwarned : (told.draft flags).sender.warning ≠ some .malformed := by
    rw [classified.sender, sender, offers.unwarned]
    exact (Option.some_ne_none _).symm
  rw [Draft.validate_eq_ok_iff]
  constructor
  · intro valid
    exact valid.2.2
  · intro valid
    exact ⟨given, unwarned, valid⟩

end Told

/-! ## Opening and signing -/

variable {exchanges : List (Exchange Query Query.Answer)}

theorem Session.yields_primeDraft {session next : Session} (fresh : session.draft = .start)
    (yields : Yields session.primeDraft exchanges next) :
    ∃ accounts price, Told.of exchanges = { accounts := [accounts], gasPrices := [price] } ∧
      next = { session with draft := Draft.start.run (Told.of exchanges).news } := by
  obtain ⟨accounts, later, rfl, asks⟩ := Dialogue.yields_ask_iff.mp yields
  obtain ⟨price, rest, rfl, ends⟩ := Dialogue.yields_ask_iff.mp asks
  obtain ⟨rfl, rfl⟩ := Dialogue.yields_done_iff.mp ends
  refine ⟨accounts, price, rfl, ?_⟩
  rw [← fresh]
  cases accounts <;> cases price <;> rfl

/-- What comes of having a draft signed. -/
inductive Signing (session : Session) (draft : Draft) :
    Told → Except CommandError (Session × SignedTransaction) → Prop where
  | unasked (unready : session.hasSigner = true → draft.validate ≠ .ok ())
      {error : CommandError} : Signing session draft {} (.error error)
  | refused (valid : draft.validate = .ok ()) (refusal : AccountError) {error : CommandError} :
      Signing session draft { signatures := [⟨draft.canonical, .error refusal⟩] } (.error error)
  | signed (valid : draft.validate = .ok ()) (signed : SignedTransaction) :
      Signing session draft { signatures := [⟨draft.canonical, .ok signed⟩] }
        (.ok ({ session with draft, raw := signed.raw.text }, signed))

theorem Signing.of_yields {session : Session} {flags : DraftFlags}
    {result : Except CommandError (Session × SignedTransaction)}
    (yields : Yields (session.signDraft flags) exchanges result) :
    Signing session (flags.apply session.draft).1 (Told.of exchanges) result := by
  obtain ⟨warnings, _, later, rfl, warns, goesOn⟩ := Dialogue.yields_bind_iff.mp yields
  obtain ⟨first, ⟨next, verdict⟩, rest, rfl, calls, ends⟩ := Dialogue.yields_bind_iff.mp goesOn
  obtain ⟨made, rfl, composed⟩ := Asking.yields_calls_iff.mp calls
  rw [Told.of_append, Asking.told_warnAll warns]
  cases Session.yields_compose_iff.mp composed with
  | unsigned missing =>
      obtain ⟨rfl, rfl⟩ := Dialogue.yields_done_iff.mp ends
      apply Signing.unasked
      intro signer
      exact absurd signer (Bool.eq_false_iff.mp missing)
  | invalid signer fault =>
      obtain ⟨rfl, rfl⟩ := Dialogue.yields_done_iff.mp ends
      apply Signing.unasked
      intro _ valid
      cases fault.symm.trans valid
  | refused signer valid refusal =>
      obtain ⟨rfl, rfl⟩ := Dialogue.yields_done_iff.mp ends
      exact .refused valid refusal
  | signed signer valid signed =>
      obtain ⟨rfl, rfl⟩ := Dialogue.yields_done_iff.mp ends
      exact .signed valid signed

/-! ## The command -/

/-- What a run of the command does, where there is an account or not. -/
structure ComposeRun (flags : DraftFlags) (condition : ConditionFlags) (thenSchedule : Bool)
    (hasAccount : Bool) (delay : UInt64) (told : Told) : Prop where
  /-- The wallet of an account is asked for its accounts and for the gas price. -/
  primed : hasAccount = true → told.accounts.length = 1 ∧ told.gasPrices.length = 1
  /-- The signer is asked for the draft that wallet and flags make, if it validates. -/
  asked : ∀ transaction, transaction ∈ told.signatures.map Signature.transaction ↔
    hasAccount = true ∧ (told.draft flags).validate = .ok () ∧
      transaction = (told.draft flags).canonical
  once : told.signatures.length ≤ 1
  valid : ∀ signature ∈ told.signatures, ∃ edits,
    (Draft.start.run edits).validate = .ok () ∧
      signature.transaction = (Draft.start.run edits).canonical
  flagged : ∀ signature ∈ told.signatures, ∀ field text, flags.text? field = some text →
    signature.transaction.Holds field text
  first : ∀ signature ∈ told.signatures, flags.sender = none →
    ∃ account rest, told.offers = [account :: rest] ∧
      signature.transaction.sender = account.address
  scheduledOnce : told.handovers.length ≤ 1
  scheduled : ∀ handover ∈ told.handovers, thenSchedule = true ∧
    Chosen condition delay told.floor told.readings handover.condition ∧
      ∃ transaction signed, told.signatures = [⟨transaction, .ok signed⟩] ∧
        handover.raw = signed.raw
  /-- What is signed and chosen is scheduled where that was asked for. -/
  complete : thenSchedule = true → ∀ chosen,
    Chosen condition delay told.floor told.readings chosen → ∀ transaction signed,
      told.signatures = [⟨transaction, .ok signed⟩] →
        told.handovers.map Handover.condition = [chosen] ∧
          told.handovers.map Handover.raw = [signed.raw]

namespace ComposeRun

variable {flags : DraftFlags} {condition : ConditionFlags} {thenSchedule hasAccount : Bool}
variable {delay : UInt64} {told : Told}

/-- A run in which nobody is asked to sign: there is no account, or the draft is invalid. -/
theorem of_unasked
    (primed : hasAccount = true → told.accounts.length = 1 ∧ told.gasPrices.length = 1)
    (unready : hasAccount = true → (told.draft flags).validate ≠ .ok ())
    (unasked : told.signatures = []) (silent : told.handovers = []) :
    ComposeRun flags condition thenSchedule hasAccount delay told := by
  have asked : ∀ transaction, transaction ∈ told.signatures.map Signature.transaction ↔
      hasAccount = true ∧ (told.draft flags).validate = .ok () ∧
        transaction = (told.draft flags).canonical := by
    intro transaction
    rw [unasked]
    constructor
    · intro member
      cases member
    · rintro ⟨there, valid, -⟩
      exact absurd valid (unready there)
  refine ⟨primed, asked, ?_, ?_, ?_, ?_, ?_, ?_, ?_⟩ <;> simp [unasked, silent]

/-- A run in which the draft that wallet and flags make is handed to the signer. -/
theorem of_asked {accounts : Except AccountError (List Account)}
    {price : Except AccountError Word256} {answer : Except AccountError SignedTransaction}
    (offered : told.accounts = [accounts]) (priced : told.gasPrices = [price])
    (valid : (told.draft flags).validate = .ok ())
    (asked : told.signatures = [⟨(told.draft flags).canonical, answer⟩])
    (scheduledOnce : told.handovers.length ≤ 1)
    (scheduled : ∀ handover ∈ told.handovers, thenSchedule = true ∧
      Chosen condition delay told.floor told.readings handover.condition ∧
        ∃ signed, answer = .ok signed ∧ handover.raw = signed.raw)
    (complete : thenSchedule = true → ∀ chosen,
      Chosen condition delay told.floor told.readings chosen → ∀ signed, answer = .ok signed →
        told.handovers.map Handover.condition = [chosen] ∧
          told.handovers.map Handover.raw = [signed.raw]) :
    ComposeRun flags condition thenSchedule true delay told := by
  refine ⟨?_, ?_, ?_, ?_, ?_, ?_, scheduledOnce, ?_, ?_⟩
  · intro _
    rw [offered, priced]
    exact ⟨rfl, rfl⟩
  · intro transaction
    rw [asked, List.map_singleton, List.mem_singleton]
    constructor
    · intro same
      exact ⟨rfl, valid, same⟩
    · rintro ⟨-, -, same⟩
      exact same
  · rw [asked]
    exact Nat.le_refl 1
  · intro signature member
    rw [asked, List.mem_singleton] at member
    rw [member]
    exact ⟨told.news ++ flags.edits, valid, rfl⟩
  · intro signature member field text given
    rw [asked, List.mem_singleton] at member
    rw [member]
    exact told.holds_draft flags given
  · intro signature member missing
    rw [asked, List.mem_singleton] at member
    rw [member]
    exact Told.first_account offered missing valid
  · intro handover member
    obtain ⟨wanted, chosen, signed, given, raw⟩ := scheduled handover member
    refine ⟨wanted, chosen, (told.draft flags).canonical, signed, ?_, raw⟩
    rw [asked, given]
  · intro wanted chosen accepted transaction signed same
    rw [asked] at same
    cases same
    exact complete wanted chosen accepted signed rfl

end ComposeRun

theorem Context.composeRun_of_yields {context : Context} {flags : DraftFlags}
    {condition : ConditionFlags} {thenSchedule : Bool} {result : Except CommandError Ending}
    (yields : Yields (context.run (.compose flags condition thenSchedule)) exchanges result) :
    ComposeRun flags condition thenSchedule context.account.isSome
      context.config.delaySeconds (.of exchanges) := by
  obtain ⟨value, runs, rfl⟩ := yields_ending yields
  rw [compose] at runs
  split at runs
  case isTrue missing =>
    obtain ⟨rfl, rfl⟩ := Dialogue.yields_done_iff.mp runs
    have nobody : context.account.isSome ≠ true := by
      rw [Option.isNone_iff_eq_none.mp missing]
      exact Bool.false_ne_true
    exact .of_unasked (fun there => absurd there nobody) (fun there => absurd there nobody)
      rfl rfl
  case isFalse somebody =>
    have there : context.account.isSome = true := by
      rwa [Option.isNone_iff_eq_none, ← ne_eq, Option.ne_none_iff_isSome] at somebody
    obtain ⟨opening, session, later, rfl, opens, goesOn⟩ := Dialogue.yields_bind_iff.mp runs
    obtain ⟨heights, opened, openTold, rfl⟩ := yields_openSession opens
    obtain ⟨priming, session, later, rfl, primes, goesOn⟩ := Dialogue.yields_bind_iff.mp goesOn
    obtain ⟨accounts, price, primeTold, same⟩ := Session.yields_primeDraft rfl primes
    obtain ⟨asking, verdict, later, rfl, asks, goesOn⟩ := Dialogue.yields_bind_iff.mp goesOn
    have signing := Signing.of_yields asks
    have signer : session.hasSigner = true := by rw [same]; exact there
    have draft : (flags.apply session.draft).1 = (Told.of priming).draft flags := by
      rw [same, Told.draft_eq_apply]
    rw [Told.of_append, Told.of_append, Told.of_append, openTold, primeTold, there]
    rw [draft, primeTold] at signing
    generalize Told.of asking = asked at signing
    cases signing with
    | unasked unready =>
        obtain ⟨rfl, rfl⟩ := Dialogue.yields_done_iff.mp goesOn
        exact .of_unasked (fun _ => ⟨rfl, rfl⟩) (fun _ => unready signer) rfl rfl
    | refused valid refusal =>
        obtain ⟨rfl, rfl⟩ := Dialogue.yields_done_iff.mp goesOn
        simp only [Told.of, Told.append_eq, Told.append, List.append_nil, List.nil_append]
        exact .of_asked rfl rfl valid rfl (Nat.zero_le 1) (by simp) (by simp)
    | signed valid signed =>
        obtain ⟨_, rest, rfl, ends⟩ := Dialogue.yields_ask_iff.mp goesOn
        rw [Told.of, Told.ofExchange]
        cases thenSchedule with
        | false =>
            obtain ⟨rfl, rfl⟩ := Dialogue.yields_done_iff.mp ends
            simp only [Told.of, Told.append_eq, Told.append, List.append_nil, List.nil_append]
            exact .of_asked rfl rfl valid rfl (Nat.zero_le 1) (by simp) (by simp)
        | true =>
            -- Neither priming nor signing touches the editor.
            have editor : session.editor = .start opened (heights.headD 0)
                context.config.delaySeconds := by rw [same]; rfl
            have released := Released.of_yields (by exact editor) rfl ends
            generalize Told.of rest = sent at released
            cases released with
            | rejected rejected =>
                simp only [Told.append_eq, Told.append, List.append_nil,
                  List.nil_append, List.singleton_append]
                refine .of_asked rfl rfl valid rfl (Nat.zero_le 1) (by simp) ?_
                intro _ chosen accepted
                exact absurd accepted rejected.not_chosen
            | handed answer lines chosen =>
                simp only [Told.append_eq, Told.append, List.append_nil,
                  List.nil_append, List.singleton_append]
                refine .of_asked rfl rfl valid rfl (Nat.le_refl 1) ?_ ?_
                · intro handover member
                  cases List.mem_singleton.mp member
                  exact ⟨rfl, chosen, signed, rfl, rfl⟩
                · intro _ other sameChosen _ given
                  cases given
                  exact ⟨by rw [sameChosen.unique chosen]; rfl, rfl⟩

/-- Whatever wallet, signer and scheduler answer, the command comes to an end.  It takes the
accounts and the gas price of the wallet into a new draft, fills in the flags, and asks for
one signature if that draft validates and for none if it does not.  So what is signed holds
what is read from the flags, and the first account on offer if no sender is given.  It
schedules only what the signer gave, only if that was asked for and the flags choose a
condition, and then once. -/
theorem Context.compose_schedules_signed (context : Context) (flags : DraftFlags)
    (condition : ConditionFlags) (thenSchedule : Bool) :
    (∀ answer : List (Exchange Query Query.Answer) → (query : Query) → query.Answer,
      ∃ exchanges result,
        Yields (context.run (.compose flags condition thenSchedule)) exchanges result ∧
          Answered answer exchanges) ∧
    ∀ exchanges result,
      Yields (context.run (.compose flags condition thenSchedule)) exchanges result →
        ComposeRun flags condition thenSchedule context.account.isSome
          context.config.delaySeconds (.of exchanges) := by
  constructor
  · exact Dialogue.exists_yields _
  · intro exchanges result yields
    exact composeRun_of_yields yields

theorem Session.yields_signDraft (session : Session) {flags : DraftFlags}
    (signer : session.hasSigner = true) (silent : (flags.apply session.draft).2 = [])
    (valid : (flags.apply session.draft).1.validate = .ok ()) (signed : SignedTransaction) :
    Yields (session.signDraft flags)
      [⟨.call (.sign (flags.apply session.draft).1.canonical), .ok signed⟩]
      (.ok ({ session with
        draft := (flags.apply session.draft).1, raw := signed.raw.text }, signed)) := by
  have warns : Yields (Asking.warnAll ((flags.apply session.draft).2.map DraftFlags.hintLine))
      [] () := by
    rw [silent]
    exact .done _
  let filled : Session := { session with draft := (flags.apply session.draft).1 }
  have composes : Yields filled.compose [⟨.sign filled.draft.canonical, .ok signed⟩]
      ({ filled with raw := signed.raw.text }, .ok signed) :=
    yields_compose_iff.mpr (.signed (by exact signer) valid signed)
  have calls := Asking.yields_calls_iff.mpr ⟨_, rfl, composes⟩
  exact warns.bind (calls.bind (.done _))

/-- The run in which a draft without hints is signed, up to the raw text that is printed. -/
theorem Context.yields_compose {context : Context} {node : NodeAccount}
    (there : context.account = some node) (told : Told) {flags : DraftFlags}
    {accounts : Except AccountError (List Account)} {price : Except AccountError Word256}
    (offered : told.accounts = [accounts]) (priced : told.gasPrices = [price])
    (silent : (flags.apply (Draft.start.run told.news)).2 = [])
    (valid : (told.draft flags).validate = .ok ()) (signed : SignedTransaction)
    (head : Except AccountError UInt64) (opened : UInt64) {condition : ConditionFlags}
    {thenSchedule : Bool} {rest : List (Exchange Query Query.Answer)}
    {result : Except CommandError Unit}
    (goesOn : Yields
      (if thenSchedule then
        (Session.applyCondition ⟨.start opened (head.toOption.getD 0)
          context.config.delaySeconds, told.draft flags, signed.raw.text, true⟩
          condition).andThen Session.submit
      else .done (.ok ())) rest result) :
    Yields (context.compose flags condition thenSchedule)
      (⟨.chainHead, head⟩ :: ⟨.clock, opened⟩ :: ⟨.accounts, accounts⟩ ::
        ⟨.gasPrice, price⟩ :: ⟨.call (.sign (told.draft flags).canonical), .ok signed⟩ ::
          ⟨.print signed.raw.text, ()⟩ :: rest) result := by
  let editor : Editor := .start opened (head.toOption.getD 0) context.config.delaySeconds
  have opens : Yields context.openSession [⟨.chainHead, head⟩, ⟨.clock, opened⟩]
      (.start editor true) := by
    simp only [openSession, chainHead, there]
    exact .ask (.ask (.done _))
  have primes : Yields (Session.start editor true).primeDraft
      [⟨.accounts, accounts⟩, ⟨.gasPrice, price⟩]
      ⟨editor, Draft.start.run told.news, "", true⟩ := by
    rw [Told.news, Told.offers, offered, priced]
    cases accounts <;> cases price <;> exact .ask (.ask (.done _))
  rw [Told.draft_eq_apply] at valid goesOn ⊢
  have signs := Session.yields_signDraft ⟨editor, Draft.start.run told.news, "", true⟩ rfl
    silent valid signed
  rw [compose, there]
  exact opens.bind (primes.bind (signs.bind (.ask goesOn)))

end

/-- A sender that is given prevails over the account on offer, and what is signed is
scheduled although the wallet tells no gas price.  Without one the first account on offer
becomes the sender, at the price in the middle of the options around that of the network. -/
theorem Context.given_or_first_sender_signed :
    let config : Config := ⟨⟨"http", "http://127.0.0.1:8080", 30⟩, none, default, 10800⟩
    let context : Context := ⟨config, some ⟨"http://127.0.0.1:8545", 0⟩,
      .make "http://127.0.0.1:8080" 30⟩
    let account : Account := ⟨Vector.replicate 20 0x11⟩
    let signed : SignedTransaction := ⟨⟨"0xf86c", by decide⟩, none⟩
    let sender := "0x5aaeb6053f3e94c9b9a09f33669435e7ef1beaed"
    let flags : DraftFlags := ⟨some sender, none, none, none, none, some "0xbeef"⟩
    let condition : ConditionFlags := ⟨some "12k", none⟩
    let transaction : CanonicalTransaction :=
      ⟨sender, none, 0, 0, .saturating 21000, some "0xbeef"⟩
    let exchanges : List (Exchange Query Query.Answer) :=
      [⟨.chainHead, .ok (11999 : UInt64)⟩, ⟨.clock, (1700000000 : UInt64)⟩,
        ⟨.accounts, .ok [account]⟩, ⟨.gasPrice, .error (.network "timed out")⟩,
        ⟨.call (.sign transaction), .ok signed⟩, ⟨.print "0xf86c", ()⟩,
        ⟨.clock, (1700000001 : UInt64)⟩, ⟨.print (Editor.announcement (.block 12000)), ()⟩,
        ⟨.call (.schedule (.block 12000) signed.raw), .ok "sched-42"⟩,
        ⟨.print "Transaction Scheduled. Id: sched-42", ()⟩]
    let senderless : DraftFlags := ⟨none, none, some "1 ether", none, none, none⟩
    let fromFirst : CanonicalTransaction :=
      ⟨account.address, none, .saturating (10 ^ 18), .saturating (21 * 10 ^ 9),
        .saturating 21000, none⟩
    let exchangesThen : List (Exchange Query Query.Answer) :=
      [⟨.chainHead, .error (.network "timed out")⟩, ⟨.clock, (1700000000 : UInt64)⟩,
        ⟨.accounts, .ok [account, ⟨Vector.replicate 20 0x22⟩]⟩,
        ⟨.gasPrice, .ok (.saturating (20 * 10 ^ 9))⟩,
        ⟨.call (.sign fromFirst), .ok signed⟩, ⟨.print "0xf86c", ()⟩]
    (Yields (context.run (.compose flags condition true)) exchanges (.ok .done) ∧
      ComposeRun flags condition true true config.delaySeconds (.of exchanges)) ∧
      Yields (context.run (.compose senderless condition false)) exchangesThen (.ok .done) ∧
        ComposeRun senderless condition false true config.delaySeconds
          (.of exchangesThen) := by
  intro config context account signed sender flags condition transaction exchanges
    senderless fromFirst exchangesThen
  have yields : Yields (context.run (.compose flags condition true)) exchanges
      (.ok .done) := by
    let told : Told :=
      { accounts := [.ok [account]]
        gasPrices := [.error (.network "timed out")] }
    let session : Session := ⟨.start 1700000000 11999 10800, told.draft flags, "0xf86c", true⟩
    let chosen : Editor := ((session.editor.setMode .block).editBlock "12k").1
    have applies : Yields (session.applyCondition condition)
        [⟨.clock, (1700000001 : UInt64)⟩,
          ⟨.print (Editor.announcement (.block 12000)), ()⟩]
        (.ok { session with editor := chosen }) := by
      simp only [condition, session]
      exact .ask (.ask (.done _))
    have submits : Yields (Session.submit { session with editor := chosen })
        [⟨.call (.schedule (.block 12000) signed.raw), .ok "sched-42"⟩,
          ⟨.print "Transaction Scheduled. Id: sched-42", ()⟩] (.ok ()) :=
      Session.yields_submit rfl (.ok "sched-42")
    have schedules : Yields ((session.applyCondition condition).andThen Session.submit) _
        (.ok ()) := applies.bind submits
    have canonical : (told.draft flags).canonical = transaction := by decide +kernel
    have composes : Yields (context.compose flags condition true) _ (.ok ()) :=
      yields_compose rfl told rfl rfl (by decide +kernel) (by decide +kernel) signed
        (.ok 11999) 1700000000 schedules
    rw [canonical] at composes
    exact composes.bind (.done _)
  have yieldsThen : Yields (context.run (.compose senderless condition false)) exchangesThen
      (.ok .done) := by
    let accounts : List Account := [account, ⟨Vector.replicate 20 0x22⟩]
    let told : Told :=
      { accounts := [.ok accounts]
        gasPrices := [.ok (.saturating (20 * 10 ^ 9))] }
    have sender : (told.draft senderless).sender.value = account.address :=
      Told.sender_draft_of_offered rfl rfl
    have valid : (told.draft senderless).validate = .ok () :=
      (Told.validate_draft_of_offered rfl rfl).mpr ⟨by decide +kernel, by decide +kernel⟩
    have canonical : (told.draft senderless).canonical = fromFirst := by
      rw [Draft.canonical, CanonicalTransaction.mk.injEq]
      refine ⟨sender, ?_, ?_, ?_, ?_, ?_⟩ <;> decide +kernel
    have composes : Yields (context.compose senderless condition false) _ (.ok ()) :=
      yields_compose rfl told rfl rfl (by decide +kernel) valid signed
        (.error (.network "timed out")) 1700000000 (.done _)
    rw [canonical] at composes
    exact composes.bind (.done _)
  have given := (compose_schedules_signed context flags condition true).2 _ _ yields
  have first := (compose_schedules_signed context senderless condition false).2 _ _ yieldsThen
  exact ⟨⟨yields, given⟩, yieldsThen, first⟩

end TimedRelease
