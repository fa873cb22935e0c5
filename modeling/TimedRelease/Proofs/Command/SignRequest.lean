import TimedRelease.Command.Basic
import TimedRelease.Proofs.Dialogue.Yields
import TimedRelease.Proofs.Draft.Request

/-!
# Printing a signing request

The command fills a new draft with its flags and prints the line that sends its request
to a node, or fails for want of a node or for what keeps the draft from being signed.
-/

namespace TimedRelease

open Dialogue (Yields Answered)

namespace DraftFlags

/-- Fields that are given, as edits of a draft. -/
def editsOf (flags : DraftFlags) (fields : List DraftField) : List DraftEdit :=
  fields.filterMap fun field => (flags.text? field).map (.setField field)

/-- The flags as edits of a draft. -/
def edits (flags : DraftFlags) : List DraftEdit :=
  flags.editsOf order

theorem applyFields_eq_run [Digest.Hash] (flags : DraftFlags) (draft : Draft)
    (fields : List DraftField) :
    (flags.applyFields draft fields).1 = draft.run (flags.editsOf fields) := by
  induction fields generalizing draft with
  | nil => rfl
  | cons field rest induction =>
      cases given : flags.text? field with
      | none => simpa [applyFields, editsOf, given] using induction draft
      | some text =>
          simpa [applyFields, editsOf, given, Draft.setField, Draft.run, Draft.step] using
            induction (draft.fill field text)

theorem apply_eq_run [Digest.Hash] (flags : DraftFlags) (draft : Draft) :
    (flags.apply draft).1 = draft.run flags.edits :=
  applyFields_eq_run flags draft order

end DraftFlags

/-- The line that is printed, if one is. -/
def Query.printed? : Query → Option String
  | .print line => some line
  | _ => none

/-- The lines printed in a dialogue of a command. -/
def printedLines (exchanges : List (Exchange Query Query.Answer)) : List String :=
  (exchanges.map Exchange.question).filterMap Query.printed?

namespace Context

variable {exchanges : List (Exchange Query Query.Answer)}

theorem questions_warnAll {lines : List String} {result : Unit}
    (yields : Yields (Asking.warnAll lines) exchanges result) :
    exchanges.map Exchange.question = lines.map .warn := by
  induction lines generalizing exchanges with
  | nil =>
      cases yields
      rfl
  | cons line rest induction =>
      obtain ⟨answer, later, rfl, goesOn⟩ := Dialogue.yields_ask_iff.mp yields
      rw [List.map_cons, List.map_cons, induction goesOn]

theorem yields_ending {running : Running Unit} {result : Except CommandError Ending}
    (yields : Yields (ending running) exchanges result) :
    ∃ value, Yields running exchanges value ∧ result = value.map fun _ => .done := by
  obtain ⟨first, value, later, rfl, runs, goesOn⟩ := Dialogue.yields_bind_iff.mp yields
  refine ⟨value, ?_⟩
  cases value with
  | error error =>
      obtain ⟨rfl, rfl⟩ := Dialogue.yields_done_iff.mp goesOn
      rw [List.append_nil]
      exact ⟨runs, rfl⟩
  | ok value =>
      obtain ⟨rfl, rfl⟩ := Dialogue.yields_done_iff.mp goesOn
      rw [List.append_nil]
      exact ⟨runs, rfl⟩

section

variable [Digest.Hash] {context : Context} {flags : DraftFlags} {nodeUrl : Option String}

def warnings (flags : DraftFlags) : List Query :=
  (flags.apply .start).2.map fun hint => .warn (DraftFlags.hintLine hint)

/-- What the command asks for, and what it comes to: it fails for want of a node or for
what keeps the draft from being signed, or prints a line after its warnings. -/
inductive SignRequest (context : Context) (flags : DraftFlags) (nodeUrl : Option String) :
    List Query → Except CommandError Ending → Prop where
  | noNodeUrl (unknown : (nodeUrl <|> context.config.nodeUrl?) = none) :
      SignRequest context flags nodeUrl [] (.error .noNodeUrl)
  | invalid {url : String} {error : DraftError}
      (known : (nodeUrl <|> context.config.nodeUrl?) = some url)
      (refused : (flags.apply .start).1.validate = .error error) :
      SignRequest context flags nodeUrl (warnings flags) (.error (.draft error))
  | printed {url : String} (known : (nodeUrl <|> context.config.nodeUrl?) = some url)
      (valid : (flags.apply .start).1.validate = .ok ()) :
      SignRequest context flags nodeUrl
        (warnings flags ++ [.print ((flags.apply .start).1.curlCommand url)]) (.ok .done)

namespace SignRequest

variable {questions : List Query} {result : Except CommandError Ending}

theorem of_yields (yields : Yields (context.run (.signRequest flags nodeUrl)) exchanges result) :
    SignRequest context flags nodeUrl (exchanges.map Exchange.question) result := by
  obtain ⟨value, runs, rfl⟩ := yields_ending yields
  cases known : nodeUrl <|> context.config.nodeUrl? with
  | none =>
      simp only [signRequest, known] at runs
      obtain ⟨rfl, rfl⟩ := Dialogue.yields_done_iff.mp runs
      exact .noNodeUrl known
  | some url =>
      simp only [signRequest, known] at runs
      obtain ⟨first, _, later, rfl, warned, goesOn⟩ := Dialogue.yields_bind_iff.mp runs
      have warns : first.map Exchange.question = warnings flags := by
        rw [questions_warnAll warned, List.map_map]
        rfl
      cases verdict : (flags.apply .start).1.validate with
      | error error =>
          simp only [Draft.shellCommand, verdict] at goesOn
          obtain ⟨rfl, rfl⟩ := Dialogue.yields_done_iff.mp goesOn
          rw [List.append_nil, warns]
          exact .invalid known verdict
      | ok value =>
          simp only [Draft.shellCommand, verdict] at goesOn
          obtain ⟨answer, rest, rfl, ends⟩ := Dialogue.yields_ask_iff.mp goesOn
          obtain ⟨rfl, rfl⟩ := Dialogue.yields_done_iff.mp ends
          rw [List.map_append, warns]
          exact .printed known verdict

theorem printed?_warnings (flags : DraftFlags) :
    (warnings flags).filterMap Query.printed? = [] := by
  apply List.filterMap_eq_nil_iff.mpr
  intro query member
  obtain ⟨hint, _, rfl⟩ := List.mem_map.mp member
  rfl

theorem of_ok {ending : Ending} (does : SignRequest context flags nodeUrl questions (.ok ending)) :
    (flags.apply .start).1.validate = .ok () ∧
      ∃ url, (nodeUrl <|> context.config.nodeUrl?) = some url ∧
        questions.filterMap Query.printed? = [(flags.apply .start).1.curlCommand url] := by
  cases does with
  | @printed url known valid =>
      refine ⟨valid, url, known, ?_⟩
      rw [List.filterMap_append, printed?_warnings]
      rfl

theorem of_valid {url : String} (does : SignRequest context flags nodeUrl questions result)
    (known : (nodeUrl <|> context.config.nodeUrl?) = some url)
    (valid : (flags.apply .start).1.validate = .ok ()) : result = .ok .done := by
  cases does with
  | noNodeUrl unknown =>
      rw [known] at unknown
      contradiction
  | invalid _ refused =>
      rw [valid] at refused
      contradiction
  | printed _ _ => rfl

theorem of_refused {error : DraftError}
    (does : SignRequest context flags nodeUrl questions result)
    (refused : (flags.apply .start).1.validate = .error error) :
    (result = .error .noNodeUrl ∨ result = .error (.draft error)) ∧
      questions.filterMap Query.printed? = [] := by
  cases does with
  | noNodeUrl unknown => exact ⟨.inl rfl, rfl⟩
  | invalid known verdict =>
      rw [refused] at verdict
      injection verdict with same
      subst same
      exact ⟨.inr rfl, printed?_warnings flags⟩
  | printed known valid =>
      rw [refused] at valid
      contradiction

end SignRequest

end

/-- However a draft has been edited, once it validates its request stands between single
quotes from which a shell takes it unchanged, whatever the node.  The command always comes
to an end.  It succeeds when there is a node and the draft of the flags validates; when it
succeeds that draft validates and the one line that it prints is such a line; and when that
draft does not validate it fails and prints nothing. -/
theorem signRequest_survives_quoting [Digest.Hash] :
    (∀ (edits : List DraftEdit) (nodeUrl : String),
      let draft := Draft.start.run edits
      draft.validate = .ok () → ∃ body, draft.Sends nodeUrl (draft.curlCommand nodeUrl) body) ∧
    ∀ (context : Context) (flags : DraftFlags) (nodeUrl : Option String),
      let dialogue := context.run (.signRequest flags nodeUrl)
      let draft := (flags.apply .start).1
      (∀ answer : List (Exchange Query Query.Answer) → (query : Query) → query.Answer,
        ∃ exchanges result, Yields dialogue exchanges result ∧ Answered answer exchanges) ∧
      (∀ exchanges result url, Yields dialogue exchanges result →
        (nodeUrl <|> context.config.nodeUrl?) = some url → draft.validate = .ok () →
          result = .ok .done) ∧
      (∀ exchanges ending, Yields dialogue exchanges (.ok ending) →
        draft.validate = .ok () ∧
          ∃ url line body, (nodeUrl <|> context.config.nodeUrl?) = some url ∧
            printedLines exchanges = [line] ∧ draft.Sends url line body) ∧
      ∀ exchanges result error, Yields dialogue exchanges result →
        draft.validate = .error error →
          (result = .error .noNodeUrl ∨ result = .error (.draft error)) ∧
            printedLines exchanges = [] := by
  have sends (edits : List DraftEdit) (nodeUrl : String)
      (valid : (Draft.start.run edits).validate = .ok ()) :
      ∃ body, (Draft.start.run edits).Sends nodeUrl
        ((Draft.start.run edits).curlCommand nodeUrl) body := by
    have signable := (Draft.Classified.start.run edits).signable valid
    exact ⟨_, signable.sends nodeUrl⟩
  refine ⟨sends, ?_⟩
  intro context flags nodeUrl dialogue draft
  refine ⟨Dialogue.exists_yields dialogue, ?_, ?_, ?_⟩
  · intro exchanges result url yields known valid
    exact (SignRequest.of_yields yields).of_valid known valid
  · intro exchanges ending yields
    obtain ⟨valid, url, known, only⟩ := (SignRequest.of_yields yields).of_ok
    -- What flags fill is a draft that edits lead to.
    have edited := flags.apply_eq_run .start
    obtain ⟨body, line⟩ := sends flags.edits url (by rwa [← edited])
    rw [← edited] at line
    exact ⟨valid, url, _, body, known, only, line⟩
  · intro exchanges result error yields refused
    exact (SignRequest.of_yields yields).of_refused refused

/-- With every field given the printed line is a request that curl receives; with data
that would close the quote nothing is printed. -/
theorem filled_request_printed :
    let config : Config := ⟨⟨"http", "http://127.0.0.1:8080", 30⟩, none, default, 10800⟩
    let context : Context := ⟨config, none, ⟨"http://127.0.0.1:8080/rpc", 30, 1⟩⟩
    let node := "http://127.0.0.1:8545"
    let edits : List DraftEdit :=
      [.setField .sender "0x5aaeb6053f3e94c9b9a09f33669435e7ef1beaed", .chooseGasPrice "20 gwei"]
    let edited := Draft.start.run edits
    let flags : DraftFlags :=
      ⟨some "0x5aaeb6053f3e94c9b9a09f33669435e7ef1beaed",
        some "0xfb6916095ca1df60bb79ce92ce3ea74c37c5d359", some "1.5 ether", some "21k",
        some "20 gwei", some "0xbeef"⟩
    let filled := (flags.apply .start).1
    let quoting : DraftFlags :=
      ⟨some "0x5aaeb6053f3e94c9b9a09f33669435e7ef1beaed", none, none, none, none,
        some "0x' ; reboot '"⟩
    let refusal : DraftError := .invalidData (.data "0x' ; reboot '")
    let doubt : Exchange Query Query.Answer :=
      ⟨.warn (DraftFlags.hintLine (.data, .data (.data "0x' ; reboot '"))), ()⟩
    (edited.validate = .ok () ∧
      ∃ body, edited.Sends node (edited.curlCommand node) body) ∧
    (∃ body, Yields (context.run (.signRequest flags (some node)))
        [⟨.print (filled.curlCommand node), ()⟩] (.ok .done) ∧
      Shell.words? (filled.curlCommand node) = some ["curl", node, "-X", "POST",
        "-HContent-Type:application/json", "--data", body]) ∧
    Yields (context.run (.signRequest quoting (some node))) [doubt] (.error (.draft refusal)) ∧
      printedLines [doubt] = [] := by
  intro config context node edits edited flags filled quoting refusal doubt
  obtain ⟨drafts, commands⟩ := signRequest_survives_quoting
  have valid : edited.validate = .ok () := by decide
  have yields : Yields (context.run (.signRequest flags (some node)))
      [⟨.print (filled.curlCommand node), ()⟩] (.ok .done) := .ask (.done _)
  have refused : (quoting.apply .start).1.validate = .error refusal := by decide
  have fails : Yields (context.run (.signRequest quoting (some node))) [doubt]
      (.error (.draft refusal)) := .ask (.done _)
  refine ⟨⟨valid, drafts edits node valid⟩, ?_, ?_⟩
  · obtain ⟨-, -, succeeds, -⟩ := commands context flags (some node)
    obtain ⟨-, url, printed, body, known, only, sends⟩ := succeeds _ _ yields
    injection known with known
    injection only with only
    subst known only
    exact ⟨body, yields, sends.words (by decide)⟩
  · obtain ⟨-, -, -, nothing⟩ := commands context quoting (some node)
    exact ⟨fails, (nothing _ _ refusal fails refused).2⟩

end Context

end TimedRelease
