import Mathlib.Tactic.TFAE
import TimedRelease.Command.Basic
import TimedRelease.Digest.Keccak
import TimedRelease.Proofs.Session.Calls

/-!
# Pasted text

A text is pasted, looked at for what is wrong with it, read, and submitted, and each of
these trims and checks it anew.  They are of one mind, so that a command never submits
what the paste has found wrong.
-/

namespace TimedRelease

open Dialogue (Yields)

theorem RawTransaction.exists_parse_iff {text : String} :
    (∃ raw, parse text = .ok raw) ↔
      Payload.isRawTransaction (Text.trimmed text).toList = true := by
  constructor
  · rintro ⟨raw, read⟩
    rw [parse_eq_ok_iff.mp read]
    exact raw.isRaw
  · intro isRaw
    exact ⟨⟨_, isRaw⟩, parse_eq_ok_iff.mpr rfl⟩

namespace Session

theorem exists_yields_schedule {session : Session} (bare : session.Bare) :
    ∃ calls result, Yields session.schedule calls result := by
  cases valid : Payload.isRawTransaction session.raw.toList with
  | true => exact ⟨_, _, (yields_schedule_iff bare).mpr (.scheduled valid "")⟩
  | false =>
      obtain ⟨error, fault, -⟩ := schedule_of_invalid bare valid
      exact ⟨_, _, (yields_schedule_iff bare).mpr (.refused valid fault)⟩

theorem taken_iff_of_yields_schedule {session : Session} (bare : session.Bare)
    {calls : List (Exchange Call Call.Answer)} {result : Except SessionError ScheduleOutcome}
    (yields : Yields session.schedule calls result) :
    (∀ error, result ≠ .error (.invalidPayload error)) ↔
      Payload.isRawTransaction session.raw.toList = true := by
  cases (yields_schedule_iff bare).mp yields with
  | refused invalid fault => simp [invalid]
  | scheduled valid id => simp [valid]
  | failed valid error => simp [valid]

section

variable (session : Session) (text : String)

@[simp] theorem raw_paste : (session.paste text).1.raw = Text.trimmed text := rfl

@[simp] theorem editor_paste : (session.paste text).1.editor = session.editor := by
  rw [paste]

theorem valid_paste_eq :
    (session.paste text).2 = Payload.isRawTransaction (Text.trimmed text).toList := by
  rw [paste]

theorem bare_paste : (session.paste text).1.Bare := by
  rw [Bare, raw_paste, Text.trimmed_trimmed]

theorem valid_paste_iff :
    (session.paste text).2 = true ↔ ∃ raw, RawTransaction.parse text = .ok raw := by
  rw [valid_paste_eq, RawTransaction.exists_parse_iff]

theorem valid_paste_iff_markedDigits :
    (session.paste text).2 = true ↔ Payload.MarkedDigits (Text.trim text.toList) := by
  rw [valid_paste_eq, Payload.isRawTransaction_iff, Text.trimmed, String.toList_ofList]

theorem rawError?_paste_eq_none_iff :
    (session.paste text).1.rawError? = none ↔ (session.paste text).2 = true := by
  rw [rawError?, RawTransaction.error?_eq_none_iff, raw_paste, valid_paste_eq,
    RawTransaction.exists_parse_iff, Text.trimmed_trimmed]

theorem taken_paste_iff {calls : List (Exchange Call Call.Answer)}
    {result : Except SessionError ScheduleOutcome}
    (yields : Yields (session.paste text).1.schedule calls result) :
    (∀ error, result ≠ .error (.invalidPayload error)) ↔ (session.paste text).2 = true := by
  rw [taken_iff_of_yields_schedule (session.bare_paste text) yields, raw_paste, valid_paste_eq]

theorem exists_rawError_of_invalid (invalid : (session.paste text).2 = false) :
    ∃ error, (session.paste text).1.rawError? = some error := by
  rw [← Option.ne_none_iff_exists', ne_eq, rawError?_paste_eq_none_iff, invalid]
  exact Bool.false_ne_true

end

variable {session : Session} {text : String}

theorem pasteAndSubmit_of_valid (valid : (session.paste text).2 = true) :
    session.pasteAndSubmit text = (session.paste text).1.submit := by
  rw [valid_paste_eq] at valid
  simp only [pasteAndSubmit, paste, valid, if_true]

/-- What the paste finds wrong is refused before anything is submitted. -/
theorem pasteAndSubmit_of_invalid (invalid : (session.paste text).2 = false) :
    ∃ error, (session.paste text).1.rawError? = some error ∧
      session.pasteAndSubmit text = .done (.error (.invalidPayload error)) := by
  obtain ⟨error, fault⟩ := session.exists_rawError_of_invalid text invalid
  refine ⟨error, fault, ?_⟩
  rw [valid_paste_eq] at invalid
  simp only [paste] at fault
  simp only [pasteAndSubmit, paste, invalid, fault, Bool.false_eq_true, if_false]

/-- The validity of a raw transaction is one notion.  The validator accepts the texts of the
pattern.  Pasting, looking for an error, scheduling and reading agree on every text, and
on one that is valid all of them have the text without the blanks around it.  So pasting
one that is not valid ends before anything is submitted. -/
theorem pasted_text_judged_alike :
    (∀ text, Payload.isRawTransaction text = true ↔ Payload.MarkedDigits text) ∧
    ∀ (session : Session) (text : String),
      let pasted := (session.paste text).1
      List.TFAE [
        (session.paste text).2 = true,
        pasted.rawError? = none,
        ∀ calls result, Yields pasted.schedule calls result →
          ∀ error, result ≠ .error (.invalidPayload error),
        ∃ calls result, Yields pasted.schedule calls result ∧
          ∀ error, result ≠ .error (.invalidPayload error),
        ∃ raw, RawTransaction.parse text = .ok raw,
        Payload.MarkedDigits (Text.trim text.toList)] ∧
      (∀ raw, RawTransaction.parse text = .ok raw →
        raw.text = Text.trimmed text ∧ pasted.raw = Text.trimmed text ∧
          ∀ calls result, Yields pasted.schedule calls result →
            calls.map Exchange.question =
              [.schedule session.editor.current.condition raw]) ∧
      ((session.paste text).2 = false →
        ∃ error, pasted.rawError? = some error ∧
          session.pasteAndSubmit text = .done (.error (.invalidPayload error))) := by
  refine ⟨fun text => Payload.isRawTransaction_iff, ?_⟩
  intro session text
  dsimp only
  obtain ⟨someCalls, someResult, someYields⟩ :=
    exists_yields_schedule (session.bare_paste text)
  refine ⟨?_, ?_, pasteAndSubmit_of_invalid⟩
  · tfae_have 1 ↔ 2 := (session.rawError?_paste_eq_none_iff text).symm
    tfae_have 1 → 3 := by
      intro valid calls result yields
      exact (session.taken_paste_iff text yields).mpr valid
    tfae_have 3 → 4 := by
      intro taken
      exact ⟨someCalls, someResult, someYields, taken someCalls someResult someYields⟩
    tfae_have 4 → 1 := by
      rintro ⟨calls, result, yields, taken⟩
      exact (session.taken_paste_iff text yields).mp taken
    tfae_have 1 ↔ 5 := session.valid_paste_iff text
    tfae_have 1 ↔ 6 := session.valid_paste_iff_markedDigits text
    tfae_finish
  · intro raw read
    have same : Text.trimmed text = raw.text := RawTransaction.parse_eq_ok_iff.mp read
    have stored := session.raw_paste text
    refine ⟨same.symm, stored, ?_⟩
    intro calls result yields
    have submitted := questions_schedule (stored.trans same) yields
    rwa [editor_paste] at submitted

/-- A text that is marked twice is submitted without the blanks around it, and one that
ends in another letter is not submitted. -/
theorem doubly_marked_text_submitted :
    let session := start (.start 1700000000 0 Editor.defaultDelay) false
    let raw : RawTransaction := ⟨"0x0xf86c", by decide⟩
    RawTransaction.parse "\t0x0xf86c " = .ok raw ∧
      (session.paste "\t0x0xf86c ").1.raw = Text.trimmed "\t0x0xf86c " ∧
      (∀ calls result, Yields (session.paste "\t0x0xf86c ").1.schedule calls result →
        calls.map Exchange.question = [.schedule (.time 1700010800) raw]) ∧
      (session.paste "0xf86g").2 = false ∧
      ∃ error, session.pasteAndSubmit "0xf86g" = .done (.error (.invalidPayload error)) := by
  intro session raw
  have read : RawTransaction.parse "\t0x0xf86c " = .ok raw :=
    RawTransaction.parse_eq_ok_iff.mpr (by decide)
  have invalid : (session.paste "0xf86g").2 = false := by decide
  obtain ⟨-, judged⟩ := pasted_text_judged_alike
  obtain ⟨-, taken, -⟩ := judged session "\t0x0xf86c "
  obtain ⟨-, -, refused⟩ := judged session "0xf86g"
  obtain ⟨-, stored, submitted⟩ := taken raw read
  obtain ⟨error, -, ends⟩ := refused invalid
  exact ⟨read, stored, submitted, invalid, error, ends⟩

end Session

end TimedRelease
