import TimedRelease.Wire.Codec

/-!
# What a record is read from

A record is read when none of its names is repeated and no item is left over; what is
found for a field depends on its name and place alone.  So a reader of records succeeds
exactly when each of its fields can be read from what is there for it.
-/

namespace TimedRelease

open Json (Value)

/-- The text is JSON of this value and nothing more. -/
def Json.IsText (text : String) (value : Value) : Prop :=
  ∃ rest, readLeading text.toList = some (value, rest) ∧ (skipSpace rest).isEmpty = true

namespace Wire

theorem bind_eq_ok_iff {α β : Type} {reading : Reading α} {next : α → Reading β}
    {result : β} :
    (reading >>= next) = .ok result ↔ ∃ value, reading = .ok value ∧ next value = .ok result := by
  cases reading <;> simp [bind, Except.bind]

theorem ok_bind {α β : Type} (value : α) (next : α → Reading β) :
    ((.ok value : Reading α) >>= next) = next value := rfl

theorem readText_eq_ok_iff {α : Type} {decode : Value → Reading α} {text : String}
    {read : α} :
    readText decode text = .ok read ↔
      ∃ value, Json.IsText text value ∧ decode value = .ok read := by
  simp only [readText, Json.IsText]
  cases leading : Json.readLeading text.toList with
  | none => simp
  | some found =>
      obtain ⟨value, rest⟩ := found
      simp only [bind_eq_ok_iff, Option.some.injEq, Prod.mk.injEq]
      constructor
      · rintro ⟨value, decoded, ends⟩
        split at ends
        case isTrue nothingLeft =>
          cases ends
          exact ⟨_, ⟨rest, ⟨rfl, rfl⟩, nothingLeft⟩, decoded⟩
        case isFalse => contradiction
      · rintro ⟨value, ⟨rest, ⟨rfl, rfl⟩, nothingLeft⟩, decoded⟩
        exact ⟨read, decoded, if_pos nothingLeft⟩

/-! ## Parts -/

/-- An object with each of these names at most once, or an array with no more items than
names. -/
def isRecord (names : List String) : Value → Bool
  | .object members =>
    names.all fun name => decide ((Value.occurrences name members).length ≤ 1)
  | .array items => decide (items.length ≤ names.length)
  | _ => false

/-- What is there for a field of this place and name. -/
def partOf (value : Value) (place : Nat) (name : String) : Part :=
  match value with
  | .object members =>
    match Value.occurrences name members with
    | [] => .unnamed
    | first :: _ => .given first
  | .array items => items[place]?.elim .cutOff .given
  | _ => .unnamed

theorem partNamed_eq (members : List (String × Value)) (place : Nat) (name : String) :
    partNamed members name =
      if (Value.occurrences name members).length ≤ 1 then
        .ok (partOf (.object members) place name)
      else .error .malformed := by
  rw [partNamed, partOf]
  match Value.occurrences name members with
  | [] => rfl
  | [value] => rfl
  | first :: second :: rest => simp

theorem mapM_partNamed_eq (members : List (String × Value)) (names : List String) :
    names.mapM (partNamed members) =
      if isRecord names (.object members) then
        .ok (names.mapIdx (partOf (.object members)))
      else .error .malformed := by
  induction names with
  | nil => rfl
  | cons name names induction =>
      have both : isRecord (name :: names) (.object members) =
          (decide ((Value.occurrences name members).length ≤ 1) &&
            isRecord names (.object members)) := by
        simp only [isRecord, List.all_cons]
      rw [List.mapM_cons, partNamed_eq members 0 name, induction, List.mapIdx_cons, both]
      by_cases once : (Value.occurrences name members).length ≤ 1
      · rw [if_pos once, decide_eq_true once, Bool.true_and]
        cases isRecord names (.object members) <;> rfl
      · rw [if_neg once, decide_eq_false once, Bool.false_and]
        rfl

theorem partsInOrder_eq (names : List String) (items : List Value) :
    partsInOrder names items =
      if isRecord names (.array items) then .ok (names.mapIdx (partOf (.array items)))
      else .error .malformed := by
  induction names generalizing items with
  | nil => cases items <;> rfl
  | cons name names induction =>
      -- What is there for the later fields stands one place earlier among later items.
      cases items with
      | nil =>
          have short : isRecord names (.array []) = true := by simp [isRecord]
          have whole : isRecord (name :: names) (.array []) = true := by simp [isRecord]
          rw [partsInOrder, induction, if_pos short, if_pos whole, List.mapIdx_cons]
          rfl
      | cons item items =>
          have fits : isRecord (name :: names) (.array (item :: items)) =
              isRecord names (.array items) := by
            simp [isRecord]
          rw [partsInOrder, induction, fits, List.mapIdx_cons]
          split <;> rfl

theorem parts_eq (names : List String) (value : Value) :
    parts names value =
      if isRecord names value then .ok (names.mapIdx (partOf value))
      else .error .malformed := by
  cases value with
  | object members => exact mapM_partNamed_eq members names
  | array items => exact partsInOrder_eq names items
  | _ => rfl

/-! ## Fields -/

/-- The value found for a field, unless it is `null`. -/
def Part.value? : Part → Option Value
  | .given .null => none
  | .given value => some value
  | _ => none

theorem Part.value?_ne_null (part : Part) : part.value? ≠ some .null := by
  cases part with
  | given value => cases value <;> simp [value?]
  | unnamed => simp [value?]
  | cutOff => simp [value?]

theorem rel_none_iff {α β : Type} {relation : α → β → Prop} {found : Option α} :
    Option.Rel relation found none ↔ found = none := by
  constructor
  · rintro ⟨⟩
    rfl
  · rintro rfl
    exact .none

theorem rel_some_iff {α β : Type} {relation : α → β → Prop} {found : Option α} {read : β} :
    Option.Rel relation found (some read) ↔
      ∃ value, found = some value ∧ relation value read := by
  constructor
  · rintro ⟨⟩
    exact ⟨_, rfl, ‹_›⟩
  · rintro ⟨value, rfl, related⟩
    exact .some related

theorem Part.defaulted_eq_ok_iff {α : Type} {decode : Value → Reading α} {part : Part}
    {read : Option α} :
    part.defaulted decode = .ok read ↔ Option.Rel (decode · = .ok ·) part.value? read := by
  have absent : Except.ok none = (.ok read : Reading (Option α)) ↔
      Option.Rel (decode · = .ok ·) none read := by
    constructor
    · rintro ⟨⟩
      exact .none
    · rintro ⟨⟩
      rfl
  have present (value : Value) : (decode value).map some = .ok read ↔
      Option.Rel (decode · = .ok ·) (some value) read := by
    constructor
    · intro mapped
      cases decoded : decode value with
      | error error =>
          rw [decoded] at mapped
          cases mapped
      | ok found =>
          rw [decoded] at mapped
          cases mapped
          exact .some decoded
    · rintro ⟨⟩
      simp [*, Except.map]
  cases part with
  | given value => cases value <;> first | exact absent | exact present _
  | unnamed => exact absent
  | cutOff => exact absent

theorem Part.required_eq_ok_iff {α : Type} {decode : Value → Reading α} {part : Part}
    {read : α} :
    part.required decode = .ok read ↔ ∃ value, part = .given value ∧ decode value = .ok read := by
  cases part <;> simp [required]

/-- The value for a field of this place and name, unless there is none or it is `null`. -/
def fieldOf? (value : Value) (place : Nat) (name : String) : Option Value :=
  (partOf value place name).value?

end Wire

/-! ## Answers to calls -/

namespace Rpc

open Wire

/-- The error object of a failed call is read from this value. -/
structure Failure.IsReadFrom (level : Nat) (value : Value) (failure : Failure) : Prop where
  record : isRecord ["code", "message", "data"] value = true
  code : Option.Rel (int64 · = .ok ·) (fieldOf? value 0 "code") failure.code
  message : partOf value 1 "message" = .given (.string failure.message)
  data : Option.Rel (anyValue (level + 1) · = .ok ·) (fieldOf? value 2 "data") failure.data

theorem Failure.decode_eq_ok_iff {level : Nat} {value : Value} {failure : Failure} :
    decode level value = .ok failure ↔ failure.IsReadFrom level value := by
  have message {text : String} : (partOf value 1 "message").required string = .ok text ↔
      partOf value 1 "message" = .given (.string text) := by
    rw [Part.required_eq_ok_iff]
    constructor
    · rintro ⟨found, there, reads⟩
      cases found <;> cases reads
      exact there
    · intro there
      exact ⟨_, there, rfl⟩
  rw [decode, parts_eq]
  split
  case isTrue record =>
    simp only [List.mapIdx_cons, List.mapIdx_nil, ok_bind]
    simp only [bind_eq_ok_iff, Part.defaulted_eq_ok_iff, message]
    constructor
    · rintro ⟨code, codeRead, text, textRead, data, dataRead, ⟨⟩⟩
      exact ⟨record, codeRead, textRead, dataRead⟩
    · rintro ⟨-, codeRead, textRead, dataRead⟩
      exact ⟨_, codeRead, _, textRead, _, dataRead, rfl⟩
  case isFalse noRecord =>
    constructor
    · intro fails
      contradiction
    · intro reads
      exact absurd reads.record noRecord

/-- The fields of an answer. -/
def Response.fields : List String := ["jsonrpc", "id", "result", "error"]

/-- An answer is read from this value. -/
structure Response.IsReadFrom (value : Value) (response : Response) : Prop where
  record : isRecord fields value = true
  version : Option.Rel (string · = .ok ·) (fieldOf? value 0 "jsonrpc") response.version
  id : Option.Rel (anyValue 1 · = .ok ·) (fieldOf? value 1 "id") response.id
  result : Option.Rel (anyValue 1 · = .ok ·) (fieldOf? value 2 "result") response.result
  failure : Option.Rel (fun error failure => failure.IsReadFrom 1 error)
    (fieldOf? value 3 "error") response.failure

theorem Response.decode_eq_ok_iff {value : Value} {response : Response} :
    decode value = .ok response ↔ response.IsReadFrom value := by
  rw [decode, parts_eq]
  split
  case isTrue record =>
    simp only [List.mapIdx_cons, List.mapIdx_nil, ok_bind]
    simp only [bind_eq_ok_iff, Part.defaulted_eq_ok_iff, Failure.decode_eq_ok_iff]
    constructor
    · rintro ⟨version, versionRead, id, idRead, result, resultRead, failure, failureRead, ⟨⟩⟩
      exact ⟨record, versionRead, idRead, resultRead, failureRead⟩
    · rintro ⟨-, versionRead, idRead, resultRead, failureRead⟩
      exact ⟨_, versionRead, _, idRead, _, resultRead, _, failureRead, rfl⟩
  case isFalse noRecord =>
    constructor
    · intro fails
      contradiction
    · intro reads
      exact absurd reads.record noRecord

end Rpc

end TimedRelease
