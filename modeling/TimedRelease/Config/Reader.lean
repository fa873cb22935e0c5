import TimedRelease.Config.Basic
import TimedRelease.Config.Reference
import TimedRelease.Editor.Basic
import TimedRelease.Toml.Reader

/-!
# Reading configurations

References to variables are replaced first, then the text is read as TOML, its
sections are read into a configuration, and that is checked.  A section is a
table or an array with its fields in order.  The members of a table are read in
order of their names, and only then it is asked which fields are missing.
-/

namespace TimedRelease.Config

/-- The result of reading. -/
abbrev Reading (α : Type) : Type := Except ConfigError α

/-- How a field is read into a section of which some fields are known. -/
abbrev FieldReader (σ : Type) : Type := String × (σ → Toml.Value → Reading σ)

/-- Reads a text. -/
def readString (value : Toml.Value) : Reading String :=
  match value.string? with
  | some text => .ok text
  | none => .error .mistyped

/-- Reads a number of 64 bits without a sign. -/
def readUInt64 (value : Toml.Value) : Reading UInt64 :=
  match value.integer? with
  | some n => if 0 ≤ n ∧ n.toNat < UInt64.size then .ok (UInt64.ofNat n.toNat) else .error .mistyped
  | none => .error .mistyped

/-- Reads a table whose values are kept as they are. -/
def readTables (value : Toml.Value) : Reading (List (String × Toml.Value)) :=
  match value.members? with
  | none => .error .mistyped
  | some members =>
    if members.all (fun (_, value) => value.isKept) then .ok members else .error .mistyped

/-- Reads the members of a table; those of unknown names are passed over. -/
def readMembers {σ : Type} (fields : List (FieldReader σ)) (known : σ) :
    List (String × Toml.Value) → Reading σ
  | [] => .ok known
  | (name, value) :: rest =>
    match fields.lookup name with
    | some read =>
      match read known value with
      | .error error => .error error
      | .ok known => readMembers fields known rest
    | none => if value.isPassable then readMembers fields known rest else .error .mistyped

/-- Reads the items of an array as fields in order; further items are passed over. -/
def readItems {σ : Type} : List (FieldReader σ) → σ → List Toml.Value → Reading σ
  | (_, read) :: fields, known, item :: items =>
    match read known item with
    | .error error => .error error
    | .ok known => readItems fields known items
  | _, known, _ => .ok known

/-- Reads a section.  What is missing in an array is not missing by name. -/
def readSection {σ α : Type} (fields : List (FieldReader σ)) (start : σ)
    (finish : σ → Reading α) (value : Toml.Value) : Reading α :=
  match value with
  | .array items =>
    match readItems fields start items with
    | .error error => .error error
    | .ok known => (finish known).mapError fun _ => .mistyped
  | value =>
    match value.members? with
    | none => .error .mistyped
    | some members =>
      match readMembers fields start members with
      | .error error => .error error
      | .ok known => finish known

/-- A field that has to be there. -/
def required {α : Type} (name : String) : Option α → Reading α
  | some value => .ok value
  | none => .error (.missingField name)

/-- The fields of the scheduler as far as they are known. -/
structure SchedulerFields where
  implementation : String := SchedulerSection.defaultImplementation
  endpoint : Option String := none
  timeoutSeconds : UInt64 := SchedulerSection.defaultTimeout

/-- The fields of the scheduler. -/
def schedulerFields : List (FieldReader SchedulerFields) :=
  [("implementation", fun known value =>
      (readString value).map fun implementation => { known with implementation }),
    ("endpoint", fun known value =>
      (readString value).map fun endpoint => { known with endpoint := some endpoint }),
    ("timeout_seconds", fun known value =>
      (readUInt64 value).map fun timeoutSeconds => { known with timeoutSeconds })]

/-- Reads the section of the scheduler. -/
def readScheduler : Toml.Value → Reading SchedulerSection :=
  readSection schedulerFields {} fun known =>
    (required "endpoint" known.endpoint).map fun endpoint =>
      ⟨known.implementation, endpoint, known.timeoutSeconds⟩

/-- The fields of the account as far as they are known. -/
structure AccountFields where
  primary : Option String := none
  implementations : Option (List (String × Toml.Value)) := none

/-- The fields of the account. -/
def accountFields : List (FieldReader AccountFields) :=
  [("primary", fun known value =>
      (readString value).map fun primary => { known with primary := some primary }),
    ("implementations", fun known value =>
      (readTables value).map fun tables => { known with implementations := some tables })]

/-- Reads the section of the account. -/
def readAccount : Toml.Value → Reading AccountSection :=
  readSection accountFields {} fun known =>
    match required "primary" known.primary with
    | .error error => .error error
    | .ok primary =>
      (required "implementations" known.implementations).map fun tables => ⟨primary, tables⟩

/-- The fields of polling. -/
def pollingFields : List (FieldReader PollingSection) :=
  [("accounts_interval_ms", fun known value =>
      (readUInt64 value).map fun accounts => { known with accounts }),
    ("gas_price_interval_ms", fun known value =>
      (readUInt64 value).map fun gasPrice => { known with gasPrice }),
    ("chain_head_interval_ms", fun known value =>
      (readUInt64 value).map fun chainHead => { known with chainHead })]

/-- Reads the section of polling. -/
def readPolling : Toml.Value → Reading PollingSection :=
  readSection pollingFields default .ok

/-- The fields of the release condition. -/
def conditionFields : List (FieldReader UInt64) :=
  [("default_delay_seconds", fun _ value => readUInt64 value)]

/-- Reads the section of the release condition. -/
def readCondition : Toml.Value → Reading UInt64 :=
  readSection conditionFields Editor.defaultDelay .ok

/-- The sections as far as they are known. -/
structure Sections where
  scheduler : Option SchedulerSection := none
  account : Option AccountSection := none
  polling : PollingSection := default
  delaySeconds : UInt64 := Editor.defaultDelay

/-- The sections of a configuration. -/
def sections : List (FieldReader Sections) :=
  [("scheduler", fun known value =>
      (readScheduler value).map fun scheduler => { known with scheduler := some scheduler }),
    ("account", fun known value =>
      (readAccount value).map fun account => { known with account := some account }),
    ("polling", fun known value =>
      (readPolling value).map fun polling => { known with polling }),
    ("condition", fun known value =>
      (readCondition value).map fun delaySeconds => { known with delaySeconds })]

/-- Reads a configuration from a document, unchecked. -/
def ofToml : Toml.Value → Reading Config :=
  readSection sections {} fun known =>
    (required "scheduler" known.scheduler).map fun scheduler =>
      ⟨scheduler, known.account, known.polling, known.delaySeconds⟩

/-- The text with the values of references in their place. -/
def resolve (environment : Environment) (text : String) : Reading (List Char) :=
  if greatestSize < text.utf8ByteSize then .error (.tooLarge text.utf8ByteSize)
  else
    (substitute environment [] (Token.ofText text.toList)).mapError fun reference =>
      .unsetVariable (String.ofList reference.name)

/-- The configuration, if nothing is wrong with it. -/
def checked (config : Config) : Reading Config :=
  match config.fault? with
  | some fault => .error fault
  | none => .ok config

/-- The configuration of a text in which all references are replaced. -/
def ofResolved (text : List Char) : Reading Config :=
  match Toml.Value.ofText? text with
  | none => .error .malformed
  | some document =>
    match ofToml document with
    | .error error => .error error
    | .ok config => config.checked

/-- The configuration of a text. -/
def ofText (environment : Environment) (text : String) : Reading Config :=
  match resolve environment text with
  | .error error => .error error
  | .ok text => ofResolved text

/-- The names of the variables that a text refers to. -/
def variableNames (text : String) : List String :=
  (Token.ofText text.toList).filterMap fun token =>
    token.reference?.map fun reference => String.ofList reference.name

end TimedRelease.Config
