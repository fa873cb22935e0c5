import TimedRelease.Json.Value
import TimedRelease.Payload

/-!
# Records in JSON

A record is read from an object by the names of its fields or from an array by
their order.  A known name may occur once; other names are passed over.  A field
with a default may be left out in either form, an optional field without one
only by name.
-/

namespace TimedRelease.Wire

/-- Why a text is not read. -/
inductive WireError where
  /-- The text is no JSON, or JSON of another shape. -/
  | malformed
  /-- A payload inside it is refused. -/
  | payload (error : PayloadError)
  /-- A condition gives both a time and a block. -/
  | bothReleases
  /-- A condition gives neither a time nor a block. -/
  | noRelease
  /-- The block of a condition is no number. -/
  | blockNumber (text : String) (fault : Text.IntegerFault)
  deriving DecidableEq, Repr

/-- The wording of an error that has one of its own. -/
def WireError.message? : WireError → Option String
  | .malformed => none
  | .payload error => some error.message
  | .bothReleases => some "Condition must specify either time or block, not both"
  | .noRelease => some "Condition must specify time or block"
  | .blockNumber text fault =>
    some ("Invalid block number " ++ text ++ ": " ++ fault.message)

/-- The result of reading. -/
abbrev Reading (α : Type) := Except WireError α

/-- A field of a record as it was found. -/
inductive Part where
  | given (value : Json.Value)
  /-- No member has the name of the field. -/
  | unnamed
  /-- The array ends before the field. -/
  | cutOff
  deriving Inhabited

/-- The part of a name among members. -/
def partNamed (members : List (String × Json.Value)) (name : String) : Reading Part :=
  match Json.Value.occurrences name members with
  | [] => .ok .unnamed
  | [value] => .ok (.given value)
  | _ => .error .malformed

/-- The parts of fields among the items of an array. -/
def partsInOrder : List String → List Json.Value → Reading (List Part)
  | [], [] => .ok []
  | [], _ :: _ => .error .malformed
  | _ :: names, [] => (partsInOrder names []).map (.cutOff :: ·)
  | _ :: names, item :: items => (partsInOrder names items).map (.given item :: ·)

/-- The parts of a record with these fields. -/
def parts (names : List String) : Json.Value → Reading (List Part)
  | .object members => names.mapM (partNamed members)
  | .array items => partsInOrder names items
  | _ => .error .malformed

/-- The parts of a record with these fields and no others. -/
def partsOnly (names : List String) (value : Json.Value) : Reading (List Part) :=
  match value with
  | .object members =>
    if members.all (fun (name, _) => names.contains name) then parts names value
    else .error .malformed
  | _ => parts names value

namespace Part

/-- A field that has to be there. -/
def required {α : Type} (decode : Json.Value → Reading α) : Part → Reading α
  | .given value => decode value
  | _ => .error .malformed

/-- A field that may be `null`, or left out by name. -/
def optional {α : Type} (decode : Json.Value → Reading α) : Part → Reading (Option α)
  | .given .null => .ok none
  | .given value => (decode value).map some
  | .unnamed => .ok none
  | .cutOff => .error .malformed

/-- A field that may be `null` or left out. -/
def defaulted {α : Type} (decode : Json.Value → Reading α) : Part → Reading (Option α)
  | .given .null => .ok none
  | .given value => (decode value).map some
  | _ => .ok none

end Part

/-- Reads a string. -/
def string : Json.Value → Reading String
  | .string text => .ok text
  | _ => .error .malformed

/-- Reads a number of 64 bits. -/
def uint64 (value : Json.Value) : Reading UInt64 :=
  match value.uint64? with
  | some n => .ok n
  | none => .error .malformed

/-- Reads a signed integer of 64 bits. -/
def int64 : Json.Value → Reading Int
  | .number (.integer n) =>
    if -0x8000000000000000 ≤ n ∧ n ≤ 0x7FFFFFFFFFFFFFFF then .ok n else .error .malformed
  | _ => .error .malformed

/-- How deeply a whole text may be nested. -/
def nestingLimit : Nat := 127

/-- Reads a value of any shape, in its sorted form, inside so many arrays and objects. -/
def anyValue (level : Nat) (value : Json.Value) : Reading Json.Value :=
  if value.usable && decide (value.depth + level ≤ nestingLimit) then .ok value.sorted
  else .error .malformed

/-- Reads a value in a list of one. -/
def single {α : Type} (decode : Json.Value → Reading α) : Json.Value → Reading α
  | .array [item] => decode item
  | _ => .error .malformed

/-- Reads two values in a list of two. -/
def pair {α β : Type} (first : Json.Value → Reading α) (second : Json.Value → Reading β) :
    Json.Value → Reading (α × β)
  | .array [left, right] => do
    let left ← first left
    let right ← second right
    return (left, right)
  | _ => .error .malformed

end TimedRelease.Wire
