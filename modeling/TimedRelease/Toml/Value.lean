import TimedRelease.Json.Printer
import TimedRelease.Toml.Datetime

/-!
# TOML values

What a TOML document stands for.  The members of a table are in order of their
names and no name occurs twice.
-/

namespace TimedRelease.Toml

/-- A number of double precision. -/
inductive Double where
  | finite (value : Binary64)
  | infinite (negative : Bool)
  | nan
  deriving DecidableEq, Repr

/-- A TOML value. -/
inductive Value where
  | string (value : String)
  | integer (value : Int)
  | float (value : Double)
  | boolean (value : Bool)
  | datetime (value : Datetime)
  | array (items : List Value)
  | table (members : List (String × Value))
  deriving Repr

namespace Value

/-- The name of the kind of a value. -/
def kind : Value → String
  | .string _ => "string"
  | .integer _ => "integer"
  | .float _ => "float"
  | .boolean _ => "boolean"
  | .datetime _ => "datetime"
  | .array _ => "array"
  | .table _ => "table"

/-- The text of a string. -/
def string? : Value → Option String
  | .string text => some text
  | _ => none

/-- The number of an integer. -/
def integer? : Value → Option Int
  | .integer n => some n
  | _ => none

/-- The members of a table. -/
def table? : Value → Option (List (String × Value))
  | .table members => some members
  | _ => none

/-- The member of a name. -/
def find? (name : String) (members : List (String × Value)) : Option Value :=
  members.lookup name

/-- The member of a name, of a table. -/
def member? (value : Value) (name : String) : Option Value :=
  value.table?.bind (find? name)

/-- The name of the one member of a date and time that is taken for a table. -/
def datetimeName : String := "$__toml_private_datetime"

/-- The members of a value that is taken for a table: those of a table, and for a
date and time its text under a reserved name. -/
def members? : Value → Option (List (String × Value))
  | .table members => some members
  | .datetime value => some [(datetimeName, .string value.text)]
  | _ => none

mutual

/-- Every integer is within bounds. -/
def within (least greatest : Int) : Value → Bool
  | .integer n => least ≤ n && n ≤ greatest
  | .array items => itemsWithin least greatest items
  | .table members => membersWithin least greatest members
  | _ => true

/-- Every integer of every item is within bounds. -/
def itemsWithin (least greatest : Int) : List Value → Bool
  | [] => true
  | item :: rest => item.within least greatest && itemsWithin least greatest rest

/-- Every integer of every member is within bounds. -/
def membersWithin (least greatest : Int) : List (String × Value) → Bool
  | [] => true
  | (_, value) :: rest => value.within least greatest && membersWithin least greatest rest

end

/-- Every integer has 64 bits and a sign, as values that are kept must. -/
def isKept (value : Value) : Bool :=
  value.within (-0x8000000000000000) 0x7FFFFFFFFFFFFFFF

/-- Every integer can be read at all, as values that are passed over must. -/
def isPassable (value : Value) : Bool :=
  value.within (-0x80000000000000000000000000000000) 0xFFFFFFFFFFFFFFFFFFFFFFFFFFFFFFFF

/-- A double in JSON, which has no infinities. -/
def doubleJson : Double → Json.Value
  | .finite value => .number (.double value)
  | _ => .null

mutual

/-- A value in JSON. -/
def json : Value → Json.Value
  | .string text => .string text
  | .integer n => .number (.integer n)
  | .float value => doubleJson value
  | .boolean value => .bool value
  | .datetime value => .object [(datetimeName, .string value.text)]
  | .array items => .array (itemsJson items)
  | .table members => .object (membersJson members)

/-- Items in JSON. -/
def itemsJson : List Value → List Json.Value
  | [] => []
  | item :: rest => item.json :: itemsJson rest

/-- Members in JSON. -/
def membersJson : List (String × Value) → List (String × Json.Value)
  | [] => []
  | (name, value) :: rest => (name, value.json) :: membersJson rest

end

end Value

end TimedRelease.Toml
