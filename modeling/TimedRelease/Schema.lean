import TimedRelease.Toml.Value

/-!
# Schemas of configuration tables

A schema lists the fields of a table.  Checking a table finds the first field
that is wrong, the required ones before the optional ones and each in the order it
is declared; of one field the kind comes before the bounds and those before the
check of its own.  Members that are not declared do not matter.
-/

namespace TimedRelease

/-- The kind of value a field is declared with; bounds are inclusive. -/
inductive FieldKind where
  | string
  | integer (least greatest : Option Int)
  deriving DecidableEq, Repr

/-- A declared field, and what is wrong with a value beyond its kind. -/
structure SchemaField where
  name : String
  kind : FieldKind
  check : Option (Toml.Value → Option String)

/-- The fields of a table. -/
structure Schema where
  required : List SchemaField
  optional : List SchemaField

/-- What is wrong with a value of the right kind. -/
inductive ValueFault where
  | below (value least : Int)
  | above (value greatest : Int)
  /-- The check of the field says this. -/
  | refused (complaint : String)
  deriving DecidableEq, Repr

/-- The wording of a wrong value. -/
def ValueFault.message : ValueFault → String
  | .below value least =>
    "Value " ++ String.ofList (Json.renderInteger value) ++ " is less than minimum " ++
      String.ofList (Json.renderInteger least)
  | .above value greatest =>
    "Value " ++ String.ofList (Json.renderInteger value) ++ " is greater than maximum " ++
      String.ofList (Json.renderInteger greatest)
  | .refused complaint => complaint

/-- Why a table does not fit a schema. -/
inductive SchemaError where
  | missing (field : String)
  | invalid (field : String) (fault : ValueFault)
  | mismatch (field expected actual : String)
  deriving DecidableEq, Repr

/-- The wording of a schema error. -/
def SchemaError.message : SchemaError → String
  | .missing field => "Missing required field: " ++ field
  | .invalid field fault => "Invalid value for field '" ++ field ++ "': " ++ fault.message
  | .mismatch field expected actual =>
    "Type mismatch for field '" ++ field ++ "': expected " ++ expected ++ ", got " ++ actual

namespace SchemaField

/-- A field without a check of its own. -/
def plain (name : String) (kind : FieldKind) : SchemaField :=
  ⟨name, kind, none⟩

/-- What is wrong with a number that has to lie within bounds. -/
def boundFault? (least greatest : Option Int) (n : Int) : Option ValueFault :=
  match least.filter (n < ·), greatest.filter (· < n) with
  | some least, _ => some (.below n least)
  | none, some greatest => some (.above n greatest)
  | none, none => none

/-- The kind of a value is the declared one, and a number lies within its bounds. -/
def checkKind (field : SchemaField) (value : Toml.Value) : Except SchemaError Unit :=
  match field.kind with
  | .string =>
    match value.string? with
    | some _ => .ok ()
    | none => .error (.mismatch field.name "string" value.kind)
  | .integer least greatest =>
    match value.integer? with
    | none => .error (.mismatch field.name "integer" value.kind)
    | some n =>
      match boundFault? least greatest n with
      | some fault => .error (.invalid field.name fault)
      | none => .ok ()

/-- The check of the field finds nothing wrong. -/
def checkOwn (field : SchemaField) (value : Toml.Value) : Except SchemaError Unit :=
  match field.check.bind (· value) with
  | some complaint => .error (.invalid field.name (.refused complaint))
  | none => .ok ()

/-- Checks a value for a field. -/
def validate (field : SchemaField) (value : Toml.Value) : Except SchemaError Unit :=
  match field.checkKind value with
  | .error error => .error error
  | .ok () => field.checkOwn value

end SchemaField

namespace Schema

/-- The name that the table itself goes by in errors. -/
def rootName : String := "root"

/-- Checks a field that has to be there. -/
def validateRequired (members : List (String × Toml.Value)) (field : SchemaField) :
    Except SchemaError Unit :=
  match Toml.Value.find? field.name members with
  | none => .error (.missing field.name)
  | some value => field.validate value

/-- Checks a field that may be left out. -/
def validateOptional (members : List (String × Toml.Value)) (field : SchemaField) :
    Except SchemaError Unit :=
  match Toml.Value.find? field.name members with
  | none => .ok ()
  | some value => field.validate value

/-- The first error among fields. -/
def firstError (check : SchemaField → Except SchemaError Unit) :
    List SchemaField → Except SchemaError Unit
  | [] => .ok ()
  | field :: rest =>
    match check field with
    | .error error => .error error
    | .ok () => firstError check rest

/-- Checks a table. -/
def validate (schema : Schema) (value : Toml.Value) : Except SchemaError Unit :=
  match value.table? with
  | none => .error (.mismatch rootName "table" value.kind)
  | some members =>
    match firstError (validateRequired members) schema.required with
    | .error error => .error error
    | .ok () => firstError (validateOptional members) schema.optional

/-- The text starts with the scheme of a web address. -/
def isWebAddress (text : String) : Bool :=
  "http://".toList.isPrefixOf text.toList || "https://".toList.isPrefixOf text.toList

/-- What is wrong with a value that has to be a web address. -/
def webAddress (value : Toml.Value) : Option String :=
  let text := value.string?.getD ""
  if isWebAddress text then none else some ("Expected an http(s) URL, got '" ++ text ++ "'")

end Schema

end TimedRelease
