import TimedRelease.Schema

/-!
# Implementations of services

A service is built from a table by one of the implementations there are for it,
chosen by name.  A built service counts only if its table also fits the schema of
the implementation.
-/

namespace TimedRelease

/-- A way to build a service from a table. -/
structure Implementation (Error Service : Type) where
  name : String
  schema : Schema
  build : Toml.Value → Except Error Service

namespace Implementation

variable {Error Service : Type}

/-- Checks a table against a schema; the error is worded by a function. -/
def fits (invalid : String → Error) (schema : Schema) (table : Toml.Value) :
    Except Error Unit :=
  match schema.validate table with
  | .error error => .error (invalid error.message)
  | .ok () => .ok ()

/-- Builds the service, and then checks its table. -/
def load (invalid : String → Error) (implementation : Implementation Error Service)
    (table : Toml.Value) : Except Error Service :=
  match implementation.build table with
  | .error error => .error error
  | .ok service =>
    match fits invalid implementation.schema table with
    | .error error => .error error
    | .ok () => .ok service

/-- The implementation of a name. -/
def named? (name : String) (implementations : List (Implementation Error Service)) :
    Option (Implementation Error Service) :=
  implementations.find? (·.name == name)

end Implementation

end TimedRelease
