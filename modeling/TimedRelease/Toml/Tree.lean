import TimedRelease.Toml.Value

/-!
# The tree of a TOML document

While a document is read its tables are still open, each in a way that depends on
how it came to be: by a header of its own, by the header of a table inside it, or
by a dotted key.  A table has one header at most, dotted keys extend no table that
has one, and a header extends no table made by dotted keys.
-/

namespace TimedRelease.Toml

/-- How a table came to be. -/
inductive Origin where
  | header
  | implied
  | dotted
  deriving DecidableEq, Repr

/-- A node of the tree: a value, an open table, or a list of tables, the last first. -/
inductive Node where
  | value (value : Value)
  | table (origin : Origin) (members : List (String × Node))
  | tables (last : List (String × Node)) (earlier : List (List (String × Node)))
  deriving Repr

/-- The members of an open table, in order of their names. -/
abbrev Members : Type := List (String × Node)

namespace Members

/-- Puts a member at its place, replacing one of its name. -/
def put (name : String) (node : Node) : Members → Members
  | [] => [(name, node)]
  | (other, kept) :: rest =>
    if name < other then (name, node) :: (other, kept) :: rest
    else if name = other then (name, node) :: rest
    else (other, kept) :: put name node rest

/-- Changes the table at the end of a path of dotted keys. -/
def changeDotted (change : Origin → Members → Option Members) :
    List String → Origin → Members → Option Members
  | [], origin, members => change origin members
  | name :: path, _, members =>
    match members.lookup name with
    | none =>
      (changeDotted change path .dotted []).map fun inner =>
        members.put name (.table .dotted inner)
    | some (.table .header _) => none
    | some (.table origin inner) =>
      (changeDotted change path origin inner).map fun inner =>
        members.put name (.table origin inner)
    | some (.tables last earlier) =>
      (changeDotted change path .header last).map fun last =>
        members.put name (.tables last earlier)
    | some (.value _) => none

/-- Changes the table at the end of the path of a header; of a list of tables, the last. -/
def changeAt (change : Members → Option Members) : List String → Members → Option Members
  | [], members => change members
  | name :: path, members =>
    match members.lookup name with
    | none =>
      (changeAt change path []).map fun inner => members.put name (.table .implied inner)
    | some (.table origin inner) =>
      (changeAt change path inner).map fun inner => members.put name (.table origin inner)
    | some (.tables last earlier) =>
      (changeAt change path last).map fun last => members.put name (.tables last earlier)
    | some (.value _) => none

/-- Adds a new member; a dotted key needs a table made by dotted keys. -/
def addNew (isDotted : Bool) (name : String) (value : Value) (origin : Origin)
    (members : Members) : Option Members :=
  if (origin == .dotted) != isDotted then none
  else
    match members.lookup name with
    | some _ => none
    | none => some (members.put name (.value value))

/-- Adds a value under a key, which is a path and a name at its end. -/
def add (path : List String) (name : String) (value : Value) (members : Members) :
    Option Members :=
  changeDotted (addNew (!path.isEmpty) name value) path .header members

/-- Opens the table of a header. -/
def openTable (name : String) (members : Members) : Option Members :=
  match members.lookup name with
  | none => some (members.put name (.table .header []))
  | some (.table .implied inner) => some (members.put name (.table .header inner))
  | some _ => none

/-- Opens one more table of a list of tables. -/
def openItem (name : String) (members : Members) : Option Members :=
  match members.lookup name with
  | none => some (members.put name (.tables [] []))
  | some (.tables last earlier) => some (members.put name (.tables [] (last :: earlier)))
  | some _ => none

end Members

namespace Node

mutual

/-- The value of a node, once it is closed. -/
def close : Node → Value
  | .value held => held
  | .table _ members => .table (closeMembers members)
  | .tables last earlier => .array (closeTables earlier [.table (closeMembers last)])

/-- The values of members, once they are closed. -/
def closeMembers : List (String × Node) → List (String × Value)
  | [] => []
  | (name, node) :: rest => (name, node.close) :: closeMembers rest

/-- The values of earlier tables in front of later ones. -/
def closeTables : List (List (String × Node)) → List Value → List Value
  | [], later => later
  | members :: earlier, later => closeTables earlier (.table (closeMembers members) :: later)

end

end Node

end TimedRelease.Toml
