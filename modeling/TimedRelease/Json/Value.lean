import TimedRelease.Number.Binary64

/-!
# JSON values

The values a JSON text stands for.  An object keeps its members in the order of
the text, repeated names included, because a reader of records has to see them.
A value kept as it is, with no record to read it into, is first put into its
sorted form, where names are in order and the last of a repeated name counts.
-/

namespace TimedRelease.Json

/-- A number: an integer of 64 bits in either sign, or a double. -/
inductive Number where
  | integer (value : Int)
  | double (value : Binary64)
  deriving DecidableEq, Repr, Inhabited

/-- A JSON value.  `unusable` stands for a part that is well formed as text but
has no value: a number beyond every double, or half of a surrogate pair. -/
inductive Value where
  | null
  | bool (value : Bool)
  | number (value : Number)
  | string (value : String)
  | array (items : List Value)
  | object (members : List (String × Value))
  | unusable
  deriving Repr, Inhabited

namespace Value

/-- A natural number. -/
def natural (n : Nat) : Value := .number (.integer n)

/-- A value or `null`. -/
def optional {α : Type} (encode : α → Value) : Option α → Value
  | none => .null
  | some value => encode value

mutual

/-- How deeply arrays and objects are nested. -/
def depth : Value → Nat
  | .array items => depthOfItems items + 1
  | .object members => depthOfMembers members + 1
  | _ => 0

/-- The greatest depth among items. -/
def depthOfItems : List Value → Nat
  | [] => 0
  | item :: rest => max item.depth (depthOfItems rest)

/-- The greatest depth among members. -/
def depthOfMembers : List (String × Value) → Nat
  | [] => 0
  | (_, value) :: rest => max value.depth (depthOfMembers rest)

end

mutual

/-- Every part has a value. -/
def usable : Value → Bool
  | .array items => usableItems items
  | .object members => usableMembers members
  | .unusable => false
  | _ => true

/-- Every part of every item has a value. -/
def usableItems : List Value → Bool
  | [] => true
  | item :: rest => item.usable && usableItems rest

/-- Every part of every member has a value. -/
def usableMembers : List (String × Value) → Bool
  | [] => true
  | (_, value) :: rest => value.usable && usableMembers rest

end

/-- Puts a member at its place among sorted members, replacing one of its name. -/
def insertMember (name : String) (value : Value) :
    List (String × Value) → List (String × Value)
  | [] => [(name, value)]
  | (other, kept) :: rest =>
    if name < other then (name, value) :: (other, kept) :: rest
    else if name = other then (name, value) :: rest
    else (other, kept) :: insertMember name value rest

mutual

/-- The sorted form: names in order, the last of a repeated name. -/
def sorted : Value → Value
  | .array items => .array (sortedItems items)
  | .object members => .object (sortedMembers members [])
  | other => other

/-- The sorted forms of items. -/
def sortedItems : List Value → List Value
  | [] => []
  | item :: rest => item.sorted :: sortedItems rest

/-- Adds the sorted forms of members to members already sorted. -/
def sortedMembers : List (String × Value) → List (String × Value) → List (String × Value)
  | [], done => done
  | (name, value) :: rest, done => sortedMembers rest (insertMember name value.sorted done)

end

/-- The values of a name, in order. -/
def occurrences (name : String) (members : List (String × Value)) : List Value :=
  members.filterMap fun (other, value) => if other = name then some value else none

/-- The last member of a name. -/
def member? (name : String) : Value → Option Value
  | .object members => (occurrences name members).getLast?
  | _ => none

/-- The text of a string. -/
def string? : Value → Option String
  | .string text => some text
  | _ => none

/-- The items of an array. -/
def items? : Value → Option (List Value)
  | .array items => some items
  | _ => none

/-- The integer a number is. -/
def integer? : Value → Option Int
  | .number (.integer n) => some n
  | _ => none

/-- An integer from zero up to 64 bits. -/
def uint64? : Value → Option UInt64
  | .number (.integer n) =>
    if 0 ≤ n ∧ n.toNat < UInt64.size then some (UInt64.ofNat n.toNat) else none
  | _ => none

end Value

end TimedRelease.Json
