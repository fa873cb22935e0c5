import TimedRelease.Json.Value

/-!
# JSON text

Values in compact text: no blanks, members in the order they are held, and in
strings only what has to be escaped is escaped.
-/

namespace TimedRelease.Json

/-- A character inside a string. -/
def escaped (c : Char) : List Char :=
  if c = '"' then ['\\', '"']
  else if c = '\\' then ['\\', '\\']
  else if c.toNat = 8 then ['\\', 'b']
  else if c.toNat = 9 then ['\\', 't']
  else if c.toNat = 10 then ['\\', 'n']
  else if c.toNat = 12 then ['\\', 'f']
  else if c.toNat = 13 then ['\\', 'r']
  else if c.toNat < 0x20 then
    ['\\', 'u', '0', '0', Nat.digitChar (c.toNat / 16), Nat.digitChar (c.toNat % 16)]
  else [c]

/-- A string between quotes. -/
def quoted (text : List Char) : List Char :=
  '"' :: (text.flatMap escaped ++ ['"'])

/-- An integer in base ten. -/
def renderInteger (n : Int) : List Char :=
  if n < 0 then '-' :: Text.decimal n.natAbs else Text.decimal n.natAbs

/-- A number as text. -/
def Number.render : Number → List Char
  | .integer n => renderInteger n
  | .double x => x.render.toList

namespace Value

mutual

/-- A value as text. -/
def render : Value → List Char
  | .null => ['n', 'u', 'l', 'l']
  | .bool true => ['t', 'r', 'u', 'e']
  | .bool false => ['f', 'a', 'l', 's', 'e']
  | .number n => n.render
  | .string text => quoted text.toList
  | .array items => '[' :: (renderItems items ++ [']'])
  | .object members => '{' :: (renderMembers members ++ ['}'])
  | .unusable => ['n', 'u', 'l', 'l']

/-- Items, a comma between them. -/
def renderItems : List Value → List Char
  | [] => []
  | item :: rest => item.render ++ renderMoreItems rest

/-- Further items, a comma before each. -/
def renderMoreItems : List Value → List Char
  | [] => []
  | item :: rest => ',' :: (item.render ++ renderMoreItems rest)

/-- Members, a comma between them. -/
def renderMembers : List (String × Value) → List Char
  | [] => []
  | (name, value) :: rest =>
    quoted name.toList ++ ':' :: (value.render ++ renderMoreMembers rest)

/-- Further members, a comma before each. -/
def renderMoreMembers : List (String × Value) → List Char
  | [] => []
  | (name, value) :: rest =>
    ',' :: (quoted name.toList ++ ':' :: (value.render ++ renderMoreMembers rest))

end

/-- The compact text of a value. -/
def text (value : Value) : String :=
  String.ofList value.render

end Value

end TimedRelease.Json
