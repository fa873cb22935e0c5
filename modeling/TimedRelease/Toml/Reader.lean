import TimedRelease.Toml.Quoted
import TimedRelease.Toml.Scalar
import TimedRelease.Toml.Tree

/-!
# Reading TOML

A document is a list of lines: headers of tables, and keys with their values.
Arrays may go over several lines; an inline table may not.  Arrays and inline
tables are nested at most eighty deep.  Every loop takes a bound that the length
of the whole text is below.
-/

namespace TimedRelease.Toml

/-! ## Between the parts -/

/-- What is left after spaces and tabs. -/
def skipSpaces (text : List Char) : List Char :=
  text.dropWhile Quoted.isSpace

/-- What is left after a comment, if the text starts with one: the end of its line. -/
def skipComment? : List Char → Option (List Char)
  | '#' :: rest =>
    let after := rest.dropWhile Quoted.isPlain
    match after with
    | [] => some after
    | _ => if (Quoted.afterLineEnd? after).isSome then some after else none
  | text => some text

/-- What is left after spaces, comments and ends of lines. -/
def skipLines? : Nat → List Char → Option (List Char)
  | 0, _ => none
  | fuel + 1, text =>
    match skipComment? (skipSpaces text) with
    | none => none
    | some after =>
      match Quoted.afterLineEnd? after with
      | some next => skipLines? fuel next
      | none => some after

/-- What follows the rest of a line that holds nothing more. -/
def endLine? (text : List Char) : Option (List Char) :=
  match skipComment? (skipSpaces text) with
  | none => none
  | some [] => some []
  | some after => Quoted.afterLineEnd? after

/-! ## Keys -/

/-- A character of a key without quotes. -/
def isKeyChar (c : Char) : Bool :=
  c.isAlphanum || c = '_' || c = '-'

/-- Reads one part of a key. -/
def keyPart? (text : List Char) : Option (String × List Char) :=
  match Quoted.readLine? text with
  | some (name, rest) => some (String.ofList name, rest)
  | none =>
    let name := text.takeWhile isKeyChar
    if name.isEmpty then none else some (String.ofList name, text.dropWhile isKeyChar)

/-- A key: the path in front of its last name, and that name. -/
structure Key where
  path : List String
  name : String
  deriving DecidableEq, Repr

/-- All parts of a key. -/
def Key.parts (key : Key) : List String :=
  key.path ++ [key.name]

/-- Reads a key, its parts divided by points. -/
def key? : Nat → List Char → Option (Key × List Char)
  | 0, _ => none
  | fuel + 1, text =>
    match keyPart? text with
    | none => none
    | some (name, rest) =>
      match skipSpaces rest with
      | '.' :: more =>
        (key? fuel (skipSpaces more)).map fun (key, rest) => (⟨name :: key.path, key.name⟩, rest)
      | after => some (⟨[], name⟩, after)

/-! ## Values -/

/-- How one value is read from the start of a text. -/
abbrev ValueReader : Type := List Char → Option (Value × List Char)

/-- Reads items up to the closing bracket; a comma may stand behind the last. -/
def items? (bound : Nat) (readOne : ValueReader) : Nat → List Value → List Char →
    Option (List Value × List Char)
  | 0, _, _ => none
  | fuel + 1, done, text =>
    match skipLines? bound text with
    | none => none
    | some (']' :: rest) => some (done.reverse, rest)
    | some start =>
      match readOne start with
      | none => none
      | some (item, rest) =>
        match skipLines? bound rest with
        | some (',' :: more) => items? bound readOne fuel (item :: done) more
        | some (']' :: after) => some ((item :: done).reverse, after)
        | _ => none

/-- Reads a key, an equals sign and a value. -/
def member? (bound : Nat) (readOne : ValueReader) (text : List Char) :
    Option (Key × Value × List Char) :=
  match key? bound text with
  | some (key, '=' :: rest) =>
    (readOne (skipSpaces rest)).map fun (value, rest) => (key, value, rest)
  | _ => none

/-- Reads the members of an inline table, of which there is at least one, up to the
closing brace. -/
def members? (bound : Nat) (readOne : ValueReader) : Nat → Members → List Char →
    Option (Members × List Char)
  | 0, _, _ => none
  | fuel + 1, done, text =>
    match member? bound readOne (skipSpaces text) with
    | none => none
    | some (key, value, rest) =>
      match done.add key.path key.name value with
      | none => none
      | some done =>
        match skipSpaces rest with
        | ',' :: more => members? bound readOne fuel done more
        | '}' :: after => some (done, after)
        | _ => none

/-- Reads a value in which arrays and inline tables are nested so deep at most. -/
def value? (bound : Nat) : Nat → ValueReader
  | depth + 1, '[' :: rest =>
    (items? bound (value? bound depth) bound [] rest).map fun (items, after) =>
      (.array items, after)
  | depth + 1, '{' :: rest =>
    match skipSpaces rest with
    | '}' :: after => some (.table [], after)
    | inside =>
      (members? bound (value? bound depth) bound [] inside).map fun (members, after) =>
        (.table (Node.closeMembers members), after)
  | _, text =>
    match text with
    | '"' :: _ => (Quoted.read? text).map fun (found, rest) => (.string (String.ofList found), rest)
    | '\'' :: _ => (Quoted.read? text).map fun (found, rest) => (.string (String.ofList found), rest)
    | _ => Scalar.read? text

/-- How deep arrays and inline tables are nested at most. -/
def nestingLimit : Nat := 80

/-! ## Documents -/

/-- A document as far as it was read: its tree, and the table that keys belong to. -/
structure Outline where
  tree : Members
  current : List String

/-- Reads the rest of a header behind its brackets. -/
def headerKey? (bound : Nat) (closing : List Char → Option (List Char)) (text : List Char) :
    Option (Key × List Char) :=
  match key? bound (skipSpaces text) with
  | none => none
  | some (key, rest) =>
    match closing rest with
    | none => none
    | some rest => (endLine? rest).map (key, ·)

/-- The bracket that closes the header of a table. -/
def closeTable? : List Char → Option (List Char)
  | ']' :: rest => some rest
  | _ => none

/-- The brackets that close the header of one more table of a list. -/
def closeItem? : List Char → Option (List Char)
  | ']' :: ']' :: rest => some rest
  | _ => none

/-- Opens the table of a header. -/
def Outline.enter (outline : Outline) (change : String → Members → Option Members) (key : Key) :
    Option Outline :=
  (outline.tree.changeAt (change key.name) key.path).map (⟨·, key.parts⟩)

/-- Adds a value to the current table. -/
def Outline.add (outline : Outline) (key : Key) (value : Value) : Option Outline :=
  (outline.tree.changeAt (Members.add key.path key.name value) outline.current).map
    ({ outline with tree := · })

/-- Reads a line that is not blank. -/
def line? (bound : Nat) (outline : Outline) : List Char → Option (Outline × List Char)
  | '[' :: '[' :: rest =>
    match headerKey? bound closeItem? rest with
    | none => none
    | some (key, rest) => (outline.enter Members.openItem key).map (·, rest)
  | '[' :: rest =>
    match headerKey? bound closeTable? rest with
    | none => none
    | some (key, rest) => (outline.enter Members.openTable key).map (·, rest)
  | text =>
    match member? bound (value? bound nestingLimit) text with
    | none => none
    | some (key, value, rest) =>
      match endLine? rest with
      | none => none
      | some rest => (outline.add key value).map (·, rest)

/-- Reads all lines. -/
def lines? (bound : Nat) : Nat → Outline → List Char → Option Outline
  | 0, _, _ => none
  | fuel + 1, outline, text =>
    match skipLines? bound text with
    | none => none
    | some [] => some outline
    | some start =>
      match line? bound outline start with
      | none => none
      | some (next, rest) => lines? bound fuel next rest

/-- The text without a byte order mark at its start. -/
def withoutMark : List Char → List Char
  | '\uFEFF' :: rest => rest
  | text => text

/-- The table that a document stands for. -/
def Value.ofText? (text : List Char) : Option Value :=
  let bound := text.length + 1
  (lines? bound bound ⟨[], []⟩ (withoutMark text)).map fun outline =>
    .table (Node.closeMembers outline.tree)

end TimedRelease.Toml
