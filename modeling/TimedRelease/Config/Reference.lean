import TimedRelease.Text.Numeral

/-!
# References to variables

A text may refer to variables of the environment, with or without a default for
a variable that is not set: a dollar sign, and in braces a name and perhaps the
default behind the mark `:-`.  Anything that is no reference stays as it is, and
what a reference stands for is not looked at again.
-/

namespace TimedRelease.Config

/-- A reference: the name of a variable, and a default. -/
structure Reference where
  name : List Char
  default? : Option (List Char)
  deriving DecidableEq, Repr

namespace Reference

/-- The characters a name starts with. -/
def isNameStart (c : Char) : Bool :=
  c.isUpper || c = '_'

/-- The characters of a name. -/
def isNameChar (c : Char) : Bool :=
  c.isUpper || c.isDigit || c = '_'

/-- The length of the longest name. -/
def longestName : Nat := 128

/-- The length of the longest default. -/
def longestDefault : Nat := 256

/-- A run of characters in front of one of another kind, when it is not too long. -/
def shortRun? (isPart : Char → Bool) (longest : Nat) (text : List Char) :
    Option (List Char × List Char) :=
  let run := (text.take (longest + 1)).takeWhile isPart
  if run.length ≤ longest then some (run, text.drop run.length) else none

/-- Reads what stands behind the name: the closing brace, perhaps after a default. -/
def readEnd? (name : List Char) : List Char → Option (Reference × List Char)
  | '}' :: rest => some (⟨name, none⟩, rest)
  | ':' :: '-' :: rest =>
    match shortRun? (· != '}') longestDefault rest with
    | some (text, '}' :: after) => some (⟨name, some text⟩, after)
    | _ => none
  | _ => none

/-- Reads a reference behind its dollar sign. -/
def read? : List Char → Option (Reference × List Char)
  | '{' :: c :: rest =>
    if isNameStart c then
      match shortRun? isNameChar longestName (c :: rest) with
      | some (name, after) => readEnd? name after
      | none => none
    else none
  | _ => none

theorem length_of_shortRun? {isPart : Char → Bool} {longest : Nat} {text run rest : List Char}
    (found : shortRun? isPart longest text = some (run, rest)) : rest.length ≤ text.length := by
  simp only [shortRun?] at found
  split at found
  · cases found
    simp
  · cases found

theorem length_of_readEnd? {name text rest : List Char} {reference : Reference}
    (found : readEnd? name text = some (reference, rest)) : rest.length < text.length := by
  unfold readEnd? at found
  split at found
  · cases found
    simp
  · split at found
    · rename_i run
      cases found
      have := length_of_shortRun? run
      simp only [List.length_cons] at *
      omega
    · cases found
  · cases found

theorem length_of_read? {text rest : List Char} {reference : Reference}
    (found : read? text = some (reference, rest)) : rest.length < text.length := by
  unfold read? at found
  split at found
  · split at found
    · split at found
      · rename_i run
        have first := length_of_shortRun? run
        have second := length_of_readEnd? found
        simp only [List.length_cons] at *
        omega
      · cases found
    · cases found
  · cases found

end Reference

/-- A part of a text: a character that stays, or a reference. -/
inductive Token where
  | plain (c : Char)
  | reference (reference : Reference)
  deriving DecidableEq, Repr

namespace Token

/-- The parts of a text, behind parts found before, the last of those first. -/
def scan (done : List Token) (text : List Char) : List Token :=
  match text with
  | [] => done.reverse
  | c :: rest =>
    if c = '$' then
      match _found : Reference.read? rest with
      | some (found, after) => scan (.reference found :: done) after
      | none => scan (.plain c :: done) rest
    else scan (.plain c :: done) rest
  termination_by text.length
  decreasing_by
    · have := Reference.length_of_read? _found
      simp only [List.length_cons]
      omega
    · simp only [List.length_cons]
      omega
    · simp only [List.length_cons]
      omega

/-- The parts of a text. -/
def ofText (text : List Char) : List Token :=
  scan [] text

/-- The reference that a part is. -/
def reference? : Token → Option Reference
  | .plain _ => none
  | .reference found => some found

end Token

/-- The variables that are set. -/
abbrev Environment : Type := String → Option String

/-- What a reference stands for: the value of its variable if that is set, and
otherwise its default. -/
def Reference.value? (environment : Environment) (reference : Reference) : Option (List Char) :=
  match environment (String.ofList reference.name) with
  | some value => some value.toList
  | none => reference.default?

/-- Puts the values of references in their place, behind text that is done, the last
character first.  The first reference without a value is the fault. -/
def substitute (environment : Environment) (done : List Char) :
    List Token → Except Reference (List Char)
  | [] => .ok done.reverse
  | .plain c :: rest => substitute environment (c :: done) rest
  | .reference reference :: rest =>
    match reference.value? environment with
    | some value => substitute environment (value.reverse ++ done) rest
    | none => .error reference

end TimedRelease.Config
