import TimedRelease.Text.Numeral

/-!
# Quoted TOML strings

Strings come in four kinds: on one line or on several, and with escapes or
literally.  Up to two quotes may stand in front of the three that close a string
on several lines, and belong to it.
-/

namespace TimedRelease.Toml.Quoted

/-- A character that may stand in a string on one line. -/
def isPlain (c : Char) : Bool :=
  c = '\t' || (0x20 ≤ c.toNat && c.toNat ≠ 0x7F)

/-- A space or tab. -/
def isSpace (c : Char) : Bool :=
  c = ' ' || c = '\t'

/-- What is left after the end of a line, if the text starts with one. -/
def afterLineEnd? : List Char → Option (List Char)
  | '\n' :: rest => some rest
  | '\r' :: '\n' :: rest => some rest
  | _ => none

/-- What a text starts with after one end of a line that is passed over. -/
def withoutLineEnd (text : List Char) : List Char :=
  (afterLineEnd? text).getD text

/-- The character of a number, unless it is half of a surrogate pair or beyond the last. -/
def charOfCode? (code : Nat) : Option Char :=
  if code.isValidChar then some (Char.ofNat code) else none

/-- The character of a run of hexadecimal digits. -/
def charOfDigits? (digits : List Char) : Option Char :=
  if digits.all Text.isHexDigit then charOfCode? (Text.valueOf 16 digits) else none

/-- Reads an escape behind its backslash. -/
def escape? : List Char → Option (Char × List Char)
  | 'b' :: rest => some (Char.ofNat 8, rest)
  | 't' :: rest => some ('\t', rest)
  | 'n' :: rest => some ('\n', rest)
  | 'f' :: rest => some (Char.ofNat 12, rest)
  | 'r' :: rest => some ('\r', rest)
  | '"' :: rest => some ('"', rest)
  | '\\' :: rest => some ('\\', rest)
  | 'u' :: a :: b :: c :: d :: rest => (charOfDigits? [a, b, c, d]).map (·, rest)
  | 'U' :: a :: b :: c :: d :: e :: f :: g :: h :: rest =>
    (charOfDigits? [a, b, c, d, e, f, g, h]).map (·, rest)
  | _ => none

theorem length_of_escape? {text : List Char} {c : Char} {rest : List Char}
    (found : escape? text = some (c, rest)) : rest.length < text.length := by
  unfold escape? at found
  split at found
  case h_8 | h_9 =>
    obtain ⟨_, _, same⟩ := Option.map_eq_some_iff.1 found
    cases same
    simp only [List.length_cons]
    omega
  case h_10 => cases found
  all_goals
    cases found
    simp

/-- The blanks and ends of lines that are passed over behind a backslash at the end of a line. -/
def skipLineEnds (text : List Char) : List Char :=
  text.dropWhile fun c => isSpace c || c = '\n' || c = '\r'

/-- What follows a backslash at the end of a line, if this is one. -/
def afterContinuation? (text : List Char) : Option (List Char) :=
  (afterLineEnd? (text.dropWhile isSpace)).map skipLineEnds

theorem length_of_afterLineEnd? {text rest : List Char}
    (found : afterLineEnd? text = some rest) : rest.length < text.length := by
  unfold afterLineEnd? at found
  split at found
  case h_3 => cases found
  all_goals
    cases found
    simp only [List.length_cons]
    omega

theorem length_of_afterContinuation? {text rest : List Char}
    (found : afterContinuation? text = some rest) : rest.length < text.length := by
  obtain ⟨line, lineFound, rfl⟩ := Option.map_eq_some_iff.1 found
  have shorter := length_of_afterLineEnd? lineFound
  have first := (List.dropWhile_sublist isSpace : (text.dropWhile isSpace).Sublist text).length_le
  have second : (skipLineEnds line).length ≤ line.length :=
    (List.dropWhile_sublist _).length_le
  omega

/-- Reads a string on one line with escapes, behind its first quote. -/
def basic? (done : List Char) (text : List Char) : Option (List Char × List Char) :=
  match text with
  | [] => none
  | '"' :: rest => some (done.reverse, rest)
  | '\\' :: rest =>
    match _found : escape? rest with
    | some (c, after) => basic? (c :: done) after
    | none => none
  | c :: rest => if isPlain c then basic? (c :: done) rest else none
  termination_by text.length
  decreasing_by
    · have := length_of_escape? _found
      simp only [List.length_cons]
      omega
    · simp only [List.length_cons]
      omega

/-- Reads a literal string on one line, behind its first quote. -/
def literal? (done : List Char) : List Char → Option (List Char × List Char)
  | [] => none
  | c :: rest =>
    if c = '\'' then some (done.reverse, rest)
    else if isPlain c then literal? (c :: done) rest
    else none

/-- Reads a string on several lines with escapes, behind its first quotes. -/
def basicLines? (done : List Char) (text : List Char) : Option (List Char × List Char) :=
  match text with
  | [] => none
  | '"' :: '"' :: '"' :: '"' :: '"' :: rest => some (('"' :: '"' :: done).reverse, rest)
  | '"' :: '"' :: '"' :: '"' :: rest => some (('"' :: done).reverse, rest)
  | '"' :: '"' :: '"' :: rest => some (done.reverse, rest)
  | '\\' :: rest =>
    match _continued : afterContinuation? rest with
    | some after => basicLines? done after
    | none =>
      match _found : escape? rest with
      | some (c, after) => basicLines? (c :: done) after
      | none => none
  | '\r' :: '\n' :: rest => basicLines? ('\n' :: '\r' :: done) rest
  | c :: rest => if c = '\n' || isPlain c then basicLines? (c :: done) rest else none
  termination_by text.length
  decreasing_by
    · have := length_of_afterContinuation? _continued
      simp only [List.length_cons]
      omega
    · have := length_of_escape? _found
      simp only [List.length_cons]
      omega
    · simp only [List.length_cons]
      omega
    · simp only [List.length_cons]
      omega

/-- Reads a literal string on several lines, behind its first quotes. -/
def literalLines? (done : List Char) : List Char → Option (List Char × List Char)
  | [] => none
  | '\'' :: '\'' :: '\'' :: '\'' :: '\'' :: rest => some (('\'' :: '\'' :: done).reverse, rest)
  | '\'' :: '\'' :: '\'' :: '\'' :: rest => some (('\'' :: done).reverse, rest)
  | '\'' :: '\'' :: '\'' :: rest => some (done.reverse, rest)
  | '\r' :: '\n' :: rest => literalLines? ('\n' :: '\r' :: done) rest
  | c :: rest => if c = '\n' || isPlain c then literalLines? (c :: done) rest else none

/-- Reads a string on one line, with its quotes. -/
def readLine? : List Char → Option (List Char × List Char)
  | '"' :: rest => basic? [] rest
  | '\'' :: rest => literal? [] rest
  | _ => none

/-- Reads a string of any kind, with its quotes. -/
def read? : List Char → Option (List Char × List Char)
  | '"' :: '"' :: '"' :: rest => basicLines? [] (withoutLineEnd rest)
  | '\'' :: '\'' :: '\'' :: rest => literalLines? [] (withoutLineEnd rest)
  | text => readLine? text

end TimedRelease.Toml.Quoted
