import TimedRelease.Config.Reader
import TimedRelease.Proofs.Config.References

/-!
# Resolving references

A text of a configuration is rewritten from the left: each reference gives way to its value
and everything else stays.  Replacing ranges of bytes from the last one to the first comes to
the same, since what is done behind a range moves nothing in front of it.
-/

namespace TimedRelease.Config

/-! ## Ranges of bytes -/

/-- The size of a text in bytes. -/
def bytes : List Char → Nat
  | [] => 0
  | c :: rest => c.utf8Size + bytes rest

/-- A range of bytes, and the text that takes its place. -/
structure Replacement where
  start : Nat
  stop : Nat
  value : List Char

/-- The text in front of an offset in bytes and the text behind it, unless the offset lies
inside a character or beyond the end. -/
def splitAtByte? : Nat → List Char → Option (List Char × List Char)
  | 0, text => some ([], text)
  | _ + 1, [] => none
  | offset + 1, c :: rest =>
    if c.utf8Size ≤ offset + 1 then
      (splitAtByte? (offset + 1 - c.utf8Size) rest).map fun (before, after) => (c :: before, after)
    else none

/-- Puts a text in the place of a range, if that lies between characters. -/
def Replacement.splice? (replacement : Replacement) (text : List Char) : Option (List Char) := do
  let (before, _) ← splitAtByte? replacement.start text
  let (_, after) ← splitAtByte? replacement.stop text
  return before ++ (replacement.value ++ after)

/-- The ranges of the references among parts that begin at an offset, with their values, or
the first reference without a value. -/
def replacements (environment : Environment) (offset : Nat) :
    List Token → Except Reference (List Replacement)
  | [] => .ok []
  | .plain c :: rest => replacements environment (offset + c.utf8Size) rest
  | .reference reference :: rest =>
    match reference.value? environment with
    | some value =>
      let stop := offset + bytes reference.text
      (replacements environment stop rest).map (⟨offset, stop, value⟩ :: ·)
    | none => .error reference

/-- Replaces ranges from the last one to the first. -/
def replaceAll? (ranges : List Replacement) (text : List Char) : Option (List Char) :=
  ranges.foldr (fun range replaced => replaced.bind range.splice?) (some text)

/-- The text with the values of references put in place by their ranges. -/
def resolveInPlace (environment : Environment) (text : String) :
    Reading (Option (List Char)) :=
  if greatestSize < text.utf8ByteSize then .error (.tooLarge text.utf8ByteSize)
  else
    match replacements environment 0 (Token.ofText text.toList) with
    | .ok ranges => .ok (replaceAll? ranges text.toList)
    | .error reference => .error (.unsetVariable (String.ofList reference.name))

theorem bytes_append (first second : List Char) :
    bytes (first ++ second) = bytes first + bytes second := by
  induction first with
  | nil => simp [bytes]
  | cons c rest induction => simp [bytes, induction, Nat.add_assoc]

theorem splitAtByte?_append (before after : List Char) :
    splitAtByte? (bytes before) (before ++ after) = some (before, after) := by
  induction before with
  | nil => rw [bytes, splitAtByte?, List.nil_append]
  | cons c rest induction =>
      have positive := c.utf8Size_pos
      obtain ⟨offset, size⟩ : ∃ offset, c.utf8Size + bytes rest = offset + 1 :=
        ⟨c.utf8Size + bytes rest - 1, by omega⟩
      have inside : c.utf8Size ≤ offset + 1 := by omega
      have left : offset + 1 - c.utf8Size = bytes rest := by omega
      rw [bytes, size, List.cons_append, splitAtByte?, if_pos inside, left, induction]
      rfl

/-- A range between texts is replaced by its value. -/
theorem splice?_between (before middle value after : List Char) :
    Replacement.splice? ⟨bytes before, bytes before + bytes middle, value⟩
        (before ++ (middle ++ after)) = some (before ++ (value ++ after)) := by
  have start := splitAtByte?_append before (middle ++ after)
  have stop := splitAtByte?_append (before ++ middle) after
  rw [bytes_append, List.append_assoc] at stop
  simp [Replacement.splice?, start, stop]

theorem replaceAll?_cons (range : Replacement) (ranges : List Replacement) (text : List Char) :
    replaceAll? (range :: ranges) text = (replaceAll? ranges text).bind range.splice? := rfl

theorem replacements_reference (environment : Environment) (offset : Nat)
    (reference : Reference) (rest : List Token) :
    replacements environment offset (.reference reference :: rest) =
      if reference.isMissing environment then .error reference
      else
        (replacements environment (offset + bytes reference.text) rest).map
          (⟨offset, offset + bytes reference.text,
            Token.rewritten environment (.reference reference)⟩ :: ·) := by
  rw [replacements, Reference.value?_eq]
  cases reference.isMissing environment <;> rfl

/-- No ranges are collected if a reference has no value. -/
theorem replacements_of_missing {environment : Environment} {parts : List Token}
    {reference : Reference} (missing : firstMissing? environment parts = some reference)
    (offset : Nat) : replacements environment offset parts = .error reference := by
  induction parts generalizing offset with
  | nil => contradiction
  | cons part rest induction =>
      cases part with
      | plain c => exact induction missing _
      | reference first =>
          rw [firstMissing?_reference] at missing
          rw [replacements_reference]
          split at missing
          case isTrue here =>
            cases missing
            rw [if_pos here]
          case isFalse given =>
            rw [if_neg given, induction missing]
            rfl

/-- Replacing the ranges of parts behind a text leaves that text and rewrites the parts. -/
theorem replaceAll?_replacements {environment : Environment} {parts : List Token}
    (complete : firstMissing? environment parts = none) (before : List Char) :
    ∃ ranges, replacements environment (bytes before) parts = .ok ranges ∧
      replaceAll? ranges (before ++ parts.flatMap Token.text) =
        some (before ++ parts.flatMap (Token.rewritten environment)) := by
  induction parts generalizing before with
  | nil => exact ⟨[], rfl, rfl⟩
  | cons part rest induction =>
      cases part with
      | plain c =>
          obtain ⟨ranges, found, replaced⟩ := induction complete (before ++ [c])
          rw [bytes_append, bytes, bytes, Nat.add_zero] at found
          rw [List.append_assoc, List.append_assoc] at replaced
          exact ⟨ranges, found, replaced⟩
      | reference reference =>
          rw [firstMissing?_reference] at complete
          split at complete
          case isTrue => contradiction
          case isFalse given =>
            obtain ⟨ranges, found, replaced⟩ := induction complete (before ++ reference.text)
            rw [bytes_append] at found
            rw [List.append_assoc, List.append_assoc] at replaced
            refine ⟨_, by rw [replacements_reference, if_neg given, found]; rfl, ?_⟩
            -- The ranges behind are done, and this one is where it was.
            rw [replaceAll?_cons, List.flatMap_cons, List.flatMap_cons, Token.text, replaced]
            exact splice?_between before reference.text _ _

/-! ## The resolved text -/

theorem firstMissing?_eq_none_iff {environment : Environment} {parts : List Token} :
    firstMissing? environment parts = none ↔
      ∀ reference, .reference reference ∈ parts → reference.isMissing environment = false := by
  have member {reference : Reference} :
      reference ∈ parts.filterMap Token.reference? ↔ .reference reference ∈ parts := by
    rw [List.mem_filterMap]
    constructor
    · rintro ⟨part, listed, found⟩
      cases part with
      | plain c => contradiction
      | reference other =>
          cases found
          exact listed
    · intro listed
      exact ⟨_, listed, rfl⟩
  rw [firstMissing?, List.find?_eq_none]
  simp only [member, Bool.not_eq_true]

theorem resolve_eq {environment : Environment} {text : String} {parts : List Token}
    (divided : Parts text.toList parts) :
    resolve environment text =
      if greatestSize < text.utf8ByteSize then .error (.tooLarge text.utf8ByteSize)
      else
        match firstMissing? environment parts with
        | some reference => .error (.unsetVariable (String.ofList reference.name))
        | none => .ok (parts.flatMap (Token.rewritten environment)) := by
  rw [resolve, parts_iff.mp divided, substitute_eq]
  cases firstMissing? environment parts <;> rfl

theorem resolveInPlace_eq (environment : Environment) (text : String) :
    resolveInPlace environment text = (resolve environment text).map some := by
  obtain ⟨parts, divided⟩ := exists_parts text.toList
  rw [resolveInPlace, resolve_eq divided, parts_iff.mp divided]
  split
  case isTrue => rfl
  case isFalse =>
    cases missing : firstMissing? environment parts with
    | some reference =>
        rw [replacements_of_missing missing]
        rfl
    | none =>
        obtain ⟨ranges, found, replaced⟩ := replaceAll?_replacements missing []
        rw [bytes] at found
        rw [List.nil_append, divided.flatMap_text] at replaced
        simp [found, replaced, Except.map]

/-- A text has one division into references and characters that stay, each reference as far
to the left as one begins.  A text of at most a megabyte in which every reference has a value
resolves to the values with the characters that stay between them, and any other text fails,
for its size or for the first reference without a value.  Replacing the ranges of the
references from the last one to the first comes to the same. -/
theorem resolved_from_the_left (environment : Environment) (text : String) :
    ∃ parts, (∀ other, Parts text.toList other ↔ other = parts) ∧
      (∀ resolved, resolve environment text = .ok resolved ↔
        text.utf8ByteSize ≤ 1024 * 1024 ∧
          (∀ reference, .reference reference ∈ parts → reference.isMissing environment = false) ∧
          resolved = parts.flatMap (Token.rewritten environment)) ∧
      (∀ error, resolve environment text = .error error ↔
        1024 * 1024 < text.utf8ByteSize ∧ error = .tooLarge text.utf8ByteSize ∨
          text.utf8ByteSize ≤ 1024 * 1024 ∧ ∃ reference,
            firstMissing? environment parts = some reference ∧
              error = .unsetVariable (String.ofList reference.name)) ∧
      resolveInPlace environment text = (resolve environment text).map some := by
  obtain ⟨parts, divided⟩ := exists_parts text.toList
  have resolves := @resolve_eq environment text parts divided
  have limit : 1024 * 1024 = greatestSize := by decide
  rw [limit, resolves]
  refine ⟨parts, ?_, ?_, ?_, resolves ▸ resolveInPlace_eq environment text⟩
  · intro other
    rw [parts_iff, parts_iff.mp divided, eq_comm]
  · intro resolved
    rw [← firstMissing?_eq_none_iff]
    split
    case isTrue large => simp [Nat.not_le.mpr large]
    case isFalse small =>
      cases firstMissing? environment parts with
      | some reference => simp
      | none => simp [Nat.not_lt.mp small, eq_comm]
  · intro error
    split
    case isTrue large => simp [large, Nat.not_le.mpr large, eq_comm]
    case isFalse small =>
      cases firstMissing? environment parts with
      | some reference => simp [small, Nat.not_lt.mp small, eq_comm]
      | none => simp [small]

/-- What looks like a reference only once a default is in place is not looked at again. -/
example : (resolve (fun _ => none) "$\x7bA:-$\x7bB\x7d\x7d").toOption =
    some "$\x7bB\x7d".toList := by cbv

end TimedRelease.Config
