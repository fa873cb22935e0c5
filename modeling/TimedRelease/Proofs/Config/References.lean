import Mathlib.Data.List.TakeWhile
import Mathlib.Tactic.Tauto
import TimedRelease.Config.Reference

/-!
# References from the left

A text has exactly one division into references and characters that stay, in which every
reference begins as far to the left as one can.  The division into parts is that one, and
putting values in place takes each reference on its own: the first one without a value is
the fault, and otherwise every reference gives way to its value and all else stays.
-/

namespace TimedRelease.Config

namespace Reference

/-! ## The form of a reference -/

/-- A name consists of at most 128 capital letters, digits and underscores, and starts with
no digit. -/
structure IsName (name : List Char) : Prop where
  nonempty : name ≠ []
  short : name.length ≤ 128
  letters : ∀ c ∈ name, ('A' ≤ c ∧ c ≤ 'Z') ∨ ('0' ≤ c ∧ c ≤ '9') ∨ c = '_'
  first : ∀ c ∈ name.head?, ¬('0' ≤ c ∧ c ≤ '9')

/-- A default consists of at most 256 characters, none of them a closing brace. -/
structure IsDefault (text : List Char) : Prop where
  short : text.length ≤ 256
  unclosed : '}' ∉ text

/-- A reference that can be written. -/
structure WellFormed (reference : Reference) : Prop where
  isName : IsName reference.name
  isDefault : ∀ text ∈ reference.default?, IsDefault text

/-- What is written behind the name. -/
def ending : Option (List Char) → List Char
  | none => ['}']
  | some text => ':' :: '-' :: (text ++ ['}'])

/-- The reference as it is written. -/
def text (reference : Reference) : List Char :=
  '$' :: '{' :: (reference.name ++ ending reference.default?)

theorem isUpper_iff {c : Char} : c.isUpper = true ↔ 'A' ≤ c ∧ c ≤ 'Z' :=
  decide_eq_true_iff

theorem isNameChar_iff {c : Char} :
    isNameChar c = true ↔ ('A' ≤ c ∧ c ≤ 'Z') ∨ ('0' ≤ c ∧ c ≤ '9') ∨ c = '_' := by
  simp [isNameChar, isUpper_iff, Char.isDigit, Char.le_def, or_assoc]

theorem isNameStart_iff {c : Char} :
    isNameStart c = true ↔ isNameChar c = true ∧ ¬('0' ≤ c ∧ c ≤ '9') := by
  have apart : ('A' ≤ c ∧ c ≤ 'Z') ∨ c = '_' → ¬('0' ≤ c ∧ c ≤ '9') := by
    simp only [Char.le_def, UInt32.le_iff_toNat_le]
    rintro (bounds | rfl)
    · simp only [Char.reduceVal, UInt32.reduceToNat] at *
      omega
    · decide
  have starts : isNameStart c = true ↔ ('A' ≤ c ∧ c ≤ 'Z') ∨ c = '_' := by
    simp [isNameStart, isUpper_iff]
  rw [starts, isNameChar_iff]
  tauto

/-! ## Runs of characters -/

variable {isPart : Char → Bool} {longest : Nat} {run rest : List Char}

theorem shortRun?_eq (isPart : Char → Bool) (longest : Nat) (text : List Char) :
    shortRun? isPart longest text =
      if (text.takeWhile isPart).length ≤ longest then
        some (text.takeWhile isPart, text.dropWhile isPart)
      else none := by
  have same : (text.take (longest + 1)).takeWhile isPart =
      (text.takeWhile isPart).take (longest + 1) := List.take_takeWhile.symm
  have behind : (text.takeWhile isPart ++ text.dropWhile isPart).drop
      (text.takeWhile isPart).length = text.dropWhile isPart := List.drop_left
  rw [List.takeWhile_append_dropWhile] at behind
  simp only [shortRun?, same, List.length_take]
  by_cases short : (text.takeWhile isPart).length ≤ longest
  · rw [if_pos short, if_pos (by omega), List.take_of_length_le (by omega),
      Nat.min_eq_right (by omega), behind]
  · rw [if_neg short, if_neg (by omega)]

/-- The run is taken whole. -/
theorem shortRun?_append (all : ∀ c ∈ run, isPart c = true) (short : run.length ≤ longest)
    (ends : ∀ c ∈ rest.head?, isPart c = false) :
    shortRun? isPart longest (run ++ rest) = some (run, rest) := by
  have nothing : rest.takeWhile isPart = [] := by
    cases rest with
    | nil => rfl
    | cons c others => simp [ends c rfl]
  have everything : rest.dropWhile isPart = rest := by
    cases rest with
    | nil => rfl
    | cons c others => simp [ends c rfl]
  rw [shortRun?_eq, List.takeWhile_append_of_pos all, List.dropWhile_append_of_pos all, nothing,
    everything, List.append_nil, if_pos short]

theorem of_shortRun? {text : List Char}
    (found : shortRun? isPart longest text = some (run, rest)) :
    text = run ++ rest ∧ (∀ c ∈ run, isPart c = true) ∧ run.length ≤ longest ∧
      ∀ c ∈ rest.head?, isPart c = false := by
  rw [shortRun?_eq] at found
  split at found
  case isTrue short =>
    cases found
    refine ⟨List.takeWhile_append_dropWhile.symm, fun c => List.mem_takeWhile_imp, short, ?_⟩
    intro c next
    have stops := List.head?_dropWhile_not isPart text
    rwa [next] at stops
  case isFalse => contradiction

/-! ## Reading a reference -/

theorem readEnd?_ending {name : List Char} {default? : Option (List Char)}
    (isDefault : ∀ text ∈ default?, IsDefault text) (rest : List Char) :
    readEnd? name (ending default? ++ rest) = some (⟨name, default?⟩, rest) := by
  cases default? with
  | none => rfl
  | some text =>
      obtain ⟨short, unclosed⟩ := isDefault text rfl
      have open? : ∀ c ∈ text, (c != '}') = true := by
        intro c member
        exact bne_iff_ne.mpr (ne_of_mem_of_not_mem member unclosed)
      have run : shortRun? (· != '}') longestDefault (text ++ '}' :: rest) =
          some (text, '}' :: rest) := shortRun?_append open? short (by simp)
      simp [ending, readEnd?, run]

theorem of_readEnd? {name text rest : List Char} {reference : Reference}
    (found : readEnd? name text = some (reference, rest)) :
    reference.name = name ∧ (∀ text ∈ reference.default?, IsDefault text) ∧
      text = ending reference.default? ++ rest := by
  unfold readEnd? at found
  split at found
  case h_1 =>
    cases found
    exact ⟨rfl, by simp, rfl⟩
  case h_2 after =>
    split at found
    case h_1 run =>
      cases found
      obtain ⟨rfl, all, short, -⟩ := of_shortRun? run
      refine ⟨rfl, ?_, by simp [ending]⟩
      intro text given
      cases given
      exact ⟨short, fun member => by simpa using all _ member⟩
    case h_2 => contradiction
  case h_3 => contradiction

theorem not_isNameChar_ending (default? : Option (List Char)) (rest : List Char) :
    ∀ c ∈ (ending default? ++ rest).head?, isNameChar c = false := by
  cases default? with
  | none => simp [ending, isNameChar]
  | some text => simp [ending, isNameChar]

theorem isName_cons_iff {c : Char} {more : List Char} :
    IsName (c :: more) ↔ (c :: more).length ≤ longestName ∧ isNameStart c = true ∧
      ∀ other ∈ c :: more, isNameChar other = true := by
  have letters : (∀ other ∈ c :: more, isNameChar other = true) ↔
      ∀ other ∈ c :: more, ('A' ≤ other ∧ other ≤ 'Z') ∨ ('0' ≤ other ∧ other ≤ '9') ∨
        other = '_' := by
    simp only [isNameChar_iff]
  rw [letters, isNameStart_iff, isNameChar_iff]
  constructor
  · rintro ⟨-, short, letters, first⟩
    exact ⟨short, ⟨letters c List.mem_cons_self, first c rfl⟩, letters⟩
  · rintro ⟨short, ⟨-, first⟩, letters⟩
    refine ⟨by simp, short, letters, ?_⟩
    rintro _ ⟨⟩
    exact first

/-- A reference is read behind its dollar sign exactly if it is written there. -/
theorem read?_eq_some_iff {text rest : List Char} {reference : Reference} :
    read? text = some (reference, rest) ↔
      reference.WellFormed ∧ '$' :: text = reference.text ++ rest := by
  constructor
  · intro found
    unfold read? at found
    split at found
    case h_2 => contradiction
    case h_1 c behind =>
      split at found
      case isFalse => contradiction
      case isTrue starts =>
        split at found
        case h_2 => contradiction
        case h_1 name after run =>
          obtain ⟨parts, all, short, ends⟩ := of_shortRun? run
          obtain ⟨rfl, isDefault, rfl⟩ := of_readEnd? found
          have isName : IsName reference.name := by
            cases named : reference.name with
            | nil =>
                -- The first character is one of a name, so that the run is not empty.
                rw [named, List.nil_append] at parts
                rw [← parts] at ends
                have noName := ends c rfl
                rw [(isNameStart_iff.mp starts).1] at noName
                contradiction
            | cons first more =>
                rw [named] at parts all short
                obtain ⟨rfl, -⟩ := List.cons.inj parts
                exact isName_cons_iff.mpr ⟨short, starts, all⟩
          exact ⟨⟨isName, isDefault⟩, by simp [Reference.text, parts]⟩
  · rintro ⟨⟨isName, isDefault⟩, same⟩
    obtain ⟨name, default?⟩ := reference
    simp only at isName isDefault
    cases name with
    | nil => exact (isName.nonempty rfl).elim
    | cons c more =>
        obtain ⟨short, starts, all⟩ := isName_cons_iff.mp isName
        have run := shortRun?_append all short (not_isNameChar_ending default? rest)
        have shape : text = '{' :: c :: (more ++ (ending default? ++ rest)) := by
          simpa [Reference.text] using same
        rw [List.cons_append] at run
        rw [shape, read?, if_pos starts, run]
        exact readEnd?_ending isDefault rest

/-- A reference begins the text. -/
def Opens (text : List Char) : Prop :=
  ∃ reference : Reference, reference.WellFormed ∧ reference.text <+: text

theorem opens_append {reference : Reference} (wellFormed : reference.WellFormed)
    (after : List Char) : Opens (reference.text ++ after) :=
  ⟨reference, wellFormed, List.prefix_append _ _⟩

end Reference

open Reference (Opens)

/-! ## The parts of a text -/

/-- The parts of a text from the left: a character stays if no reference begins there, and
what stands behind a reference is divided on its own. -/
inductive Parts : List Char → List Token → Prop where
  | done : Parts [] []
  | kept {c : Char} {rest : List Char} {parts : List Token} (plain : ¬Opens (c :: rest))
      (goesOn : Parts rest parts) : Parts (c :: rest) (.plain c :: parts)
  | reference {reference : Reference} {after : List Char} {parts : List Token}
      (wellFormed : reference.WellFormed) (goesOn : Parts after parts) :
      Parts (reference.text ++ after) (.reference reference :: parts)

namespace Token

/-- The text that a part was found as. -/
def text : Token → List Char
  | .plain c => [c]
  | .reference found => found.text

theorem scan_kept {c : Char} {rest : List Char} (plain : ¬Opens (c :: rest))
    (done : List Token) : scan done (c :: rest) = scan (.plain c :: done) rest := by
  rw [scan]
  split
  case isTrue dollar =>
    split
    case h_1 found after read =>
      obtain ⟨wellFormed, same⟩ := Reference.read?_eq_some_iff.mp read
      rw [dollar, same] at plain
      exact (plain (Reference.opens_append wellFormed after)).elim
    case h_2 => rfl
  case isFalse => rfl

theorem scan_reference {reference : Reference} (wellFormed : reference.WellFormed)
    (done : List Token) (after : List Char) :
    scan done (reference.text ++ after) = scan (.reference reference :: done) after := by
  obtain ⟨behind, same⟩ : ∃ behind, reference.text ++ after = '$' :: behind := ⟨_, rfl⟩
  have read := Reference.read?_eq_some_iff.mpr ⟨wellFormed, same.symm⟩
  rw [same, scan, if_pos rfl]
  split
  case h_1 found rest again =>
    rw [read] at again
    cases again
    rfl
  case h_2 nothing =>
    rw [read] at nothing
    contradiction

theorem scan_of_parts {text : List Char} {parts : List Token} (divided : Parts text parts)
    (done : List Token) : scan done text = done.reverse ++ parts := by
  induction divided generalizing done with
  | done => simp [scan]
  | kept plain goesOn induction =>
      rw [scan_kept plain, induction]
      simp
  | reference wellFormed goesOn induction =>
      rw [scan_reference wellFormed, induction]
      simp

end Token

theorem Reference.length_text_pos (reference : Reference) : 0 < reference.text.length :=
  Nat.succ_pos _

theorem exists_parts (text : List Char) : ∃ parts, Parts text parts := by
  -- What stands behind a reference is shorter, but not by one character.
  induction size : text.length using Nat.strongRecOn generalizing text with
  | ind n induction =>
      cases text with
      | nil => exact ⟨[], .done⟩
      | cons c rest =>
          by_cases opens : Opens (c :: rest)
          · obtain ⟨reference, wellFormed, after, same⟩ := opens
            have positive := reference.length_text_pos
            have shorter : after.length < n := by
              rw [← size, ← same, List.length_append]
              omega
            obtain ⟨parts, goesOn⟩ := induction _ shorter after rfl
            exact ⟨.reference reference :: parts, same ▸ .reference wellFormed goesOn⟩
          · obtain ⟨parts, goesOn⟩ := induction rest.length (by simp [← size]) rest rfl
            exact ⟨.plain c :: parts, .kept opens goesOn⟩

/-- There is one division of a text into parts from the left, and it is the one found. -/
theorem parts_iff {text : List Char} {parts : List Token} :
    Parts text parts ↔ Token.ofText text = parts := by
  have found {parts : List Token} (divided : Parts text parts) :
      Token.ofText text = parts := Token.scan_of_parts divided []
  constructor
  · exact found
  · rintro rfl
    obtain ⟨parts, divided⟩ := exists_parts text
    rwa [found divided]

theorem Parts.flatMap_text {text : List Char} {parts : List Token} (divided : Parts text parts) :
    parts.flatMap Token.text = text := by
  induction divided with
  | done => rfl
  | kept plain goesOn induction => simp [Token.text, induction]
  | reference wellFormed goesOn induction => simp [Token.text, induction]

/-! ## Values in place of references -/

variable {environment : Environment}

/-- The variable is not set and there is no default. -/
def Reference.isMissing (environment : Environment) (reference : Reference) : Bool :=
  (environment (String.ofList reference.name)).isNone && reference.default?.isNone

/-- What a part gives way to: a reference to the value of its variable if that is set, and
otherwise to its default. -/
def Token.rewritten (environment : Environment) : Token → List Char
  | .plain c => [c]
  | .reference found =>
    match environment (String.ofList found.name) with
    | some value => value.toList
    | none => found.default?.getD []

/-- The first reference that has no value. -/
def firstMissing? (environment : Environment) (parts : List Token) : Option Reference :=
  (parts.filterMap Token.reference?).find? (·.isMissing environment)

theorem firstMissing?_plain (environment : Environment) (c : Char) (rest : List Token) :
    firstMissing? environment (.plain c :: rest) = firstMissing? environment rest := rfl

theorem firstMissing?_reference (environment : Environment) (reference : Reference)
    (rest : List Token) :
    firstMissing? environment (.reference reference :: rest) =
      if reference.isMissing environment then some reference
      else firstMissing? environment rest := by
  have first : (Token.reference reference :: rest).filterMap Token.reference? =
      reference :: rest.filterMap Token.reference? := rfl
  rw [firstMissing?, first, List.find?_cons]
  cases reference.isMissing environment <;> rfl

theorem Reference.value?_eq (environment : Environment) (reference : Reference) :
    reference.value? environment =
      if reference.isMissing environment then none
      else some (Token.rewritten environment (.reference reference)) := by
  cases set : environment (String.ofList reference.name) with
  | some value => simp [value?, isMissing, Token.rewritten, set]
  | none => cases given : reference.default? <;>
      simp [value?, isMissing, Token.rewritten, set, given]

theorem substitute_eq (environment : Environment) (done : List Char) (parts : List Token) :
    substitute environment done parts =
      match firstMissing? environment parts with
      | some reference => .error reference
      | none => .ok (done.reverse ++ parts.flatMap (Token.rewritten environment)) := by
  induction parts generalizing done with
  | nil => simp [substitute, firstMissing?]
  | cons part rest induction =>
      cases part with
      | plain c =>
          rw [substitute, induction, firstMissing?_plain]
          simp [Token.rewritten]
      | reference reference =>
          rw [substitute, Reference.value?_eq, firstMissing?_reference]
          cases reference.isMissing environment with
          | true => rfl
          | false => simp [induction]

end TimedRelease.Config
