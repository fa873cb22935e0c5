import TimedRelease.Text.CaseTable

/-!
# Lower-casing

The full lower-case form of a text.  It is taken character by character, except
that a capital sigma at the end of a word becomes the final small sigma: one
that follows a letter and precedes none, marks between them being passed over.
-/

namespace TimedRelease.Text

/-- The run holds this code point. -/
def CodeRange.holds (range : CodeRange) (code : Nat) : Bool :=
  range.first ≤ code && code ≤ range.last

/-- The run holds this capital. -/
def CapitalRun.holds (run : CapitalRun) (code : Nat) : Bool :=
  run.first ≤ code && code ≤ run.last && (code - run.first) % run.stride == 0

/-- The letter carries case. -/
def isCased (c : Char) : Bool :=
  CaseTable.cased.any (·.holds c.toNat)

/-- A search for a neighbouring letter passes over the character. -/
def isCaseIgnorable (c : Char) : Bool :=
  CaseTable.ignorable.any (·.holds c.toNat)

/-- The lower-case form of a single character, apart from its surroundings. -/
def lowerChar (c : Char) : List Char :=
  if c.toNat < 0x80 then [c.toLower]
  else if c.toNat = 0x130 then ['i', Char.ofNat 0x307]
  else
    match CaseTable.capitals.find? (·.holds c.toNat) with
    | some run => [Char.ofNat ((c.toNat : Int) + run.offset).toNat]
    | none => [c]

/-- The nearest character that is not passed over carries case. -/
def meetsLetter (text : List Char) : Bool :=
  match text.dropWhile isCaseIgnorable with
  | [] => false
  | c :: _ => isCased c

/-- The capital sigma. -/
def capitalSigma : Char := Char.ofNat 0x3A3

/-- The small sigma used at the end of a word. -/
def finalSigma : Char := Char.ofNat 0x3C2

/-- Lower-cases what is left of a text; `before` is what has been passed, the
nearest character first. -/
def lowerAfter (before : List Char) : List Char → List Char
  | [] => []
  | c :: rest =>
    let here :=
      if c = capitalSigma ∧ meetsLetter before ∧ ¬ meetsLetter rest then [finalSigma]
      else lowerChar c
    here ++ lowerAfter (c :: before) rest

/-- The lower-case form of a text. -/
def lowerCase (text : List Char) : List Char :=
  lowerAfter [] text

/-- The text holds only characters of the seven-bit set. -/
def isAscii (text : List Char) : Bool :=
  text.all (·.toNat < 0x80)

theorem lowerChar_ascii {c : Char} (ascii : c.toNat < 0x80) : lowerChar c = [c.toLower] := by
  simp [lowerChar, ascii]

theorem lowerAfter_ascii (before text : List Char) (ascii : isAscii text = true) :
    lowerAfter before text = text.map Char.toLower := by
  induction text generalizing before with
  | nil => rfl
  | cons c rest induction =>
    simp only [isAscii, List.all_cons, Bool.and_eq_true, decide_eq_true_eq] at ascii
    have notSigma : c ≠ capitalSigma := by
      intro same
      have code : c.toNat = 0x3A3 := by rw [same]; rfl
      omega
    simp [lowerAfter, notSigma, lowerChar_ascii ascii.1, induction (c :: before) ascii.2]

/-- On seven-bit text lower-casing is taken character by character. -/
theorem lowerCase_ascii (text : List Char) (ascii : isAscii text = true) :
    lowerCase text = text.map Char.toLower :=
  lowerAfter_ascii [] text ascii

end TimedRelease.Text
