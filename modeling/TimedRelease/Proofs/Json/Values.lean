import TimedRelease.Proofs.Json.Strings

/-!
# Values read back

A value without doubles is read back from its text, whatever stands behind it, unless
that would go on with a number.  The induction is on the value, through items and
members; every bracket, comma and colon takes a reader one call further down, so that
twice the length of the text is enough for all of them.
-/

namespace TimedRelease.Json

/-- Nothing that a number could go on with. -/
def EndsNumber (rest : List Char) : Prop :=
  ∀ c ∈ rest.head?, Text.isDecimalDigit c = false ∧ c ≠ '.' ∧ c ≠ 'e' ∧ c ≠ 'E'

theorem endsNumber_nil : EndsNumber [] := by
  simp [EndsNumber]

/-- What follows an item or a member ends a number. -/
theorem endsNumber_cons {c : Char} (closes : c ∈ [',', ']', '}']) (rest : List Char) :
    EndsNumber (c :: rest) := by
  simp only [List.mem_cons, List.not_mem_nil, or_false] at closes
  rcases closes with rfl | rfl | rfl <;> simp [EndsNumber, Text.isDecimalDigit]

/-! ## Numbers -/

/-- An integer of 64 bits. -/
def Number.isInteger : Number → Bool
  | .integer n => -0x8000000000000000 ≤ n && n < 0x10000000000000000
  | .double _ => false

section

variable {rest : List Char}

theorem spanDigits_append {digits : List Char}
    (all : ∀ c ∈ digits, Text.isDecimalDigit c = true) (ends : EndsNumber rest) :
    spanDigits (digits ++ rest) = (digits, rest) := by
  have stops : rest.takeWhile Text.isDecimalDigit = [] ∧
      rest.dropWhile Text.isDecimalDigit = rest := by
    cases rest with
    | nil => simp
    | cons c rest =>
        have notDigit := (ends c (by simp)).1
        simp [notDigit]
  rw [spanDigits, List.takeWhile_append_of_pos all, List.dropWhile_append_of_pos all,
    stops.1, stops.2, List.append_nil]

theorem scanWhole_decimal (n : Nat) (ends : EndsNumber rest) :
    scanWhole (Text.decimal n ++ rest) = some (Text.decimal n, rest) := by
  have all : ∀ c ∈ Text.decimal n, Text.isDecimalDigit c = true := by
    intro c member
    exact Text.isDecimalDigit_of_mem_decimal member
  have nonempty := Text.decimal_ne_nil n
  have noZero := Text.decimal_ne_zero_cons n
  rw [scanWhole, spanDigits_append all ends]
  split
  case h_1 => simp_all
  case h_2 => simp_all
  case h_3 => rfl

theorem scanFraction_of_ends (ends : EndsNumber rest) :
    scanFraction rest = some (none, rest) := by
  cases rest with
  | nil => rfl
  | cons c rest =>
      have notPoint := (ends c (by simp)).2.1
      simp [scanFraction, notPoint]

theorem scanPower_of_ends (ends : EndsNumber rest) :
    scanPower rest = some (none, rest) := by
  cases rest with
  | nil => rfl
  | cons c rest =>
      obtain ⟨_, _, notSmall, notCapital⟩ := ends c (by simp)
      simp [scanPower, notSmall, notCapital]

theorem scanMagnitude_decimal (negative : Bool) (n : Nat) (ends : EndsNumber rest) :
    scanMagnitude negative (Text.decimal n ++ rest) =
      some (⟨negative, Text.decimal n, none, none⟩, rest) := by
  simp only [scanMagnitude, scanWhole_decimal n ends, scanFraction_of_ends ends,
    scanPower_of_ends ends]

/-- A number starts with a digit or a sign. -/
def startsNumber (c : Char) : Bool :=
  Text.isDecimalDigit c || c = '-'

theorem ne_of_startsNumber {c other : Char} (starts : startsNumber c = true)
    (otherwise : startsNumber other = false) : c ≠ other := by
  rintro rfl
  simp [starts] at otherwise

theorem exists_cons_renderInteger (n : Int) :
    ∃ c more, renderInteger n = c :: more ∧ startsNumber c = true := by
  rw [renderInteger]
  split
  · exact ⟨'-', _, rfl, by decide⟩
  · cases written : Text.decimal n.natAbs with
    | nil => exact (Text.decimal_ne_nil _ written).elim
    | cons c more =>
        have digit : Text.isDecimalDigit c = true :=
          Text.isDecimalDigit_of_mem_decimal (n := n.natAbs) (by simp [written])
        exact ⟨c, more, rfl, by simp [startsNumber, digit]⟩

theorem isSpace_of_startsNumber {c : Char} (starts : startsNumber c = true) :
    isSpace c = false := by
  have apart {other : Char} (otherwise : startsNumber other = false) : c ≠ other :=
    ne_of_startsNumber starts otherwise
  have noBlank : c ≠ ' ' := apart (by decide)
  have noTab : c ≠ '\t' := apart (by decide)
  have noLine : c ≠ '\n' := apart (by decide)
  have noReturn : c ≠ '\r' := apart (by decide)
  simp [isSpace, noBlank, noTab, noLine, noReturn]

theorem scanLiteral_of_unsigned {c : Char} (unsigned : c ≠ '-') (more : List Char) :
    scanLiteral (c :: more) = scanMagnitude false (c :: more) := by
  simp [scanLiteral, unsigned]

theorem scanLiteral_renderInteger (n : Int) (ends : EndsNumber rest) :
    scanLiteral (renderInteger n ++ rest) =
      some (⟨decide (n < 0), Text.decimal n.natAbs, none, none⟩, rest) := by
  by_cases negative : n < 0
  · have scanned := scanMagnitude_decimal true n.natAbs ends
    simpa [renderInteger, negative, scanLiteral] using scanned
  · have scanned := scanMagnitude_decimal false n.natAbs ends
    obtain ⟨c, more, written, starts⟩ := exists_cons_renderInteger n
    have unsigned : c ≠ '-' := by
      rintro rfl
      have digits : Text.decimal n.natAbs = '-' :: more := by
        simpa [renderInteger, negative] using written
      have digit : Text.isDecimalDigit '-' = true :=
        Text.isDecimalDigit_of_mem_decimal (n := n.natAbs) (by simp [digits])
      contradiction
    rw [written, List.cons_append, scanLiteral_of_unsigned unsigned, ← List.cons_append,
      ← written]
    simpa [renderInteger, negative] using scanned

end

theorem number?_integer {n : Int} (fits : (Number.integer n).isInteger = true) :
    (Literal.mk (decide (n < 0)) (Text.decimal n.natAbs) none none).number? =
      some (.integer n) := by
  simp only [Number.isInteger, Bool.and_eq_true, decide_eq_true_eq] at fits
  by_cases negative : n < 0
  · have nonzero : n.natAbs ≠ 0 := by omega
    have small : n.natAbs ≤ Nat.pow 2 63 := by
      simp only [Nat.pow_eq]
      omega
    have same : (-(n.natAbs : Int)) = n := by omega
    simp only [Literal.number?, negative, small, same, Text.valueOf_decimal]
    simp [nonzero]
  · have small : n.natAbs < UInt64.size := by
      simp only [UInt64.size]
      omega
    have same : (n.natAbs : Int) = n := by omega
    simp [Literal.number?, negative, small, same]

/-! ## Values -/

namespace Value

mutual

/-- Every number is an integer of 64 bits, and every part has a value. -/
def isExact : Value → Bool
  | .number n => n.isInteger
  | .array items => isExactItems items
  | .object members => isExactMembers members
  | .unusable => false
  | _ => true

/-- The items are exact. -/
def isExactItems : List Value → Bool
  | [] => true
  | item :: rest => item.isExact && isExactItems rest

/-- The members are exact. -/
def isExactMembers : List (String × Value) → Bool
  | [] => true
  | (_, value) :: rest => value.isExact && isExactMembers rest

end

end Value

theorem skipSpace_cons {c : Char} (visible : isSpace c = false) (rest : List Char) :
    skipSpace (c :: rest) = c :: rest := by
  simp [skipSpace, visible]

theorem readValue_number {n : Int} (fits : (Number.integer n).isInteger = true)
    {rest : List Char} (ends : EndsNumber rest) (fuel : Nat) :
    readValue (fuel + 1) (renderInteger n ++ rest) = some (.number (.integer n), rest) := by
  have scanned := scanLiteral_renderInteger n ends
  obtain ⟨c, more, written, starts⟩ := exists_cons_renderInteger n
  have apart {other : Char} (otherwise : startsNumber other = false) : c ≠ other :=
    ne_of_startsNumber starts otherwise
  have noBracket : c ≠ '[' := apart (by decide)
  have noBrace : c ≠ '{' := apart (by decide)
  have noQuote : c ≠ '"' := apart (by decide)
  have noNull : c ≠ 'n' := apart (by decide)
  have noTrue : c ≠ 't' := apart (by decide)
  have noFalse : c ≠ 'f' := apart (by decide)
  rw [written, List.cons_append] at scanned ⊢
  rw [readValue, skipSpace_cons (isSpace_of_startsNumber starts)]
  split <;> simp_all [number?_integer fits]

/-- The text of a value starts with a character that closes nothing. -/
theorem exists_cons_render {value : Value} (exact : value.isExact = true) :
    ∃ c more, value.render = c :: more ∧ isSpace c = false ∧ c ≠ ']' := by
  cases value with
  | null => exact ⟨'n', _, rfl, by decide, by decide⟩
  | bool value => cases value <;> exact ⟨_, _, rfl, by decide, by decide⟩
  | number number =>
      cases number with
      | integer n =>
          obtain ⟨c, more, written, starts⟩ := exists_cons_renderInteger n
          exact ⟨c, more, written, isSpace_of_startsNumber starts,
            ne_of_startsNumber starts (by decide)⟩
      | double x => contradiction
  | string text => exact ⟨'"', _, rfl, by decide, by decide⟩
  | array items => exact ⟨'[', _, rfl, by decide, by decide⟩
  | object members => exact ⟨'{', _, rfl, by decide, by decide⟩
  | unusable => contradiction

theorem readValue_array {inside : List Char} {items : List Value} {after : List Char}
    {fuel : Nat} {c : Char} {more : List Char} (starts : inside = c :: more)
    (visible : isSpace c = false) (notClosed : c ≠ ']')
    (read : readItems fuel inside = some (items, after)) :
    readValue (fuel + 1) ('[' :: inside) = some (.array items, after) := by
  have bracket : isSpace '[' = false := by decide
  subst starts
  simp [readValue, skipSpace_cons visible, skipSpace_cons bracket, notClosed, read]

theorem readValue_object {more : List Char} {members : List (String × Value)}
    {after : List Char} {fuel : Nat}
    (read : readMembers fuel ('"' :: more) = some (some members, after)) :
    readValue (fuel + 1) ('{' :: '"' :: more) = some (.object members, after) := by
  have brace : isSpace '{' = false := by decide
  have quote : isSpace '"' = false := by decide
  simp [readValue, skipSpace_cons brace, skipSpace_cons quote, read, objectOf]

theorem readItems_last {text : List Char} {item : Value} {after : List Char} {fuel : Nat}
    (read : readValue fuel text = some (item, ']' :: after)) :
    readItems (fuel + 1) text = some ([item], after) := by
  have bracket : isSpace ']' = false := by decide
  simp [readItems, read, skipSpace_cons bracket]

theorem readItems_more {text : List Char} {item : Value} {items : List Value}
    {rest after : List Char} {fuel : Nat}
    (read : readValue fuel text = some (item, ',' :: rest))
    (goesOn : readItems fuel rest = some (items, after)) :
    readItems (fuel + 1) text = some (item :: items, after) := by
  have comma : isSpace ',' = false := by decide
  simp [readItems, read, skipSpace_cons comma, goesOn]

theorem readMembers_last (name : String) {text : List Char} {value : Value}
    {after : List Char} {fuel : Nat}
    (read : readValue fuel text = some (value, '}' :: after)) :
    readMembers (fuel + 1) (quoted name.toList ++ ':' :: text) =
      some (some [(name, value)], after) := by
  have quote : isSpace '"' = false := by decide
  have colon : isSpace ':' = false := by decide
  have brace : isSpace '}' = false := by decide
  have named := scanText_escaped name (':' :: text)
  simp [readMembers, quoted, skipSpace_cons quote, named, skipSpace_cons colon, read,
    skipSpace_cons brace, consMember]

theorem readMembers_more (name : String) {text : List Char} {value : Value}
    {members : List (String × Value)} {rest after : List Char} {fuel : Nat}
    (read : readValue fuel text = some (value, ',' :: rest))
    (goesOn : readMembers fuel rest = some (some members, after)) :
    readMembers (fuel + 1) (quoted name.toList ++ ':' :: text) =
      some (some ((name, value) :: members), after) := by
  have quote : isSpace '"' = false := by decide
  have colon : isSpace ':' = false := by decide
  have comma : isSpace ',' = false := by decide
  have named := scanText_escaped name (':' :: text)
  simp [readMembers, quoted, skipSpace_cons quote, named, skipSpace_cons colon, read,
    skipSpace_cons comma, goesOn, consMember]

mutual

theorem readValue_render {value : Value} (exact : value.isExact = true) {rest : List Char}
    (ends : EndsNumber rest) {fuel : Nat} (enough : 2 * value.render.length ≤ fuel) :
    readValue fuel (value.render ++ rest) = some (value, rest) := by
  obtain ⟨c, more, starts, visible, _⟩ := exists_cons_render exact
  have positive : fuel ≠ 0 := by
    rw [starts, List.length_cons] at enough
    omega
  obtain ⟨fuel, rfl⟩ := Nat.exists_eq_add_one_of_ne_zero positive
  cases value with
  | null => simp [readValue, Value.render, skipSpace, isSpace, expect?]
  | bool value =>
      cases value <;> simp [readValue, Value.render, skipSpace, isSpace, expect?]
  | number number =>
      cases number with
      | integer n => exact readValue_number exact ends fuel
      | double x => contradiction
  | string text =>
      have scanned := scanText_escaped text rest
      simp [readValue, Value.render, quoted, skipSpace, isSpace, scanned]
  | array items =>
      cases items with
      | nil => simp [readValue, Value.render, Value.renderItems, skipSpace, isSpace]
      | cons item items =>
          have first : item.isExact = true := by
            simp only [Value.isExact, Value.isExactItems, Bool.and_eq_true] at exact
            exact exact.1
          obtain ⟨c, more, starts, visible, notClosed⟩ := exists_cons_render first
          have shorter : 2 * (Value.renderItems (item :: items)).length + 1 ≤ fuel := by
            simp only [Value.render, List.length_cons, List.length_append] at enough
            omega
          have read := readItems_render exact (by simp) rest shorter
          have opened := readValue_array (by simp [Value.renderItems, starts]; rfl) visible
            notClosed read
          simpa [Value.render] using opened
  | object members =>
      cases members with
      | nil => simp [readValue, Value.render, Value.renderMembers, skipSpace, isSpace]
      | cons member members =>
          obtain ⟨name, value⟩ := member
          have shorter :
              2 * (Value.renderMembers ((name, value) :: members)).length + 1 ≤ fuel := by
            simp only [Value.render, List.length_cons, List.length_append] at enough
            omega
          have read := readMembers_render exact (by simp) rest shorter
          have opened := readValue_object read
          simpa [Value.render, Value.renderMembers, quoted] using opened
  | unusable => contradiction

theorem readItems_render {items : List Value} (exact : Value.isExactItems items = true)
    (nonempty : items ≠ []) (rest : List Char) {fuel : Nat}
    (enough : 2 * (Value.renderItems items).length + 1 ≤ fuel) :
    readItems fuel (Value.renderItems items ++ ']' :: rest) = some (items, rest) := by
  obtain ⟨fuel, rfl⟩ := Nat.exists_eq_add_one_of_ne_zero (by omega : fuel ≠ 0)
  cases items with
  | nil => contradiction
  | cons item items =>
      simp only [Value.isExactItems, Bool.and_eq_true] at exact
      have short : 2 * item.render.length ≤ fuel := by
        simp only [Value.renderItems, List.length_append] at enough
        omega
      cases items with
      | nil =>
          have ends : EndsNumber (']' :: rest) := endsNumber_cons (by decide) rest
          have read := readValue_render exact.1 ends short
          have last := readItems_last read
          simpa [Value.renderItems, Value.renderMoreItems] using last
      | cons next items =>
          have shorter : 2 * (Value.renderItems (next :: items)).length + 1 ≤ fuel := by
            simp only [Value.renderItems, Value.renderMoreItems, List.length_append,
              List.length_cons] at enough ⊢
            omega
          have goesOn := readItems_render exact.2 (by simp) rest shorter
          have ends : EndsNumber (',' :: (Value.renderItems (next :: items) ++ ']' :: rest)) :=
            endsNumber_cons (by decide) _
          have read := readValue_render exact.1 ends short
          have whole := readItems_more read goesOn
          simpa [Value.renderItems, Value.renderMoreItems] using whole

theorem readMembers_render {members : List (String × Value)}
    (exact : Value.isExactMembers members = true) (nonempty : members ≠ [])
    (rest : List Char) {fuel : Nat}
    (enough : 2 * (Value.renderMembers members).length + 1 ≤ fuel) :
    readMembers fuel (Value.renderMembers members ++ '}' :: rest) =
      some (some members, rest) := by
  obtain ⟨fuel, rfl⟩ := Nat.exists_eq_add_one_of_ne_zero (by omega : fuel ≠ 0)
  cases members with
  | nil => contradiction
  | cons member members =>
      obtain ⟨name, value⟩ := member
      simp only [Value.isExactMembers, Bool.and_eq_true] at exact
      have short : 2 * value.render.length ≤ fuel := by
        simp only [Value.renderMembers, List.length_append, List.length_cons] at enough
        omega
      cases members with
      | nil =>
          have ends : EndsNumber ('}' :: rest) := endsNumber_cons (by decide) rest
          have read := readValue_render exact.1 ends short
          have last := readMembers_last name read
          simpa [Value.renderMembers, Value.renderMoreMembers] using last
      | cons next members =>
          have shorter : 2 * (Value.renderMembers (next :: members)).length + 1 ≤ fuel := by
            simp only [Value.renderMembers, Value.renderMoreMembers, List.length_append,
              List.length_cons] at enough ⊢
            omega
          have goesOn := readMembers_render exact.2 (by simp) rest shorter
          have ends :
              EndsNumber (',' :: (Value.renderMembers (next :: members) ++ '}' :: rest)) :=
            endsNumber_cons (by decide) _
          have read := readValue_render exact.1 ends short
          have whole := readMembers_more name read goesOn
          simpa [Value.renderMembers, Value.renderMoreMembers] using whole

end

/-- Twice the length of a text is enough for the value it is the text of. -/
theorem readLeading_render {value : Value} (exact : value.isExact = true) :
    readLeading value.render = some (value, []) := by
  have enough : 2 * value.render.length ≤ 2 * value.render.length + 2 := by omega
  have read := readValue_render exact endsNumber_nil enough
  rwa [List.append_nil] at read

end TimedRelease.Json
