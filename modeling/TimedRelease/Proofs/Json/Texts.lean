import TimedRelease.Proofs.Json.Values

/-!
# Apostrophes in texts

The text of a value has an apostrophe only where one of its strings or names has one:
neither escapes nor numbers nor punctuation bring one in.
-/

namespace TimedRelease.Json

theorem apostrophe_not_mem_of_isHexDigit {text : List Char}
    (digits : ∀ c ∈ text, Text.isHexDigit c = true) : '\'' ∉ text := by
  intro member
  have digit := digits '\'' member
  contradiction

theorem apostrophe_not_mem_escaped {c : Char} (other : c ≠ '\'') : '\'' ∉ escaped c := by
  have digit {n : Nat} (small : n < 16) : Nat.digitChar n ≠ '\'' := by
    intro same
    have isDigit := Text.isHexDigit_digitChar small
    rw [same] at isDigit
    contradiction
  unfold escaped
  by_cases control : c.toNat < 0x20
  · have high := digit (by omega : c.toNat / 16 < 16)
    have low := digit (by omega : c.toNat % 16 < 16)
    split_ifs <;> simp [high.symm, low.symm]
  · split_ifs <;> simp [other.symm]

theorem apostrophe_not_mem_quoted {text : List Char} (free : '\'' ∉ text) :
    '\'' ∉ quoted text := by
  have inside : '\'' ∉ text.flatMap escaped := by
    intro member
    obtain ⟨c, isPart, written⟩ := List.mem_flatMap.mp member
    have other : c ≠ '\'' := by
      rintro rfl
      exact free isPart
    exact apostrophe_not_mem_escaped other written
  simp [quoted, inside]

theorem apostrophe_not_mem_renderInteger (n : Int) : '\'' ∉ renderInteger n := by
  have digits : '\'' ∉ Text.decimal n.natAbs := Text.not_mem_decimal rfl
  rw [renderInteger]
  split <;> simp [digits]

namespace Value

mutual

/-- The texts that a value holds: its strings, and the names of its members. -/
def texts : Value → List String
  | .string text => [text]
  | .array items => textsOfItems items
  | .object members => textsOfMembers members
  | _ => []

/-- The texts that items hold. -/
def textsOfItems : List Value → List String
  | [] => []
  | item :: rest => item.texts ++ textsOfItems rest

/-- The texts that members hold. -/
def textsOfMembers : List (String × Value) → List String
  | [] => []
  | (name, value) :: rest => name :: (value.texts ++ textsOfMembers rest)

end

/-- None of these texts has an apostrophe. -/
def FreeOfApostrophes (texts : List String) : Prop :=
  ∀ text ∈ texts, '\'' ∉ text.toList

theorem freeOfApostrophes_append {left right : List String} :
    FreeOfApostrophes (left ++ right) ↔ FreeOfApostrophes left ∧ FreeOfApostrophes right :=
  List.forall_mem_append

theorem freeOfApostrophes_cons {text : String} {rest : List String} :
    FreeOfApostrophes (text :: rest) ↔ '\'' ∉ text.toList ∧ FreeOfApostrophes rest :=
  List.forall_mem_cons

mutual

theorem apostrophe_not_mem_render {value : Value} (exact : value.isExact = true)
    (free : FreeOfApostrophes value.texts) : '\'' ∉ value.render := by
  cases value with
  | null => simp [render]
  | bool value => cases value <;> simp [render]
  | number number =>
      cases number with
      | integer n => exact apostrophe_not_mem_renderInteger n
      | double x => contradiction
  | string text => exact apostrophe_not_mem_quoted (free text (by simp [texts]))
  | array items =>
      -- Further items are written like all of them, with one comma more.
      have inside := apostrophe_not_mem_renderMoreItems exact free
      cases items with
      | nil => simp [render, renderItems]
      | cons item items => simpa [render, renderItems, renderMoreItems] using inside
  | object members =>
      have inside := apostrophe_not_mem_renderMoreMembers exact free
      cases members with
      | nil => simp [render, renderMembers]
      | cons member members => simpa [render, renderMembers, renderMoreMembers] using inside
  | unusable => contradiction

theorem apostrophe_not_mem_renderMoreItems {items : List Value}
    (exact : isExactItems items = true) (free : FreeOfApostrophes (textsOfItems items)) :
    '\'' ∉ renderMoreItems items := by
  cases items with
  | nil => simp [renderMoreItems]
  | cons item items =>
      simp only [isExactItems, Bool.and_eq_true] at exact
      obtain ⟨freeFirst, freeRest⟩ := freeOfApostrophes_append.mp free
      have first := apostrophe_not_mem_render exact.1 freeFirst
      have rest := apostrophe_not_mem_renderMoreItems exact.2 freeRest
      simp [renderMoreItems, first, rest]

theorem apostrophe_not_mem_renderMoreMembers {members : List (String × Value)}
    (exact : isExactMembers members = true)
    (free : FreeOfApostrophes (textsOfMembers members)) :
    '\'' ∉ renderMoreMembers members := by
  cases members with
  | nil => simp [renderMoreMembers]
  | cons member members =>
      obtain ⟨name, value⟩ := member
      simp only [isExactMembers, Bool.and_eq_true] at exact
      obtain ⟨freeName, freeOthers⟩ := freeOfApostrophes_cons.mp free
      obtain ⟨freeFirst, freeRest⟩ := freeOfApostrophes_append.mp freeOthers
      have named := apostrophe_not_mem_quoted freeName
      have first := apostrophe_not_mem_render exact.1 freeFirst
      have rest := apostrophe_not_mem_renderMoreMembers exact.2 freeRest
      simp [renderMoreMembers, named, first, rest]

end

end Value

end TimedRelease.Json
