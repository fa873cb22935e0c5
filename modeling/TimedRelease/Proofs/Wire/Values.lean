import TimedRelease.Proofs.Json.Values
import TimedRelease.Wire.Record

/-!
# Values kept as they are

A value that no record is read from is kept in its sorted form.  A value whose names
are in order already is its own sorted form, so that it is kept as it stands.
-/

namespace TimedRelease

namespace Json.Value

mutual

/-- The names of every object are in order and none is repeated. -/
def isInOrder : Value → Bool
  | .array items => isInOrderItems items
  | .object members =>
    decide ((members.map Prod.fst).Pairwise (· < ·)) && isInOrderMembers members
  | _ => true

/-- The items are in order. -/
def isInOrderItems : List Value → Bool
  | [] => true
  | item :: rest => item.isInOrder && isInOrderItems rest

/-- The values of the members are in order. -/
def isInOrderMembers : List (String × Value) → Bool
  | [] => true
  | (_, value) :: rest => value.isInOrder && isInOrderMembers rest

end

theorem insertMember_of_after {name : String} {done : List (String × Value)}
    (after : ∀ member ∈ done, member.1 < name) (value : Value) :
    insertMember name value done = done ++ [(name, value)] := by
  induction done with
  | nil => rfl
  | cons member done induction =>
      obtain ⟨other, kept⟩ := member
      have earlier : other < name := after (other, kept) (by simp)
      have notBefore : ¬name < other := String.lt_asymm earlier
      have different : name ≠ other := by
        rintro rfl
        exact notBefore earlier
      have inserted := induction fun member inside => after member (by simp [inside])
      simp [insertMember, notBefore, different, inserted]

mutual

theorem sorted_of_isInOrder {value : Value} (ordered : value.isInOrder = true) :
    value.sorted = value := by
  cases value with
  | array items =>
      have same : sortedItems items = items := sortedItems_of_isInOrder ordered
      simp [sorted, same]
  | object members =>
      simp only [isInOrder, Bool.and_eq_true, decide_eq_true_eq] at ordered
      have same := sortedMembers_of_isInOrder ordered.2 [] ordered.1
      simpa [sorted] using same
  | _ => rfl

theorem sortedItems_of_isInOrder {items : List Value}
    (ordered : isInOrderItems items = true) : sortedItems items = items := by
  cases items with
  | nil => rfl
  | cons item items =>
      simp only [isInOrderItems, Bool.and_eq_true] at ordered
      rw [sortedItems, sorted_of_isInOrder ordered.1, sortedItems_of_isInOrder ordered.2]

/-- Members that come after those already sorted are put behind them one by one. -/
theorem sortedMembers_of_isInOrder {members : List (String × Value)}
    (ordered : isInOrderMembers members = true) (done : List (String × Value))
    (names : ((done ++ members).map Prod.fst).Pairwise (· < ·)) :
    sortedMembers members done = done ++ members := by
  cases members with
  | nil => simp [sortedMembers]
  | cons member members =>
      obtain ⟨name, value⟩ := member
      simp only [isInOrderMembers, Bool.and_eq_true] at ordered
      have after : ∀ member ∈ done, member.1 < name := by
        intro member inside
        rw [List.map_append, List.pairwise_append] at names
        exact names.2.2 member.1 (List.mem_map_of_mem inside) name (by simp)
      rw [sortedMembers, sorted_of_isInOrder ordered.1, insertMember_of_after after,
        sortedMembers_of_isInOrder ordered.2 _ (by simpa using names)]
      simp

end

mutual

theorem usable_of_isExact {value : Value} (exact : value.isExact = true) :
    value.usable = true := by
  cases value with
  | array items =>
      exact usableItems_of_isExact exact
  | object members =>
      exact usableMembers_of_isExact exact
  | unusable => contradiction
  | _ => rfl

theorem usableItems_of_isExact {items : List Value}
    (exact : isExactItems items = true) : usableItems items = true := by
  cases items with
  | nil => rfl
  | cons item items =>
      simp only [isExactItems, Bool.and_eq_true] at exact
      rw [usableItems, usable_of_isExact exact.1, usableItems_of_isExact exact.2]
      rfl

theorem usableMembers_of_isExact {members : List (String × Value)}
    (exact : isExactMembers members = true) : usableMembers members = true := by
  cases members with
  | nil => rfl
  | cons member members =>
      obtain ⟨name, value⟩ := member
      simp only [isExactMembers, Bool.and_eq_true] at exact
      rw [usableMembers, usable_of_isExact exact.1, usableMembers_of_isExact exact.2]
      rfl

end

end Json.Value

namespace Wire

/-- A value that is kept as it stands inside so many arrays and objects: without
doubles, with its names in order, and not nested too deeply. -/
structure Kept (level : Nat) (value : Json.Value) : Prop where
  exact : value.isExact = true
  ordered : value.isInOrder = true
  shallow : value.depth + level ≤ nestingLimit

theorem Kept.anyValue {level : Nat} {value : Json.Value} (kept : Kept level value) :
    anyValue level value = .ok value := by
  have usable := Json.Value.usable_of_isExact kept.exact
  have same := Json.Value.sorted_of_isInOrder kept.ordered
  simp [Wire.anyValue, usable, kept.shallow, same]

end Wire

end TimedRelease
