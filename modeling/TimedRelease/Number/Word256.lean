import TimedRelease.Text.Numeral

/-!
# 256-bit words

Amounts, gas limits and gas prices are natural numbers below `2 ^ 256`.  A sum
or product that does not fit is either refused or held at the largest word.
-/

namespace TimedRelease

/-- How many words there are. -/
def Word256.size : Nat := Nat.pow 2 256

/-- A natural number of at most 256 bits. -/
structure Word256 where
  toNat : Nat
  toNat_lt : toNat < Word256.size
  deriving DecidableEq

namespace Word256

instance : Zero Word256 := ⟨⟨0, by decide⟩⟩

instance : Inhabited Word256 := ⟨0⟩

instance : Repr Word256 := ⟨fun word precedence => reprPrec word.toNat precedence⟩

instance : LT Word256 := ⟨fun left right => left.toNat < right.toNat⟩

instance (left right : Word256) : Decidable (left < right) :=
  inferInstanceAs (Decidable (left.toNat < right.toNat))

@[ext] theorem ext {left right : Word256} (same : left.toNat = right.toNat) : left = right := by
  cases left
  cases right
  simp_all

@[simp] theorem toNat_zero : (0 : Word256).toNat = 0 := rfl

theorem lt_iff {left right : Word256} : left < right ↔ left.toNat < right.toNat := Iff.rfl

/-- The largest word. -/
def largest : Word256 := ⟨size - 1, by decide⟩

/-- The word of this value, when there is one. -/
def ofNat? (n : Nat) : Option Word256 :=
  if fits : n < size then some ⟨n, fits⟩ else none

/-- The word of this value, or the largest word when there is none. -/
def saturating (n : Nat) : Word256 :=
  if fits : n < size then ⟨n, fits⟩ else largest

theorem ofNat?_eq_some_iff {n : Nat} {word : Word256} :
    ofNat? n = some word ↔ word.toNat = n := by
  unfold ofNat?
  split
  · simp only [Option.some.injEq]
    exact ⟨fun same => by rw [← same], fun same => Word256.ext same.symm⟩
  · rename_i overflow
    simp only [false_iff, reduceCtorEq]
    intro same
    exact overflow (same ▸ word.toNat_lt)

@[simp] theorem ofNat?_toNat (word : Word256) : ofNat? word.toNat = some word :=
  ofNat?_eq_some_iff.2 rfl

theorem toNat_saturating (n : Nat) : (saturating n).toNat = min n (size - 1) := by
  unfold saturating
  split
  · simp only
    omega
  · simp only [largest]
    omega

/-- The word written in base ten. -/
def decimal (word : Word256) : String :=
  Text.decimalText word.toNat

/-- The word as a hexadecimal quantity: `0x` and no leading zeros. -/
def hex (word : Word256) : String :=
  Text.hexText word.toNat

end Word256

end TimedRelease
