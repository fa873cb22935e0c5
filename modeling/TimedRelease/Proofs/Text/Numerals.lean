import TimedRelease.Text.Blank
import TimedRelease.Text.Numeral

/-!
# Numerals read back

A number written in base ten or sixteen consists of digits, has no zero in front
unless it is zero, and is read back as itself.  Reading below a bound gives the
number that the digits denote, exactly when it lies below the bound.
-/

namespace TimedRelease.Text

theorem isHexDigit_of_isDecimalDigit {c : Char} (digit : isDecimalDigit c = true) :
    isHexDigit c = true := by
  simp only [isDecimalDigit] at digit
  simp [isHexDigit, digit]

theorem toNat_of_isHexDigit {c : Char} (digit : isHexDigit c = true) :
    48 ≤ c.toNat ∧ c.toNat ≤ 57 ∨ 65 ≤ c.toNat ∧ c.toNat ≤ 70 ∨
      97 ≤ c.toNat ∧ c.toNat ≤ 102 := by
  simp only [isHexDigit, Char.isDigit, ge_iff_le, Char.le_def, UInt32.le_iff_toNat_le,
    Char.reduceVal, UInt32.reduceToNat, Bool.or_eq_true, Bool.and_eq_true,
    decide_eq_true_eq] at digit
  rw [Char.toNat]
  omega

theorem isBlank_of_isHexDigit {c : Char} (digit : isHexDigit c = true) :
    isBlank c = false := by
  have bounds := toNat_of_isHexDigit digit
  simp only [isBlank, Bool.or_eq_false_iff, Bool.and_eq_false_iff,
    decide_eq_false_iff_not, beq_eq_false_iff_ne]
  omega

/-! ## Digits written -/

theorem digitValue_digitChar {n : Nat} (small : n < 16) :
    digitValue (Nat.digitChar n) = n := by
  have all : ∀ n < 16, digitValue (Nat.digitChar n) = n := by decide
  exact all n small

theorem isHexDigit_digitChar {n : Nat} (small : n < 16) :
    isHexDigit (Nat.digitChar n) = true := by
  have all : ∀ n < 16, isHexDigit (Nat.digitChar n) = true := by decide
  exact all n small

@[simp] theorem valueOf_nil (base : Nat) : valueOf base [] = 0 := rfl

@[simp] theorem valueOf_append_singleton (base : Nat) (digits : List Char) (c : Char) :
    valueOf base (digits ++ [c]) = valueOf base digits * base + digitValue c := by
  simp [valueOf]

variable {base : Nat}

theorem valueOf_toDigits (two : 1 < base) (sixteen : base ≤ 16) (n : Nat) :
    valueOf base (Nat.toDigits base n) = n := by
  induction n using Nat.strongRecOn with
  | ind n induction =>
      rw [Nat.toDigits_eq_if two]
      split
      · have single := valueOf_append_singleton base [] (Nat.digitChar n)
        rw [List.nil_append] at single
        rw [single, valueOf_nil, digitValue_digitChar (by omega)]
        omega
      · have smaller : n / base < n := Nat.div_lt_self (by omega) two
        have last : n % base < 16 := by
          have := Nat.mod_lt n (by omega : 0 < base)
          omega
        rw [valueOf_append_singleton, induction _ smaller, digitValue_digitChar last,
          Nat.mul_comm]
        exact Nat.div_add_mod n base

theorem exists_digitChar_of_mem_toDigits (two : 1 < base) {n : Nat} {c : Char}
    (member : c ∈ Nat.toDigits base n) : ∃ digit < base, c = Nat.digitChar digit := by
  induction n using Nat.strongRecOn with
  | ind n induction =>
      rw [Nat.toDigits_eq_if two] at member
      split at member
      · exact ⟨n, by assumption, List.mem_singleton.mp member⟩
      · rcases List.mem_append.mp member with earlier | here
        · exact induction _ (Nat.div_lt_self (by omega) two) earlier
        · exact ⟨n % base, Nat.mod_lt n (by omega), List.mem_singleton.mp here⟩

theorem isHexDigit_of_mem_toDigits (two : 1 < base) (sixteen : base ≤ 16) {n : Nat}
    {c : Char} (member : c ∈ Nat.toDigits base n) : isHexDigit c = true := by
  obtain ⟨digit, small, rfl⟩ := exists_digitChar_of_mem_toDigits two member
  exact isHexDigit_digitChar (by omega)

@[simp] theorem valueOf_decimal (n : Nat) : valueOf 10 (decimal n) = n :=
  valueOf_toDigits (by omega) (by omega) n

@[simp] theorem valueOf_hexadecimal (n : Nat) : valueOf 16 (hexadecimal n) = n :=
  valueOf_toDigits (by omega) (by omega) n

theorem decimal_injective : Function.Injective decimal := by
  intro n m same
  rw [← valueOf_decimal n, same, valueOf_decimal]

theorem isDecimalDigit_of_mem_decimal {n : Nat} {c : Char} (member : c ∈ decimal n) :
    isDecimalDigit c = true :=
  Nat.isDigit_of_mem_toDigits (by omega) (by omega) member

theorem not_mem_decimal {n : Nat} {c : Char} (other : isDecimalDigit c = false) :
    c ∉ decimal n := by
  intro member
  rw [isDecimalDigit_of_mem_decimal member] at other
  contradiction

theorem isHexDigit_of_mem_hexadecimal {n : Nat} {c : Char} (member : c ∈ hexadecimal n) :
    isHexDigit c = true :=
  isHexDigit_of_mem_toDigits (by omega) (by omega) member

/-- Base sixteen is written in small letters. -/
theorem toLower_of_mem_hexadecimal {n : Nat} {c : Char} (member : c ∈ hexadecimal n) :
    c.toLower = c := by
  obtain ⟨digit, small, rfl⟩ := exists_digitChar_of_mem_toDigits (by omega) member
  have all : ∀ digit < 16, (Nat.digitChar digit).toLower = Nat.digitChar digit := by decide
  exact all digit small

theorem decimal_ne_nil (n : Nat) : decimal n ≠ [] :=
  Nat.toDigits_ne_nil

theorem hexadecimal_ne_nil (n : Nat) : hexadecimal n ≠ [] :=
  Nat.toDigits_ne_nil

/-- No zero stands in front of further digits. -/
theorem decimal_ne_zero_cons (n : Nat) (c : Char) (rest : List Char) :
    decimal n ≠ '0' :: c :: rest := by
  induction n using Nat.strongRecOn generalizing c rest with
  | ind n induction =>
      intro written
      rw [decimal, Nat.toDigits_eq_if (by omega)] at written
      split at written
      · simp at written
      · have smaller : n / 10 < n := by omega
        have positive : 0 < n / 10 := by omega
        cases front : Nat.toDigits 10 (n / 10) with
        | nil => exact Nat.toDigits_ne_nil front
        | cons first more =>
            rw [front] at written
            obtain ⟨rfl, _⟩ := List.cons.inj written
            cases more with
            | nil =>
                have value := valueOf_decimal (n / 10)
                rw [decimal, front] at value
                have zero : valueOf 10 ['0'] = 0 := by decide
                omega
            | cons second more => exact induction _ smaller second more front

/-! ## Reading below a bound -/

theorem le_foldl_digits (positive : 0 < base) (digits : List Char) (total : Nat) :
    total ≤ digits.foldl (fun total c => total * base + digitValue c) total := by
  induction digits generalizing total with
  | nil => exact Nat.le_refl total
  | cons c rest induction =>
      have grown : total ≤ total * base + digitValue c := by
        have := Nat.le_mul_of_pos_right total positive
        omega
      exact Nat.le_trans grown (induction _)

variable {bound : Nat} {isDigit : Char → Bool}

/-- The total only grows, so that it stays below the bound at every digit when it
does so in the end. -/
theorem continueBelow_eq_ok_iff (positive : 0 < base) {text : List Char} {total n : Nat}
    (below : total < bound) :
    continueBelow base bound isDigit total text = .ok n ↔
      (∀ c ∈ text, isDigit c = true) ∧
        text.foldl (fun total c => total * base + digitValue c) total = n ∧ n < bound := by
  induction text generalizing total with
  | nil =>
      simp only [continueBelow, Except.ok.injEq, List.not_mem_nil, false_implies, implies_true,
        true_and, List.foldl_nil]
      constructor
      · rintro rfl
        exact ⟨rfl, below⟩
      · exact And.left
  | cons c rest induction =>
      rw [continueBelow]
      by_cases digit : isDigit c = true
      · by_cases fits : total * base + digitValue c < bound
        · simp [digit, fits, induction fits]
        · have grown := le_foldl_digits positive rest (total * base + digitValue c)
          simp only [digit, fits, if_true, if_false, reduceCtorEq, List.foldl_cons, false_iff]
          rintro ⟨_, same, last⟩
          omega
      · simp [digit]

/-- A text of digits, perhaps behind a plus sign, that denotes a number. -/
inductive IntegerText (base : Nat) (isDigit : Char → Bool) : List Char → Nat → Prop where
  | unsigned {digits : List Char} (nonempty : digits ≠ [])
      (all : ∀ c ∈ digits, isDigit c = true) :
      IntegerText base isDigit digits (valueOf base digits)
  | plus {digits : List Char} (nonempty : digits ≠ [])
      (all : ∀ c ∈ digits, isDigit c = true) :
      IntegerText base isDigit ('+' :: digits) (valueOf base digits)

theorem integerText_decimal (n : Nat) : IntegerText 10 isDecimalDigit (decimal n) n := by
  have denoted : IntegerText 10 isDecimalDigit (decimal n) (valueOf 10 (decimal n)) :=
    .unsigned (decimal_ne_nil n) fun _ => isDecimalDigit_of_mem_decimal
  rwa [valueOf_decimal] at denoted

theorem integerText_hexadecimal (n : Nat) : IntegerText 16 isHexDigit (hexadecimal n) n := by
  have denoted : IntegerText 16 isHexDigit (hexadecimal n) (valueOf 16 (hexadecimal n)) :=
    .unsigned (hexadecimal_ne_nil n) fun _ => isHexDigit_of_mem_hexadecimal
  rwa [valueOf_hexadecimal] at denoted

theorem readBelow_of_unsigned {c : Char} (unsigned : c ≠ '+') (rest : List Char) :
    readBelow base bound isDigit (c :: rest) =
      continueBelow base bound isDigit 0 (c :: rest) := by
  cases rest <;> simp [readBelow, unsigned]

theorem readBelow_eq_ok_iff (positive : 0 < base) (room : 0 < bound)
    (noDigit : isDigit '+' = false) {text : List Char} {n : Nat} :
    readBelow base bound isDigit text = .ok n ↔
      IntegerText base isDigit text n ∧ n < bound := by
  have continues {digits : List Char} :
      continueBelow base bound isDigit 0 digits = .ok n ↔
        (∀ c ∈ digits, isDigit c = true) ∧ valueOf base digits = n ∧ n < bound :=
    continueBelow_eq_ok_iff positive room
  cases text with
  | nil =>
      constructor
      · intro read
        contradiction
      · rintro ⟨denoted, _⟩
        cases denoted with
        | unsigned nonempty all => contradiction
  | cons c rest =>
      by_cases sign : c = '+'
      · subst sign
        cases rest with
        | nil =>
            constructor
            · intro read
              contradiction
            · rintro ⟨denoted, _⟩
              cases denoted with
              | unsigned nonempty all => simp [noDigit] at all
              | plus nonempty all => contradiction
        | cons next rest =>
            apply continues.trans
            constructor
            · rintro ⟨all, rfl, below⟩
              exact ⟨.plus (by simp) all, below⟩
            · rintro ⟨denoted, below⟩
              cases denoted with
              | unsigned nonempty all => simp [noDigit] at all
              | plus nonempty all => exact ⟨all, rfl, below⟩
      · rw [readBelow_of_unsigned sign]
        apply continues.trans
        constructor
        · rintro ⟨all, rfl, below⟩
          exact ⟨.unsigned (by simp) all, below⟩
        · rintro ⟨denoted, below⟩
          cases denoted with
          | unsigned nonempty all => exact ⟨all, rfl, below⟩
          | plus nonempty all => contradiction

/-- Reading 64 bits gives the number denoted, or fails when it does not fit. -/
theorem readBelow_map_eq_ok_iff (positive : 0 < base) (noDigit : isDigit '+' = false)
    {text : List Char} {n : UInt64} :
    (readBelow base UInt64.size isDigit text).map UInt64.ofNat = .ok n ↔
      IntegerText base isDigit text n.toNat := by
  have below {m : Nat} : readBelow base UInt64.size isDigit text = .ok m ↔
      IntegerText base isDigit text m ∧ m < UInt64.size :=
    readBelow_eq_ok_iff positive (by decide) noDigit
  constructor
  · intro read
    cases given : readBelow base UInt64.size isDigit text with
    | error fault => simp [given, Except.map] at read
    | ok m =>
        simp only [given, Except.map, Except.ok.injEq] at read
        obtain ⟨denoted, fits⟩ := below.mp given
        subst read
        rwa [UInt64.toNat_ofNat_of_lt' fits]
  · intro denoted
    rw [below.mpr ⟨denoted, n.toNat_lt_size⟩]
    simp [Except.map]

theorem readUInt64_eq_ok_iff {text : List Char} {n : UInt64} :
    readUInt64 text = .ok n ↔ IntegerText 10 isDecimalDigit text n.toNat :=
  readBelow_map_eq_ok_iff (by omega) (by decide)

theorem readHexUInt64_eq_ok_iff {text : List Char} {n : UInt64} :
    readHexUInt64 text = .ok n ↔ IntegerText 16 isHexDigit text n.toNat :=
  readBelow_map_eq_ok_iff (by omega) (by decide)

end TimedRelease.Text
