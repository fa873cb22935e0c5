import TimedRelease.Schema

/-!
# The first fault of a table

A table fits a schema if it has the required fields and everything declared that it has is as
it is declared to be.  Otherwise the first declared field that is at fault is reported, and of
this field the first fault, in the order presence, kind, bounds, own check.
-/

namespace TimedRelease

namespace Toml.Value

variable {value : Toml.Value}

theorem string?_eq_some_iff {text : String} : value.string? = some text ↔ value = .string text := by
  cases value <;> simp [string?]

theorem integer?_eq_some_iff {n : Int} : value.integer? = some n ↔ value = .integer n := by
  cases value <;> simp [integer?]

theorem table?_eq_some_iff {members : List (String × Toml.Value)} :
    value.table? = some members ↔ value = .table members := by
  cases value <;> simp [table?]

end Toml.Value

/-! ## A field and its value -/

namespace FieldKind

/-- The value is of this kind. -/
def Matches : FieldKind → Toml.Value → Prop
  | .string, value => ∃ text, value = .string text
  | .integer _ _, value => ∃ n, value = .integer n

/-- A number lies within the bounds, which are inclusive. -/
def Bounds : FieldKind → Toml.Value → Prop
  | .integer least greatest, .integer n =>
    (∀ bound ∈ least, bound ≤ n) ∧ ∀ bound ∈ greatest, n ≤ bound
  | _, _ => True

/-- What a value of this kind is called in errors. -/
def expected : FieldKind → String
  | .string => "string"
  | .integer _ _ => "integer"

end FieldKind

namespace SchemaField

/-- The value is as the field declares it. -/
structure Fits (field : SchemaField) (value : Toml.Value) : Prop where
  kind : field.kind.Matches value
  bounds : field.kind.Bounds value
  passes : ∀ check ∈ field.check, check value = none

/-- The first thing wrong with a value, in the order kind, bounds, own check; of two bounds the
lower comes first. -/
inductive FirstFault (field : SchemaField) (value : Toml.Value) : SchemaError → Prop where
  | kind (other : ¬field.kind.Matches value) :
      FirstFault field value (.mismatch field.name field.kind.expected value.kind)
  | below {least n : Int} {greatest : Option Int}
      (declared : field.kind = .integer (some least) greatest) (number : value = .integer n)
      (below : n < least) : FirstFault field value (.invalid field.name (.below n least))
  | above {greatest n : Int} {least : Option Int}
      (declared : field.kind = .integer least (some greatest)) (number : value = .integer n)
      (notBelow : ∀ bound ∈ least, bound ≤ n) (above : greatest < n) :
      FirstFault field value (.invalid field.name (.above n greatest))
  | own {check : Toml.Value → Option String} {complaint : String}
      (kind : field.kind.Matches value) (bounds : field.kind.Bounds value)
      (declared : field.check = some check) (refused : check value = some complaint) :
      FirstFault field value (.invalid field.name (.refused complaint))

variable {field : SchemaField} {value : Toml.Value} {error : SchemaError}

theorem filter_below_eq_none {least : Option Int} {n : Int}
    (notBelow : ∀ bound ∈ least, bound ≤ n) : least.filter (n < ·) = none := by
  simpa [Option.filter_eq_none_iff] using notBelow

/-! ### What checking a value comes to -/

theorem Fits.checkKind (fits : field.Fits value) : field.checkKind value = .ok () := by
  have kind := fits.kind
  have bounds := fits.bounds
  rw [SchemaField.checkKind]
  cases declared : field.kind with
  | string =>
      rw [declared] at kind
      obtain ⟨text, rfl⟩ := kind
      rfl
  | integer least greatest =>
      rw [declared] at kind bounds
      obtain ⟨n, rfl⟩ := kind
      have inside : boundFault? least greatest n = none := by
        have high : greatest.filter (· < n) = none := by
          simpa [Option.filter_eq_none_iff] using bounds.2
        rw [boundFault?, filter_below_eq_none bounds.1, high]
      simp only [Toml.Value.integer?, inside]

theorem Fits.validate (fits : field.Fits value) : field.validate value = .ok () := by
  have passes : field.check.bind (· value) = none := by
    apply Option.bind_eq_none_iff.mpr
    exact fits.passes
  rw [SchemaField.validate, fits.checkKind]
  simp only [checkOwn, passes]

theorem checkKind_of_not_matches (other : ¬field.kind.Matches value) :
    field.checkKind value = .error (.mismatch field.name field.kind.expected value.kind) := by
  rw [checkKind]
  cases declared : field.kind with
  | string =>
      rw [declared] at other
      have noText : value.string? = none := by
        apply Option.eq_none_iff_forall_ne_some.mpr
        intro text given
        exact other ⟨text, Toml.Value.string?_eq_some_iff.mp given⟩
      simp only [noText, FieldKind.expected]
  | integer least greatest =>
      rw [declared] at other
      have noNumber : value.integer? = none := by
        apply Option.eq_none_iff_forall_ne_some.mpr
        intro n given
        exact other ⟨n, Toml.Value.integer?_eq_some_iff.mp given⟩
      simp only [noNumber, FieldKind.expected]

theorem checkKind_of_boundFault? {least greatest : Option Int} {n : Int} {fault : ValueFault}
    (declared : field.kind = .integer least greatest)
    (outside : boundFault? least greatest n = some fault) :
    field.checkKind (.integer n) = .error (.invalid field.name fault) := by
  simp only [checkKind, declared, Toml.Value.integer?, outside]

theorem FirstFault.validate (fault : field.FirstFault value error) :
    field.validate value = .error error := by
  rw [SchemaField.validate]
  cases fault with
  | kind other => rw [checkKind_of_not_matches other]
  | @below least n greatest declared number below =>
      have outside : boundFault? (some least) greatest n = some (.below n least) := by
        have found : (some least).filter (n < ·) = some least := by
          simpa [Option.filter] using below
        rw [boundFault?, found]
      rw [number, checkKind_of_boundFault? declared outside]
  | @above greatest n least declared number notBelow above =>
      have outside : boundFault? least (some greatest) n = some (.above n greatest) := by
        have found : (some greatest).filter (· < n) = some greatest := by
          simpa [Option.filter] using above
        rw [boundFault?, filter_below_eq_none notBelow, found]
      rw [number, checkKind_of_boundFault? declared outside]
  | own kind bounds declared refused =>
      have fits : Fits ⟨field.name, field.kind, none⟩ value := ⟨kind, bounds, by simp⟩
      have inKind : field.checkKind value = .ok () := fits.checkKind
      have complains : field.check.bind (· value) = some _ :=
        Option.bind_eq_some_iff.mpr ⟨_, declared, refused⟩
      simp only [inKind, checkOwn, complains]

theorem bounds_or_firstFault (kind : field.kind.Matches value) :
    field.kind.Bounds value ∨ ∃ error, field.FirstFault value error := by
  cases declared : field.kind with
  | string => exact .inl trivial
  | integer least greatest =>
      rw [declared] at kind
      obtain ⟨n, rfl⟩ := kind
      by_cases notBelow : ∀ bound ∈ least, bound ≤ n
      · by_cases notAbove : ∀ bound ∈ greatest, n ≤ bound
        · exact .inl ⟨notBelow, notAbove⟩
        · obtain ⟨bound, given, above⟩ : ∃ bound, greatest = some bound ∧ bound < n := by
            simpa using notAbove
          subst given
          exact .inr ⟨_, .above declared rfl notBelow above⟩
      · obtain ⟨bound, given, below⟩ : ∃ bound, least = some bound ∧ n < bound := by
          simpa using notBelow
        subst given
        exact .inr ⟨_, .below declared rfl below⟩

/-- A value fits, or something is wrong with it first. -/
theorem fits_or_firstFault (field : SchemaField) (value : Toml.Value) :
    field.Fits value ∨ ∃ error, field.FirstFault value error := by
  by_cases kind : field.kind.Matches value
  · rcases bounds_or_firstFault kind with bounds | fault
    · cases own : field.check.bind (· value) with
      | none => exact .inl ⟨kind, bounds, Option.bind_eq_none_iff.mp own⟩
      | some complaint =>
          obtain ⟨check, declared, refused⟩ := Option.bind_eq_some_iff.mp own
          exact .inr ⟨_, .own kind bounds declared refused⟩
    · exact .inr fault
  · exact .inr ⟨_, .kind kind⟩

theorem validate_eq_ok_iff : field.validate value = .ok () ↔ field.Fits value := by
  constructor
  · intro accepted
    apply (fits_or_firstFault field value).resolve_right
    intro faulty
    obtain ⟨error, fault⟩ := faulty
    rw [fault.validate] at accepted
    contradiction
  · exact Fits.validate

theorem validate_eq_error_iff :
    field.validate value = .error error ↔ field.FirstFault value error := by
  constructor
  · intro refused
    rcases fits_or_firstFault field value with fits | ⟨other, fault⟩
    · rw [fits.validate] at refused
      contradiction
    · rw [fault.validate] at refused
      obtain rfl := Except.error.inj refused
      exact fault
  · exact FirstFault.validate

end SchemaField

/-! ## The fields of a table -/

namespace Schema

variable {members : List (String × Toml.Value)} {field : SchemaField} {error : SchemaError}

/-- A member of this name, if there is one, is as the field declares it. -/
def FitsIfPresent (members : List (String × Toml.Value)) (field : SchemaField) : Prop :=
  ∀ value, Toml.Value.find? field.name members = some value → field.Fits value

/-- There is a member of this name. -/
def Present (members : List (String × Toml.Value)) (field : SchemaField) : Prop :=
  ∃ value, Toml.Value.find? field.name members = some value

/-- The first thing wrong with a member that is there. -/
def FaultIfPresent (members : List (String × Toml.Value)) (field : SchemaField)
    (error : SchemaError) : Prop :=
  ∃ value, Toml.Value.find? field.name members = some value ∧ field.FirstFault value error

theorem validateOptional_eq_ok_iff :
    validateOptional members field = .ok () ↔ FitsIfPresent members field := by
  rw [validateOptional, FitsIfPresent]
  cases Toml.Value.find? field.name members with
  | none => simp
  | some value => simp [SchemaField.validate_eq_ok_iff]

theorem validateOptional_eq_error_iff :
    validateOptional members field = .error error ↔ FaultIfPresent members field error := by
  rw [validateOptional, FaultIfPresent]
  cases Toml.Value.find? field.name members with
  | none => simp
  | some value => simp [SchemaField.validate_eq_error_iff]

/-- A required field differs from an optional one in that it must not be missing. -/
theorem validateRequired_eq_ok_iff :
    validateRequired members field = .ok () ↔
      Present members field ∧ FitsIfPresent members field := by
  rw [validateRequired, Present, FitsIfPresent]
  cases Toml.Value.find? field.name members with
  | none => simp
  | some value => simp [SchemaField.validate_eq_ok_iff]

theorem validateRequired_eq_error_iff :
    validateRequired members field = .error error ↔
      ¬Present members field ∧ error = .missing field.name ∨
        FaultIfPresent members field error := by
  rw [validateRequired, Present, FaultIfPresent]
  cases Toml.Value.find? field.name members with
  | none => simp [eq_comm]
  | some value => simp [SchemaField.validate_eq_error_iff]

section

variable {check : SchemaField → Except SchemaError Unit} {fields : List SchemaField}

theorem firstError_eq_ok_iff :
    firstError check fields = .ok () ↔ ∀ field ∈ fields, check field = .ok () := by
  induction fields with
  | nil => simp [firstError]
  | cons first rest induction => cases given : check first <;> simp [firstError, given, induction]

theorem firstError_eq_error_iff :
    firstError check fields = .error error ↔
      ∃ before field after, fields = before ++ field :: after ∧
        (∀ earlier ∈ before, check earlier = .ok ()) ∧ check field = .error error := by
  constructor
  · intro failed
    induction fields with
    | nil => contradiction
    | cons first rest induction =>
        cases given : check first with
        | error found =>
            simp only [firstError, given, Except.error.injEq] at failed
            exact ⟨[], first, rest, rfl, by simp, failed ▸ given⟩
        | ok done =>
            simp only [firstError, given] at failed
            obtain ⟨before, field, after, rfl, fine, fault⟩ := induction failed
            exact ⟨first :: before, field, after, rfl,
              List.forall_mem_cons.mpr ⟨given, fine⟩, fault⟩
  · intro found
    obtain ⟨before, field, after, rfl, fine, fault⟩ := found
    induction before with
    | nil => simp [firstError, fault]
    | cons first rest induction =>
        obtain ⟨here, later⟩ := List.forall_mem_cons.mp fine
        simpa [firstError, here] using induction later

end

/-- A table with the required members, in which all that is declared is as it is declared to
be. -/
def Admits (schema : Schema) (value : Toml.Value) : Prop :=
  ∃ members, value = .table members ∧ (∀ field ∈ schema.required, Present members field) ∧
    ∀ field ∈ schema.required ++ schema.optional, FitsIfPresent members field

/-- The fault of the first field that has one, in the order of declaration and the required
fields before the optional ones. -/
inductive FirstFault (schema : Schema) : Toml.Value → SchemaError → Prop where
  | noTable {value : Toml.Value} (other : ∀ members, value ≠ .table members) :
      FirstFault schema value (.mismatch "root" "table" value.kind)
  | missing {members : List (String × Toml.Value)} {before after : List SchemaField}
      {field : SchemaField} (order : schema.required = before ++ field :: after)
      (earlier : ∀ other ∈ before, Present members other ∧ FitsIfPresent members other)
      (absent : ¬Present members field) :
      FirstFault schema (.table members) (.missing field.name)
  | required {members : List (String × Toml.Value)} {before after : List SchemaField}
      {field : SchemaField} {error : SchemaError}
      (order : schema.required = before ++ field :: after)
      (earlier : ∀ other ∈ before, Present members other ∧ FitsIfPresent members other)
      (fault : FaultIfPresent members field error) : FirstFault schema (.table members) error
  | optional {members : List (String × Toml.Value)} {before after : List SchemaField}
      {field : SchemaField} {error : SchemaError}
      (required : ∀ other ∈ schema.required, Present members other ∧ FitsIfPresent members other)
      (order : schema.optional = before ++ field :: after)
      (earlier : ∀ other ∈ before, FitsIfPresent members other)
      (fault : FaultIfPresent members field error) : FirstFault schema (.table members) error

variable {schema : Schema} {value : Toml.Value}

theorem validate_table_eq_ok_iff :
    schema.validate (.table members) = .ok () ↔
      (∀ field ∈ schema.required, Present members field ∧ FitsIfPresent members field) ∧
        ∀ field ∈ schema.optional, FitsIfPresent members field := by
  have required : firstError (validateRequired members) schema.required = .ok () ↔
      ∀ field ∈ schema.required, Present members field ∧ FitsIfPresent members field := by
    simp only [firstError_eq_ok_iff, validateRequired_eq_ok_iff]
  have optional : firstError (validateOptional members) schema.optional = .ok () ↔
      ∀ field ∈ schema.optional, FitsIfPresent members field := by
    simp only [firstError_eq_ok_iff, validateOptional_eq_ok_iff]
  rw [← required, ← optional]
  simp only [validate, Toml.Value.table?]
  cases firstError (validateRequired members) schema.required <;> simp

theorem validate_table_eq_error_iff :
    schema.validate (.table members) = .error error ↔
      firstError (validateRequired members) schema.required = .error error ∨
        firstError (validateRequired members) schema.required = .ok () ∧
          firstError (validateOptional members) schema.optional = .error error := by
  simp only [validate, Toml.Value.table?]
  cases firstError (validateRequired members) schema.required <;> simp

theorem validate_of_not_table (other : ∀ members, value ≠ .table members) :
    schema.validate value = .error (.mismatch "root" "table" value.kind) := by
  have noMembers : value.table? = none := by
    apply Option.eq_none_iff_forall_ne_some.mpr
    intro members given
    exact other members (Toml.Value.table?_eq_some_iff.mp given)
  simp only [validate, noMembers, rootName]

theorem validate_eq_ok_iff : schema.validate value = .ok () ↔ schema.Admits value := by
  constructor
  · intro accepted
    by_cases isTable : ∃ members, value = .table members
    · obtain ⟨members, rfl⟩ := isTable
      obtain ⟨required, optional⟩ := validate_table_eq_ok_iff.mp accepted
      refine ⟨members, rfl, fun field member => (required field member).1, ?_⟩
      exact List.forall_mem_append.mpr ⟨fun field member => (required field member).2, optional⟩
    · rw [validate_of_not_table (not_exists.mp isTable)] at accepted
      contradiction
  · intro admits
    obtain ⟨members, rfl, present, fits⟩ := admits
    obtain ⟨required, optional⟩ := List.forall_mem_append.mp fits
    exact validate_table_eq_ok_iff.mpr
      ⟨fun field member => ⟨present field member, required field member⟩, optional⟩

theorem validate_eq_error_iff :
    schema.validate value = .error error ↔ schema.FirstFault value error := by
  constructor
  · intro refused
    by_cases isTable : ∃ members, value = .table members
    · obtain ⟨members, rfl⟩ := isTable
      rcases validate_table_eq_error_iff.mp refused with failed | ⟨fine, failed⟩
      · obtain ⟨before, field, after, order, earlier, fault⟩ := firstError_eq_error_iff.mp failed
        simp only [validateRequired_eq_ok_iff] at earlier
        rcases validateRequired_eq_error_iff.mp fault with ⟨absent, rfl⟩ | fault
        · exact .missing order earlier absent
        · exact .required order earlier fault
      · obtain ⟨before, field, after, order, earlier, fault⟩ := firstError_eq_error_iff.mp failed
        simp only [firstError_eq_ok_iff, validateRequired_eq_ok_iff] at fine
        simp only [validateOptional_eq_ok_iff] at earlier
        exact .optional fine order earlier (validateOptional_eq_error_iff.mp fault)
    · rw [validate_of_not_table (not_exists.mp isTable)] at refused
      obtain rfl := Except.error.inj refused
      exact .noTable (not_exists.mp isTable)
  · intro fault
    cases fault with
    | noTable other => exact validate_of_not_table other
    | missing order earlier absent =>
        simp only [← validateRequired_eq_ok_iff] at earlier
        have failed := validateRequired_eq_error_iff.mpr (.inl ⟨absent, rfl⟩)
        exact validate_table_eq_error_iff.mpr
          (.inl (firstError_eq_error_iff.mpr ⟨_, _, _, order, earlier, failed⟩))
    | required order earlier fault =>
        simp only [← validateRequired_eq_ok_iff] at earlier
        have failed := validateRequired_eq_error_iff.mpr (.inr fault)
        exact validate_table_eq_error_iff.mpr
          (.inl (firstError_eq_error_iff.mpr ⟨_, _, _, order, earlier, failed⟩))
    | optional required order earlier fault =>
        simp only [← validateRequired_eq_ok_iff, ← firstError_eq_ok_iff] at required
        simp only [← validateOptional_eq_ok_iff] at earlier
        have failed := validateOptional_eq_error_iff.mpr fault
        exact validate_table_eq_error_iff.mpr
          (.inr ⟨required, firstError_eq_error_iff.mpr ⟨_, _, _, order, earlier, failed⟩⟩)

/-! ## Members that are not declared -/

theorem firstError_congr {check other : SchemaField → Except SchemaError Unit}
    {fields : List SchemaField} (same : ∀ field ∈ fields, check field = other field) :
    firstError check fields = firstError other fields := by
  induction fields with
  | nil => rfl
  | cons first rest induction =>
      obtain ⟨here, later⟩ := List.forall_mem_cons.mp same
      rw [firstError, firstError, here, induction later]

/-- The result is told by the members that are declared. -/
theorem validate_table_congr {others : List (String × Toml.Value)}
    (same : ∀ field ∈ schema.required ++ schema.optional,
      Toml.Value.find? field.name members = Toml.Value.find? field.name others) :
    schema.validate (.table members) = schema.validate (.table others) := by
  obtain ⟨required, optional⟩ := List.forall_mem_append.mp same
  have sameRequired : firstError (validateRequired members) schema.required =
      firstError (validateRequired others) schema.required := by
    apply firstError_congr
    intro field member
    rw [validateRequired, validateRequired, required field member]
  have sameOptional : firstError (validateOptional members) schema.optional =
      firstError (validateOptional others) schema.optional := by
    apply firstError_congr
    intro field member
    rw [validateOptional, validateOptional, optional field member]
  simp only [validate, Toml.Value.table?, sameRequired, sameOptional]

end Schema

end TimedRelease
