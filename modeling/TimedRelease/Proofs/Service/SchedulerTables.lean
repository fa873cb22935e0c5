import TimedRelease.Proofs.Schema.Faults
import TimedRelease.Service.HttpScheduler

/-!
# The tables of schedulers

Building a scheduler checks its table, and so does whoever asks for the scheduler.  The second
check finds nothing that the first one did not, and a scheduler that was built waits as long as
its table says.
-/

namespace TimedRelease

namespace Schema

variable {endpoint : String}

theorem isWebAddress_iff : isWebAddress endpoint = true ↔
    "http://".toList <+: endpoint.toList ∨ "https://".toList <+: endpoint.toList := by
  rw [isWebAddress, Bool.or_eq_true, List.isPrefixOf_iff_prefix, List.isPrefixOf_iff_prefix]

theorem webAddress_eq_none_iff : webAddress (.string endpoint) = none ↔
    "http://".toList <+: endpoint.toList ∨ "https://".toList <+: endpoint.toList := by
  have checked : webAddress (.string endpoint) =
      if isWebAddress endpoint then none
      else some ("Expected an http(s) URL, got '" ++ endpoint ++ "'") := rfl
  rw [← isWebAddress_iff, checked]
  split <;> simp_all

end Schema

namespace HttpScheduler

/-- How long a scheduler waits: for the seconds in its table, or by default. -/
inductive Waits (members : List (String × Toml.Value)) : UInt64 → Prop where
  | unset (absent : Toml.Value.find? "timeout_seconds" members = none) : Waits members 30
  | given {seconds : Int} {timeout : UInt64}
      (given : Toml.Value.find? "timeout_seconds" members = some (.integer seconds))
      (least : 1 ≤ seconds) (greatest : seconds ≤ 300)
      (unchanged : (timeout.toNat : Int) = seconds) : Waits members timeout

/-- The scheduler has the endpoint of the table, which is a web address, and waits as the table
says. -/
def MadeOf (table : Toml.Value) (scheduler : HttpScheduler) : Prop :=
  ∃ members endpoint, table = .table members ∧
    Toml.Value.find? "endpoint" members = some (.string endpoint) ∧
    ("http://".toList <+: endpoint.toList ∨ "https://".toList <+: endpoint.toList) ∧
    Waits members scheduler.timeoutSeconds ∧ scheduler = make endpoint scheduler.timeoutSeconds

variable {table : Toml.Value} {members : List (String × Toml.Value)} {endpoint : String}
  {scheduler : HttpScheduler}

/-- The timeout of a table is unset, or a number of seconds within the bounds. -/
def TimeoutBounded (members : List (String × Toml.Value)) : Prop :=
  ∀ value, Toml.Value.find? "timeout_seconds" members = some value →
    ∃ seconds, value = .integer seconds ∧ 1 ≤ seconds ∧ seconds ≤ 300

theorem schema_admits_iff :
    schema.Admits table ↔
      ∃ members endpoint, table = .table members ∧
        Toml.Value.find? "endpoint" members = some (.string endpoint) ∧
        ("http://".toList <+: endpoint.toList ∨ "https://".toList <+: endpoint.toList) ∧
        TimeoutBounded members := by
  simp only [Schema.Admits, schema, SchemaField.plain, List.cons_append, List.nil_append,
    List.mem_cons, List.not_mem_nil, or_false, forall_eq_or_imp, forall_eq]
  apply exists_congr
  intro members
  constructor
  · intro admits
    obtain ⟨isTable, ⟨value, found⟩, endpointFits, timeoutFits⟩ := admits
    have fits := endpointFits value found
    obtain ⟨endpoint, rfl⟩ := fits.kind
    have web := Schema.webAddress_eq_none_iff.mp (fits.passes _ rfl)
    refine ⟨endpoint, isTable, found, web, ?_⟩
    intro value given
    have fits := timeoutFits value given
    obtain ⟨seconds, rfl⟩ := fits.kind
    exact ⟨seconds, rfl, fits.bounds.1 1 rfl, fits.bounds.2 300 rfl⟩
  · intro described
    obtain ⟨endpoint, isTable, found, web, bounded⟩ := described
    refine ⟨isTable, ⟨_, found⟩, ?_, ?_⟩
    · intro value given
      obtain rfl := Option.some.inj (found.symm.trans given)
      refine ⟨⟨endpoint, rfl⟩, trivial, ?_⟩
      intro check declared
      obtain rfl := Option.some.inj declared
      exact Schema.webAddress_eq_none_iff.mpr web
    · intro value given
      obtain ⟨seconds, rfl, least, greatest⟩ := bounded value given
      refine ⟨⟨seconds, rfl⟩, ⟨?_, ?_⟩, by simp⟩
      · intro bound declared
        obtain rfl := Option.some.inj declared
        exact least
      · intro bound declared
        obtain rfl := Option.some.inj declared
        exact greatest

/-- A number of seconds within the bounds keeps its value without its sign. -/
theorem toNat_ofInt_of_bounds {seconds : Int} (least : 1 ≤ seconds) (greatest : seconds ≤ 300) :
    ((UInt64.ofInt seconds).toNat : Int) = seconds := by
  rw [UInt64.ofInt, UInt64.toNat_ofNat']
  omega

theorem waits_timeoutOf (bounded : TimeoutBounded members) :
    Waits members (timeoutOf (.table members)) := by
  cases given : Toml.Value.find? "timeout_seconds" members with
  | none =>
      have unset : timeoutOf (.table members) = 30 := by
        simp [timeoutOf, Toml.Value.member?, Toml.Value.table?, given, defaultTimeout]
      rw [unset]
      exact .unset given
  | some value =>
      obtain ⟨seconds, rfl, least, greatest⟩ := bounded value given
      have set : timeoutOf (.table members) = UInt64.ofInt seconds := by
        simp [timeoutOf, Toml.Value.member?, Toml.Value.table?, given, Toml.Value.integer?]
      rw [set]
      exact .given given least greatest (toNat_ofInt_of_bounds least greatest)

theorem Waits.timeoutBounded {timeout : UInt64} (waits : Waits members timeout) :
    TimeoutBounded members := by
  intro value found
  cases waits with
  | unset absent =>
      rw [absent] at found
      contradiction
  | given given least greatest _ =>
      obtain rfl := Option.some.inj (given.symm.trans found)
      exact ⟨_, rfl, least, greatest⟩

theorem Waits.unique {timeout other : UInt64} (waits : Waits members timeout)
    (otherWaits : Waits members other) : timeout = other := by
  cases waits with
  | unset absent =>
      cases otherWaits with
      | unset => rfl
      | given given =>
          rw [absent] at given
          contradiction
  | given given _ _ unchanged =>
      cases otherWaits with
      | unset absent =>
          rw [absent] at given
          contradiction
      | given otherGiven _ _ otherUnchanged =>
          rw [given] at otherGiven
          injection otherGiven with sameValue
          injection sameValue with same
          apply UInt64.toNat_inj.mp
          omega

/-! ## Building twice checked -/

theorem fits_eq_ok_iff :
    Implementation.fits SchedulingError.invalidConfig schema table = .ok () ↔
      schema.Admits table := by
  rw [← Schema.validate_eq_ok_iff, Implementation.fits]
  cases schema.validate table <;> simp

theorem build_of_admits (admits : schema.Admits (.table members))
    (found : Toml.Value.find? "endpoint" members = some (.string endpoint)) :
    build (.table members) = .ok (make endpoint (timeoutOf (.table members))) := by
  have given : ((Toml.Value.table members).member? "endpoint").bind Toml.Value.string? =
      some endpoint := by
    simp [Toml.Value.member?, Toml.Value.table?, found, Toml.Value.string?]
  simp only [build, fits_eq_ok_iff.mpr admits, given]

theorem admits_of_build (built : build table = .ok scheduler) : schema.Admits table := by
  rw [build] at built
  split at built
  · contradiction
  · rename_i accepted
    exact fits_eq_ok_iff.mp accepted

theorem build_eq_ok_iff : build table = .ok scheduler ↔ MadeOf table scheduler := by
  constructor
  · intro built
    have admits := admits_of_build built
    obtain ⟨members, endpoint, rfl, found, web, bounded⟩ := schema_admits_iff.mp admits
    rw [build_of_admits admits found] at built
    obtain rfl := Except.ok.inj built
    exact ⟨members, endpoint, rfl, found, web, waits_timeoutOf bounded, rfl⟩
  · intro made
    obtain ⟨members, endpoint, rfl, found, web, waits, same⟩ := made
    have bounded := waits.timeoutBounded
    have admits := schema_admits_iff.mpr ⟨members, endpoint, rfl, found, web, bounded⟩
    rw [build_of_admits admits found, same, (waits_timeoutOf bounded).unique waits]

/-- The second check never refuses what was built. -/
theorem load_eq_build : implementation.load .invalidConfig table = build table := by
  rw [Implementation.load]
  cases built : implementation.build table with
  | error error => exact built.symm
  | ok scheduler =>
      have accepted :
          Implementation.fits SchedulingError.invalidConfig implementation.schema table = .ok () :=
        fits_eq_ok_iff.mpr (admits_of_build built)
      simp only [accepted]
      exact built.symm

theorem ofTable_http : ofTable "http" table = build table :=
  load_eq_build

/-- Checking a value against a schema finds out whether it is a table with all required members
in which everything declared is of its kind, within its bounds and passed by its own check, and
tells the first fault otherwise; members that are not declared do not matter.  So a scheduler
over HTTP is made exactly of the tables with a web address as their endpoint and, if they give a
timeout, one between 1 and 300 seconds, which it keeps; and checking its table again finds
nothing. -/
theorem tables_checked_in_order :
    (∀ (schema : Schema) (value : Toml.Value),
      (schema.validate value = .ok () ↔ schema.Admits value) ∧
        ∀ error, schema.validate value = .error error ↔ schema.FirstFault value error) ∧
    (∀ (schema : Schema) (members others : List (String × Toml.Value)),
      (∀ field ∈ schema.required ++ schema.optional,
        Toml.Value.find? field.name members = Toml.Value.find? field.name others) →
      schema.validate (.table members) = schema.validate (.table others)) ∧
    (∀ table scheduler, ofTable "http" table = .ok scheduler ↔ MadeOf table scheduler) ∧
    (∀ table scheduler, build table = .ok scheduler →
      HttpScheduler.schema.validate table = .ok () ∧ ofTable "http" table = .ok scheduler) := by
  refine ⟨?_, ?_, ?_, ?_⟩
  · intro schema value
    exact ⟨Schema.validate_eq_ok_iff, fun error => Schema.validate_eq_error_iff⟩
  · intro schema members others same
    exact Schema.validate_table_congr same
  · intro table scheduler
    rw [ofTable_http]
    exact build_eq_ok_iff
  · intro table scheduler built
    exact ⟨Schema.validate_eq_ok_iff.mpr (admits_of_build built), ofTable_http.trans built⟩

/-- The longest timeout, with a member that is not declared. -/
theorem longest_timeout_kept :
    let members := [("endpoint", Toml.Value.string "https://s/"), ("note", .boolean true),
      ("timeout_seconds", .integer 300)]
    let others := [("endpoint", Toml.Value.string "https://s/"), ("timeout_seconds", .integer 300)]
    let scheduler := make "https://s/" 300
    (∀ field ∈ schema.required ++ schema.optional,
        Toml.Value.find? field.name members = Toml.Value.find? field.name others) ∧
      schema.validate (.table members) = schema.validate (.table others) ∧
      build (.table members) = .ok scheduler ∧ schema.validate (.table members) = .ok () ∧
      ofTable "http" (.table members) = .ok scheduler := by
  intro members others scheduler
  obtain ⟨-, undeclared, -, rebuilt⟩ := tables_checked_in_order
  have same : ∀ field ∈ schema.required ++ schema.optional,
      Toml.Value.find? field.name members = Toml.Value.find? field.name others :=
    List.forall_mem_cons.mpr ⟨rfl, List.forall_mem_singleton.mpr rfl⟩
  have built : build (.table members) = .ok scheduler := by rfl
  exact ⟨same, undeclared schema members others same, built, rebuilt _ _ built⟩

end HttpScheduler

end TimedRelease
