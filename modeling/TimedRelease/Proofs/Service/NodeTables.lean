import TimedRelease.Service.NodeAccount

/-!
# The tables of node accounts

A node account is refused for many reasons, and for want of a table only if there is none:
all other refusals are worded in another way.
-/

namespace TimedRelease

namespace NodeAccount

/-- A text that starts otherwise than the error of a missing table. -/
def StartsApart (text : String) : Prop :=
  ∃ letter, text.toList.head? = some letter ∧ letter ≠ 'P'

theorem StartsApart.append {text : String} (apart : StartsApart text) (more : String) :
    StartsApart (text ++ more) := by
  obtain ⟨letter, starts, other⟩ := apart
  refine ⟨letter, ?_, other⟩
  rw [String.toList_append, List.head?_append, starts]
  rfl

theorem startsApart_schemaError (error : SchemaError) : StartsApart error.message := by
  cases error with
  | missing field =>
      have starts : StartsApart "Missing required field: " := ⟨'M', by simp, by decide⟩
      exact starts.append field
  | invalid field fault =>
      have starts : StartsApart "Invalid value for field '" := ⟨'I', by simp, by decide⟩
      exact ((starts.append field).append _).append _
  | mismatch field expected actual =>
      have starts : StartsApart "Type mismatch for field '" := ⟨'T', by simp, by decide⟩
      exact ((((starts.append field).append _).append _).append _).append _

/-- An error of the configuration that speaks of something else than a missing table. -/
def SparesTable (error : AccountError) : Prop :=
  ∃ reason, error = .invalidConfig reason ∧ StartsApart reason

theorem sparesTable_fits {table : Toml.Value} {error : AccountError}
    (failed : Implementation.fits .invalidConfig schema table = .error error) :
    SparesTable error := by
  unfold Implementation.fits at failed
  split at failed
  · rename_i schemaError _
    injection failed with same
    rw [← same]
    exact ⟨_, rfl, startsApart_schemaError schemaError⟩
  · contradiction

theorem sparesTable_build {table : Toml.Value} {error : AccountError}
    (failed : build table = .error error) : SparesTable error := by
  unfold build at failed
  split at failed
  · rename_i misfit
    injection failed with same
    rw [← same]
    exact sparesTable_fits misfit
  · split at failed
    · rename_i rpcUrl _
      unfold make at failed
      split at failed
      · injection failed with same
        have starts : StartsApart "Invalid RPC URL " := ⟨'I', by simp, by decide⟩
        exact ⟨_, same.symm, ((starts.append _).append _).append _⟩
      · contradiction
    · injection failed with same
      have starts : StartsApart "rpc_url is required" := ⟨'r', by simp, by decide⟩
      exact ⟨_, same.symm, starts⟩

/-- If there is a table, no error says that there is none. -/
theorem sparesTable_ofTables {primary : String} {tables : List (String × Toml.Value)}
    {table : Toml.Value} (found : Toml.Value.find? primary tables = some table)
    {error : AccountError} (failed : ofTables primary tables = .error error) :
    SparesTable error := by
  simp only [ofTables, found] at failed
  split at failed
  · rename_i chosen named
    have only : chosen = implementation := by
      simpa [implementations] using List.mem_of_find?_eq_some named
    rw [only, Implementation.load] at failed
    split at failed
    · rename_i buildFailed
      injection failed with same
      rw [← same]
      exact sparesTable_build buildFailed
    · split at failed
      · rename_i misfit
        injection failed with same
        rw [← same]
        exact sparesTable_fits misfit
      · contradiction
  · injection failed with same
    have starts : StartsApart "Unknown account implementation '" := ⟨'U', by simp, by decide⟩
    exact ⟨_, same.symm, (starts.append _).append _⟩

/-- The error of an account without a table. -/
def missingTable (primary : String) : AccountError :=
  .invalidConfig ("Primary account implementation '" ++ primary ++ "' has no configuration table")

theorem not_sparesTable_missingTable (primary : String) :
    ¬SparesTable (missingTable primary) := by
  rintro ⟨reason, same, letter, starts, other⟩
  injection same with text
  rw [← text, String.append_assoc, String.toList_append, List.head?_append] at starts
  exact other (by simpa using starts.symm)

theorem ofTables_eq_missingTable_iff {primary : String} {tables : List (String × Toml.Value)} :
    ofTables primary tables = .error (missingTable primary) ↔
      Toml.Value.find? primary tables = none := by
  constructor
  · intro failed
    cases found : Toml.Value.find? primary tables with
    | none => rfl
    | some table =>
        exact absurd (sparesTable_ofTables found failed) (not_sparesTable_missingTable primary)
  · intro absent
    rw [ofTables, absent]
    rfl

end NodeAccount

end TimedRelease
