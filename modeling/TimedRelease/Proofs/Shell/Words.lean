/-!
# Words of a shell

How a shell cuts a line into words, for lines that ask nothing else of it: blanks
stand between words, and what stands between single quotes is taken as it is.  A line
with a character that could mean anything else to a shell is not read.
-/

namespace TimedRelease.Shell

/-- A character that means nothing but itself outside of quotes. -/
def isPlain (c : Char) : Bool :=
  c.isAlphanum || c ∈ ['-', '_', '.', '/', ':', ',', '+', '@', '%']

/-- A word that a shell takes without quotes. -/
def isPlainWord (word : String) : Bool :=
  !word.toList.isEmpty && word.toList.all isPlain

/-- Where a shell is in a line, with what it has of the word it is in. -/
inductive Place where
  | between
  | inWord (word : List Char)
  | inQuotes (word : List Char)
  deriving DecidableEq, Repr

/-- The words that are complete, and where the shell is. -/
structure State where
  complete : List String
  place : Place
  deriving DecidableEq, Repr

/-- Takes one character. -/
def take (state : State) (c : Char) : Option State :=
  match state.place with
  | .between =>
    if c = ' ' then some state
    else if c = '\'' then some { state with place := .inQuotes [] }
    else if isPlain c then some { state with place := .inWord [c] }
    else none
  | .inWord word =>
    if c = ' ' then some ⟨state.complete ++ [String.ofList word], .between⟩
    else if c = '\'' then some { state with place := .inQuotes word }
    else if isPlain c then some { state with place := .inWord (word ++ [c]) }
    else none
  | .inQuotes word =>
    if c = '\'' then some { state with place := .inWord word }
    else some { state with place := .inQuotes (word ++ [c]) }

/-- The words at the end of a line, unless a quote is still open. -/
def finish (state : State) : Option (List String) :=
  match state.place with
  | .between => some state.complete
  | .inWord word => some (state.complete ++ [String.ofList word])
  | .inQuotes _ => none

/-- The words of a line. -/
def words? (line : String) : Option (List String) :=
  (line.toList.foldlM take ⟨[], .between⟩).bind finish

theorem eq_between_of_blank {before after : State} {words : List String}
    (taken : take before ' ' = some after) (ends : finish after = some words) :
    after = ⟨words, .between⟩ := by
  obtain ⟨complete, place⟩ := before
  cases place with
  | between =>
      simp only [take, if_true, Option.some.injEq] at taken
      subst taken
      simpa [finish] using ends
  | inWord word =>
      simp only [take, if_true, Option.some.injEq] at taken
      subst taken
      simpa [finish] using ends
  | inQuotes word =>
      simp only [take, Char.reduceEq, if_false, Option.some.injEq] at taken
      subst taken
      simp [finish] at ends

/-- A text without a quote is taken as it is between quotes. -/
theorem foldlM_take_inQuotes {text : List Char} (free : '\'' ∉ text) (complete : List String)
    (word : List Char) :
    text.foldlM take ⟨complete, .inQuotes word⟩ = some ⟨complete, .inQuotes (word ++ text)⟩ := by
  induction text generalizing word with
  | nil => simp
  | cons c rest induction =>
      simp only [List.mem_cons, not_or] at free
      obtain ⟨other, freeRest⟩ := free
      have goesOn := induction freeRest (word ++ [c])
      simpa [take, Ne.symm other] using goesOn

theorem take_plain {c : Char} (plain : isPlain c = true) (complete : List String) :
    take ⟨complete, .between⟩ c = some ⟨complete, .inWord [c]⟩ ∧
      ∀ word, take ⟨complete, .inWord word⟩ c = some ⟨complete, .inWord (word ++ [c])⟩ := by
  have notBlank : c ≠ ' ' := by
    rintro rfl
    contradiction
  have notQuote : c ≠ '\'' := by
    rintro rfl
    contradiction
  simp [take, notBlank, notQuote, plain]

theorem foldlM_take_inWord {text : List Char} (plain : ∀ c ∈ text, isPlain c = true)
    (complete : List String) (word : List Char) :
    text.foldlM take ⟨complete, .inWord word⟩ = some ⟨complete, .inWord (word ++ text)⟩ := by
  induction text generalizing word with
  | nil => simp
  | cons c rest induction =>
      obtain ⟨plainFirst, plainRest⟩ := List.forall_mem_cons.mp plain
      have first := (take_plain plainFirst complete).2 word
      have goesOn := induction plainRest (word ++ [c])
      simpa [first] using goesOn

theorem foldlM_take_word {word : String} (plain : isPlainWord word = true)
    (complete : List String) :
    (word.toList ++ [' ']).foldlM take ⟨complete, .between⟩ =
      some ⟨complete ++ [word], .between⟩ := by
  cases same : word.toList with
  | nil => simp [isPlainWord, same] at plain
  | cons c more =>
      have all : ∀ other ∈ c :: more, isPlain other = true := by
        simpa [isPlainWord, same] using plain
      obtain ⟨plainFirst, plainMore⟩ := List.forall_mem_cons.mp all
      have first := (take_plain plainFirst complete).1
      have others := foldlM_take_inWord plainMore complete [c]
      have last : take ⟨complete, .inWord (c :: more)⟩ ' ' =
          some ⟨complete ++ [word], .between⟩ := by
        have whole : String.ofList (c :: more) = word := by
          rw [← same, String.ofList_toList]
        simp [take, whole]
      simp [List.foldlM_append, first, others, last]

theorem foldlM_take_words {words : List String} (plain : ∀ word ∈ words, isPlainWord word = true)
    (complete : List String) :
    (words.flatMap fun word => word.toList ++ [' ']).foldlM take ⟨complete, .between⟩ =
      some ⟨complete ++ words, .between⟩ := by
  induction words generalizing complete with
  | nil => simp
  | cons word rest induction =>
      obtain ⟨plainFirst, plainRest⟩ := List.forall_mem_cons.mp plain
      have taken := foldlM_take_word plainFirst complete
      have goesOn := induction plainRest (complete ++ [word])
      rw [List.flatMap_cons, List.foldlM_append, taken]
      simpa using goesOn

/-- A line that ends in a blank outside of quotes leaves the shell between words. -/
theorem foldlM_take_of_words? {line : String} {words : List String}
    (read : words? (line ++ " ") = some words) :
    (line ++ " ").toList.foldlM take ⟨[], .between⟩ = some ⟨words, .between⟩ := by
  obtain ⟨after, reached, ends⟩ := Option.bind_eq_some_iff.mp read
  have blank : (line ++ " ").toList = line.toList ++ [' '] := by simp
  -- The blank was taken outside of quotes, or the line could not end behind it.
  have steps := reached
  rw [blank, List.foldlM_append] at steps
  obtain ⟨before, _, taken⟩ := Option.bind_eq_some_iff.mp steps
  simp only [List.foldlM_cons, List.foldlM_nil, Option.pure_def, Option.bind_eq_bind,
    Option.bind_fun_some] at taken
  rw [reached, eq_between_of_blank taken ends]

/-- An argument in single quotes is one more word of a line, just as it stands. -/
theorem words?_append_quoted {line argument : String} {words : List String}
    (free : '\'' ∉ argument.toList) (read : words? (line ++ " ") = some words) :
    words? (line ++ " " ++ "'" ++ argument ++ "'") = some (words ++ [argument]) := by
  have reached := foldlM_take_of_words? read
  have quoted := foldlM_take_inQuotes free words []
  rw [words?, String.toList_append, String.toList_append, String.toList_append,
    List.foldlM_append, List.foldlM_append, List.foldlM_append, reached]
  simp [take, quoted, finish]

end TimedRelease.Shell
