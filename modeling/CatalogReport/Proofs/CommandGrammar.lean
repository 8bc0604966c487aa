import CatalogReport.Command.MetaCommand
import CatalogReport.Proofs.JsonText
import CatalogReport.Proofs.Words

/-!
# The grammar of command lines

`Spells name args command` is the grammar: the words that a command is written with, production by
production. The reader decides by prefixes of the name, in an order of its own, and takes letters of
kinds off greedily, but it reads the grammar and nothing else (`ofWords_eq_ok_iff`): no letter of a
kind is a modifier, so those letters end at one place only (`kinded_iff`), and none of them names a
production (`Kinded.head_mem`).
-/

namespace CatalogReport.MetaCommand

/-! ## Grammar -/

/-- At most one argument, and the pattern that it gives. -/
inductive Argument : List String → String → Prop where
  | missing : Argument [] ""
  | given (pattern : String) : Argument [pattern] pattern

/-- A number of 64 bits in decimal digits, perhaps after a plus sign. -/
inductive Counts : List Char → Nat → Prop where
  | plain {digits : List Char} (h : Draft.IsDigits digits)
      (fits : Nat.ofDigitChars 10 digits 0 < UInt64.size) :
      Counts digits (Nat.ofDigitChars 10 digits 0)
  | plus {digits : List Char} (h : Draft.IsDigits digits)
      (fits : Nat.ofDigitChars 10 digits 0 < UInt64.size) :
      Counts ('+' :: digits) (Nat.ofDigitChars 10 digits 0)

structure Kinded (kinds letters codes mods : List Char) : Prop where
  letters_eq : letters = codes ++ mods
  codes_subset : codes ⊆ kinds
  mods_subset : mods ⊆ ['S', '+']

/-- What stands after `d` when no letter says which objects: schemas without a pattern, relations
that match one, or relations of some kinds. -/
inductive Plain : List Char → List String → MetaCommand → Prop where
  | schemas {mods : List Char} (h : mods ⊆ ['S', '+']) :
      Plain mods [] (.listSchemas "" (mods.contains '+') (mods.contains 'S'))
  | relations {mods : List Char} (h : mods ⊆ ['S', '+']) {pattern : String}
      (nonempty : pattern ≠ "") :
      Plain mods [pattern] (.describeRelations pattern (mods.contains '+') (mods.contains 'S'))
  | tables {letters codes mods : List Char} (h : Kinded ['t', 'v', 'm', 's'] letters codes mods)
      (typed : codes ≠ []) {args : List String} {pattern : String} (arg : Argument args pattern) :
      Plain letters args
        (.listTables (String.ofList codes) pattern (mods.contains '+') (mods.contains 'S'))

/-- The words of a command: its name without the backslash, and its arguments. -/
inductive Spells : List Char → List String → MetaCommand → Prop where
  | stats {mods : List Char} (h : mods ⊆ ['+']) (pattern : String) :
      Spells ('s' :: 's' :: mods) [pattern] (.showStats pattern (mods.contains '+') 3)
  | statsTop {mods : List Char} (h : mods ⊆ ['+']) (pattern : String) {word : String} {k : Nat}
      (count : Counts word.toList k) :
      Spells ('s' :: 's' :: mods) [pattern, word] (.showStats pattern (mods.contains '+') k)
  | databases {mods : List Char} (h : mods ⊆ ['+']) {args : List String} {pattern : String}
      (arg : Argument args pattern) :
      Spells ('l' :: mods) args (.listDatabases pattern (mods.contains '+'))
  | schemas {mods : List Char} (h : mods ⊆ ['S', '+']) {args : List String} {pattern : String}
      (arg : Argument args pattern) :
      Spells ('d' :: 'n' :: mods) args
        (.listSchemas pattern (mods.contains '+') (mods.contains 'S'))
  | indexes {mods : List Char} (h : mods ⊆ ['S', '+']) {args : List String} {pattern : String}
      (arg : Argument args pattern) :
      Spells ('d' :: 'i' :: mods) args
        (.listIndexes pattern (mods.contains '+') (mods.contains 'S'))
  | privileges {mods : List Char} (h : mods ⊆ ['S']) {args : List String} {pattern : String}
      (arg : Argument args pattern) :
      Spells ('d' :: 'p' :: mods) args (.listPrivileges pattern (mods.contains 'S'))
  | functions {letters codes mods : List Char}
      (h : Kinded ['a', 'n', 'p', 't', 'w'] letters codes mods) {args : List String}
      {pattern : String} (arg : Argument args pattern) :
      Spells ('d' :: 'f' :: letters) args
        (.listFunctions (if codes = [] then "anptw" else String.ofList codes) pattern
          (mods.contains '+') (mods.contains 'S'))
  | plain {letters : List Char} {args : List String} {command : MetaCommand}
      (h : Plain letters args command) : Spells ('d' :: letters) args command

/-! ## Arguments, counts and modifiers -/

section

variable {α : Type}

theorem onlyPattern_bind_eq_ok_iff {args : List String} {next : String → Except CommandError α}
    {a : α} :
    onlyPattern args >>= next = .ok a ↔
      ∃ pattern, Argument args pattern ∧ next pattern = .ok a := by
  constructor
  · intro h
    match args, h with
    | [], h => exact ⟨"", .missing, h⟩
    | [pattern], h => exact ⟨pattern, .given pattern, h⟩
  · rintro ⟨pattern, arg, h⟩
    cases arg <;> exact h

theorem modifiers_bind_eq_ok_iff {name : String} {allowed letters : List Char}
    {next : Modifiers → Except CommandError α} {a : α} :
    modifiers name allowed letters >>= next = .ok a ↔
      letters ⊆ allowed ∧ next ⟨letters.contains '+', letters.contains 'S'⟩ = .ok a := by
  unfold modifiers
  cases found : letters.find? fun c => !allowed.contains c with
  | none =>
    have subset : letters ⊆ allowed := by
      intro c hc
      have kept := List.find?_eq_none.1 found c hc
      simpa using kept
    exact ⟨fun h => ⟨subset, h⟩, fun h => h.2⟩
  | some c =>
    have outside : c ∉ allowed := by
      have kept := List.find?_some found
      simpa using kept
    constructor
    · intro h
      cases h
    · rintro ⟨subset, -⟩
      exact absurd (subset (List.mem_of_find?_eq_some found)) outside

end

theorem not_isDigits_iff {cs : List Char} :
    ¬ Draft.IsDigits cs ↔ (cs.isEmpty || !cs.all Char.isDigit) = true := by
  unfold Draft.IsDigits
  rw [← List.all_eq_true, ← List.isEmpty_eq_false_iff]
  cases cs.isEmpty <;> cases cs.all Char.isDigit <;> decide

theorem countOf?_eq_some_iff {word : String} {k : Nat} :
    countOf? word = some k ↔ Counts word.toList k := by
  have decimal (digits : List Char) :
      (if digits.isEmpty || !digits.all Char.isDigit then none
        else
          let n := Draft.natOf (Draft.digitsOf digits)
          if n < UInt64.size then some n else none) = some k ↔
        Draft.IsDigits digits ∧ Nat.ofDigitChars 10 digits 0 < UInt64.size ∧
          Nat.ofDigitChars 10 digits 0 = k := by
    rw [Draft.natOf_digitsOf]
    by_cases h : Draft.IsDigits digits
    · rw [if_neg fun other => not_isDigits_iff.2 other h]
      simp [h]
    · rw [if_pos (not_isDigits_iff.1 h)]
      simp [h]
  unfold countOf?
  generalize word.toList = cs
  split
  case h_1 digits =>
    rw [decimal]
    constructor
    · rintro ⟨h, fits, rfl⟩
      exact .plus h fits
    · intro h
      cases h with
      | plain h => exact absurd (h.2 '+' List.mem_cons_self) (by decide)
      | plus h fits => exact ⟨h, fits, rfl⟩
  case h_2 unsigned =>
    rw [decimal]
    constructor
    · rintro ⟨h, fits, rfl⟩
      exact .plain h fits
    · intro h
      cases h with
      | plain h fits => exact ⟨h, fits, rfl⟩
      | plus h => exact absurd rfl (unsigned _)

/-! ## Letters of kinds -/

theorem kinded_of_subset (kinds : List Char) {mods : List Char} (h : mods ⊆ ['S', '+']) :
    Kinded kinds mods [] mods :=
  ⟨rfl, List.nil_subset kinds, h⟩

theorem not_mem_relationCodes : ∀ c ∈ ['S', '+'], c ∉ relationCodes := by
  simp [relationCodes]

theorem not_mem_functionCodes : ∀ c ∈ ['S', '+'], c ∉ functionCodes := by
  simp [functionCodes]

theorem Kinded.head_mem {kinds letters codes mods : List Char}
    (h : Kinded kinds letters codes mods) :
    ∀ c ∈ letters.head?, c ∈ kinds ++ ['S', '+'] := by
  intro c hc
  have front : c ∈ codes ++ mods := h.letters_eq ▸ List.mem_of_mem_head? hc
  rcases List.mem_append.1 front with kind | modifier
  · exact List.mem_append_left _ (h.codes_subset kind)
  · exact List.mem_append_right _ (h.mods_subset modifier)

/-- When no modifier is a letter of a kind, the letters of kinds end at the first that is none. -/
theorem kinded_iff {kinds letters codes mods : List Char} (apart : ∀ c ∈ ['S', '+'], c ∉ kinds) :
    Kinded kinds letters codes mods ↔
      codes = letters.takeWhile kinds.contains ∧ mods = letters.dropWhile kinds.contains ∧
        mods ⊆ ['S', '+'] := by
  constructor
  · rintro ⟨rfl, inside, allowed⟩
    have front : ∀ c ∈ codes, kinds.contains c = true :=
      fun c hc => List.contains_iff_mem.2 (inside hc)
    rw [List.takeWhile_append_of_pos front, List.dropWhile_append_of_pos front]
    cases mods with
    | nil => simp
    | cons c mods =>
      have stops : ¬ kinds.contains c = true :=
        fun kind => apart c (allowed List.mem_cons_self) (List.contains_iff_mem.1 kind)
      rw [List.takeWhile_cons_of_neg stops, List.dropWhile_cons_of_neg stops, List.append_nil]
      exact ⟨rfl, rfl, allowed⟩
  · rintro ⟨rfl, rfl, allowed⟩
    refine ⟨List.takeWhile_append_dropWhile.symm, fun c hc => ?_, allowed⟩
    exact List.contains_iff_mem.1 (List.all_eq_true.1 List.all_takeWhile c hc)

/-! ## Productions -/

section

variable {name : String} {letters : List Char} {args : List String} {pattern : String}
  {command : MetaCommand}

theorem ofStatsName_eq_ok_iff :
    ofStatsName name letters args = .ok command ↔ Spells ('s' :: 's' :: letters) args command := by
  unfold ofStatsName
  rw [modifiers_bind_eq_ok_iff]
  constructor
  · rintro ⟨allowed, h⟩
    match args, h with
    | [pattern], h =>
      cases h
      exact .stats allowed pattern
    | [pattern, word], h =>
      simp only at h
      split at h
      · rename_i k count
        cases h
        exact .statsTop allowed pattern (countOf?_eq_some_iff.1 count)
      · cases h
  · intro h
    cases h with
    | stats allowed pattern => exact ⟨allowed, rfl⟩
    | statsTop allowed pattern count =>
      refine ⟨allowed, ?_⟩
      simp only [countOf?_eq_some_iff.2 count]

def plainCommand (codes mods : List Char) (pattern : String) : MetaCommand :=
  if !codes.isEmpty then
    .listTables (String.ofList codes) pattern (mods.contains '+') (mods.contains 'S')
  else if pattern.isEmpty then
    .listSchemas pattern (mods.contains '+') (mods.contains 'S')
  else .describeRelations pattern (mods.contains '+') (mods.contains 'S')

theorem plain_of_kinded {codes mods : List Char} (kinded : Kinded relationCodes letters codes mods)
    (arg : Argument args pattern) (present : ∀ a ∈ args, a ≠ "") :
    Plain letters args (plainCommand codes mods pattern) := by
  unfold plainCommand
  by_cases typed : codes = []
  · subst typed
    have same : letters = mods := kinded.letters_eq
    subst same
    cases arg with
    | missing => exact .schemas kinded.mods_subset
    | given =>
      have nonempty : pattern ≠ "" := present pattern List.mem_cons_self
      rw [if_neg (by simp), if_neg (by simpa using nonempty)]
      exact .relations kinded.mods_subset nonempty
  · rw [if_pos (by simpa using typed)]
    exact .tables kinded typed arg

theorem Plain.kinded (h : Plain letters args command) :
    ∃ codes mods pattern, Kinded relationCodes letters codes mods ∧ Argument args pattern ∧
      command = plainCommand codes mods pattern := by
  cases h with
  | schemas allowed => exact ⟨[], _, "", kinded_of_subset relationCodes allowed, .missing, rfl⟩
  | relations allowed nonempty =>
    refine ⟨[], _, _, kinded_of_subset relationCodes allowed, .given _, ?_⟩
    simp [plainCommand, nonempty]
  | tables kinded typed arg =>
    refine ⟨_, _, _, kinded, arg, ?_⟩
    simp [plainCommand, typed]

/-- Letters of relations and modifiers are read as such: none of them names a production first. -/
theorem ofDetailName_of_kinded {codes mods : List Char}
    (kinded : Kinded relationCodes letters codes mods) :
    ofDetailName name letters pattern = .ok (plainCommand codes mods pattern) := by
  obtain ⟨front, back, allowed⟩ := (kinded_iff not_mem_relationCodes).1 kinded
  have first := kinded.head_mem
  unfold ofDetailName
  split
  case h_1 => exact absurd (first 'n' rfl) (by decide)
  case h_2 => exact absurd (first 'i' rfl) (by decide)
  case h_3 => exact absurd (first 'p' rfl) (by decide)
  case h_4 => exact absurd (first 'f' rfl) (by decide)
  case h_5 =>
    -- Without letters of relations the name is known when a modifier or nothing follows.
    have known : mods.head?.all ['S', '+'].contains = true := by
      cases mods with
      | nil => rfl
      | cons c mods => exact List.contains_iff_mem.2 (allowed List.mem_cons_self)
    simp only [← front, ← back]
    rw [if_neg (by simp [known])]
    exact modifiers_bind_eq_ok_iff.2 ⟨allowed, rfl⟩

theorem functionCodes_text (codes : List Char) :
    String.ofList (if codes.isEmpty then functionCodes else codes) =
      if codes = [] then "anptw" else String.ofList codes := by
  cases codes <;> rfl

theorem spells_of_ofDetailName (h : ofDetailName name letters pattern = .ok command)
    (arg : Argument args pattern) (present : ∀ a ∈ args, a ≠ "") :
    Spells ('d' :: letters) args command := by
  unfold ofDetailName at h
  split at h
  case h_1 =>
    obtain ⟨allowed, h⟩ := modifiers_bind_eq_ok_iff.1 h
    cases h
    exact .schemas allowed arg
  case h_2 =>
    obtain ⟨allowed, h⟩ := modifiers_bind_eq_ok_iff.1 h
    cases h
    exact .indexes allowed arg
  case h_3 =>
    obtain ⟨allowed, h⟩ := modifiers_bind_eq_ok_iff.1 h
    cases h
    exact .privileges allowed arg
  case h_4 =>
    obtain ⟨allowed, h⟩ := modifiers_bind_eq_ok_iff.1 h
    cases h
    rw [functionCodes_text]
    exact .functions ((kinded_iff not_mem_functionCodes).2 ⟨rfl, rfl, allowed⟩) arg
  case h_5 =>
    simp only at h
    split at h
    · cases h
    · obtain ⟨allowed, h⟩ := modifiers_bind_eq_ok_iff.1 h
      cases h
      have kinded := (kinded_iff not_mem_relationCodes).2 ⟨rfl, rfl, allowed⟩
      exact .plain (plain_of_kinded kinded arg present)

theorem spells_of_ofWords (h : ofWords name args = .ok command) (present : ∀ a ∈ args, a ≠ "") :
    Spells name.toList args command := by
  unfold ofWords at h
  split at h
  case h_1 letters e =>
    rw [e]
    exact ofStatsName_eq_ok_iff.1 h
  case h_2 =>
    obtain ⟨pattern, arg, h⟩ := onlyPattern_bind_eq_ok_iff.1 h
    split at h
    case h_1 mods e =>
      obtain ⟨allowed, h⟩ := modifiers_bind_eq_ok_iff.1 h
      cases h
      rw [e]
      exact .databases allowed arg
    case h_2 letters e =>
      rw [e]
      exact spells_of_ofDetailName h arg present
    case h_3 => cases h

theorem Spells.ofWords_eq (h : Spells name.toList args command) :
    ofWords name args = .ok command := by
  -- Errors name the whole name, so only the letters that are matched are replaced.
  generalize e : name.toList = cs at h
  unfold ofWords
  rw [e]
  cases h with
  | stats allowed pattern => exact ofStatsName_eq_ok_iff.2 (.stats allowed pattern)
  | statsTop allowed pattern count =>
    exact ofStatsName_eq_ok_iff.2 (.statsTop allowed pattern count)
  | databases allowed arg =>
    refine onlyPattern_bind_eq_ok_iff.2 ⟨_, arg, ?_⟩
    exact modifiers_bind_eq_ok_iff.2 ⟨allowed, rfl⟩
  | schemas allowed arg =>
    refine onlyPattern_bind_eq_ok_iff.2 ⟨_, arg, ?_⟩
    exact modifiers_bind_eq_ok_iff.2 ⟨allowed, rfl⟩
  | indexes allowed arg =>
    refine onlyPattern_bind_eq_ok_iff.2 ⟨_, arg, ?_⟩
    exact modifiers_bind_eq_ok_iff.2 ⟨allowed, rfl⟩
  | privileges allowed arg =>
    refine onlyPattern_bind_eq_ok_iff.2 ⟨_, arg, ?_⟩
    exact modifiers_bind_eq_ok_iff.2 ⟨allowed, rfl⟩
  | functions kinded arg =>
    obtain ⟨rfl, rfl, allowed⟩ := (kinded_iff not_mem_functionCodes).1 kinded
    refine onlyPattern_bind_eq_ok_iff.2 ⟨_, arg, ?_⟩
    refine modifiers_bind_eq_ok_iff.2 ⟨allowed, ?_⟩
    rw [functionCodes_text]
  | plain h =>
    obtain ⟨codes, mods, pattern, kinded, arg, rfl⟩ := h.kinded
    exact onlyPattern_bind_eq_ok_iff.2 ⟨pattern, arg, ofDetailName_of_kinded kinded⟩

end

theorem ofWords_eq_ok_iff {name : String} {args : List String} {command : MetaCommand}
    (present : ∀ a ∈ args, a ≠ "") :
    ofWords name args = .ok command ↔ Spells name.toList args command :=
  ⟨fun h => spells_of_ofWords h present, Spells.ofWords_eq⟩

/-! ## Lines -/

/-- What stands after the backslash. -/
theorem words_eq_ok_iff {body : List Char} {command : MetaCommand} :
    (match (Text.wordsOf body).map String.ofList with
      | [] => ofWords "" []
      | name :: args => ofWords name args) = .ok command ↔
      ∃ name args, Text.Splits body (name :: args) ∧
        Spells name (args.map String.ofList) command := by
  cases found : Text.wordsOf body with
  | nil =>
    constructor
    · intro h
      cases h
    · rintro ⟨name, args, splits, -⟩
      rw [splits.wordsOf_eq] at found
      cases found
  | cons name args =>
    have present : ∀ a ∈ args.map String.ofList, a ≠ "" := by
      intro a ha
      obtain ⟨word, hw, rfl⟩ := List.mem_map.1 ha
      have nonempty : word ≠ [] :=
        Text.ne_nil_of_mem_wordsOf (found ▸ List.mem_cons_of_mem name hw)
      exact fun e => nonempty (String.ofList_inj.1 e)
    have read : ofWords (String.ofList name) (args.map String.ofList) = .ok command ↔ _ :=
      ofWords_eq_ok_iff present
    rw [String.toList_ofList] at read
    refine read.trans ⟨fun h => ⟨name, args, Text.splits_iff.2 found, h⟩, ?_⟩
    rintro ⟨name', args', splits, h⟩
    rw [splits.wordsOf_eq] at found
    cases found
    exact h

/-- A line is a command just when it is a backslash and the words of that command, with blanks
before the backslash and anywhere between and after the words. -/
theorem parse_eq_ok_iff (line : String) (command : MetaCommand) :
    parse line = .ok command ↔
      ∃ blanks body name args,
        line.toList = blanks ++ '\\' :: body ∧ (∀ b ∈ blanks, Text.isBlank b = true) ∧
        Text.Splits body (name :: args) ∧ Spells name (args.map String.ofList) command := by
  unfold parse Text.trim
  simp only [String.toList_ofList]
  constructor
  · intro h
    split at h
    · rename_i body trimmed
      obtain ⟨name, args, splits, spelled⟩ := words_eq_ok_iff.1 h
      obtain ⟨front, back, e, frontBlank, backBlank⟩ := Text.trimOf_append line.toList
      refine ⟨front, body ++ back, name, args, ?_, frontBlank, ?_, spelled⟩
      · rw [e, trimmed, List.append_assoc, List.cons_append]
      · rw [Text.splits_iff, Text.wordsOf_append_blanks backBlank]
        exact splits.wordsOf_eq
    · cases h
  · rintro ⟨blanks, body, name, args, e, blank, splits, spelled⟩
    have trimmed : Text.trimOf line.toList = '\\' :: Text.trimEndOf body := by
      rw [e, Text.trimOf_append_cons blank (by decide)]
    rw [trimmed]
    refine words_eq_ok_iff.2 ⟨name, args, ?_, spelled⟩
    rw [Text.splits_iff, Text.wordsOf_trimEndOf]
    exact splits.wordsOf_eq

example : parse "\t\\df+S  lo% " = .ok (.listFunctions "anptw" "lo%" true true) := by
  rfl

end CatalogReport.MetaCommand
