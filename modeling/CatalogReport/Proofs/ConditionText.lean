import CatalogReport.Proofs.Criteria
import CatalogReport.Proofs.Words

/-!
# Reading a condition

What a database makes of the text of a condition and of the values bound to it. The text is split
into words, parentheses and commas (`wordsOf`); placeholders become the values that they stand for
(`tokensFrom`), and what stands between two `AND`s is read as a clause (`clause?`). The text that
the statement for some clauses has reads as these clauses (`read_conditionText`).
-/

namespace CatalogReport.Condition

/-! ## The reader -/

inductive Token where
  | start
  | both
  | like
  | among
  | negation
  | opening
  | closing
  | comma
  | column (name : String)
  | value (value : String)
  | other
  deriving DecidableEq, Repr

def isSign (c : Char) : Bool :=
  c == '(' || c == ')' || c == ','

def spaced (cs : List Char) : List Char :=
  cs.flatMap fun c => if isSign c then [' ', c, ' '] else [c]

def wordsOf (cs : List Char) : List (List Char) :=
  Text.wordsOf (spaced cs)

/-- The words that do not name a column. -/
def keywords : List (List Char × Token) :=
  [("WHERE".toList, .start), ("AND".toList, .both), ("LIKE".toList, .like), ("IN".toList, .among),
    ("NOT".toList, .negation), (['('], .opening), ([')'], .closing), ([','], .comma)]

def Token.ofWord : List Char → Token
  | 'q' :: '.' :: name => .column (String.ofList name)
  | word => (keywords.lookup word).getD .other

/-- The place of the value that a word stands for, if it is a placeholder, after `n` others. A
placeholder without a number stands for the next value. -/
def place? (e : Engine) (n : Nat) (word : List Char) : Option Nat :=
  match e, word with
  | .postgres, '$' :: digits =>
    if digits.all Char.isDigit then
      match Nat.ofDigitChars 10 digits 0 with
      | 0 => none
      | place + 1 => some place
    else none
  | .mysql, ['?'] | .sqlite, ['?'] => some n
  | _, _ => none

/-- The words with values for placeholders, after `n` of these. -/
def tokensFrom (e : Engine) (binds : List String) : Nat → List (List Char) → List Token
  | _, [] => []
  | n, word :: words =>
    match place? e n word with
    | some place => (binds[place]?.elim .other .value) :: tokensFrom e binds (n + 1) words
    | none => .ofWord word :: tokensFrom e binds n words

/-- The values up to the closing parenthesis; there is at least one. -/
def values? : List Token → Option (List String)
  | [.value v, .closing] => some [v]
  | .value v :: .comma :: rest => (values? rest).map (v :: ·)
  | _ => none

def clause? : List Token → Option Clause
  | [.column name, .like, .value pattern] => some (.like name pattern)
  | .column name :: .among :: .opening :: rest => (values? rest).map (.among name)
  | .column name :: .negation :: .among :: .opening :: rest => (values? rest).map (.outside name)
  | _ => none

/-- The clauses of a condition; an empty text has none. -/
def read (e : Engine) (binds : List String) (text : String) : Option (List Clause) :=
  match tokensFrom e binds 0 (wordsOf text.toList) with
  | [] => some []
  | .start :: rest => (rest.splitOn .both).mapM clause?
  | _ => none

/-! ## Words -/

def isSolid (c : Char) : Bool :=
  !Text.isBlank c && !isSign c

theorem isSolid_iff {c : Char} : isSolid c = true ↔ Text.isBlank c = false ∧ isSign c = false := by
  simp [isSolid]

theorem spaced_append (cs cs' : List Char) : spaced (cs ++ cs') = spaced cs ++ spaced cs' :=
  List.flatMap_append

theorem spaced_of_solid {cs : List Char} (h : ∀ c ∈ cs, isSolid c = true) : spaced cs = cs := by
  induction cs with
  | nil => rfl
  | cons c cs ih =>
    have plain := (isSolid_iff.1 (h c List.mem_cons_self)).2
    have rest := ih fun d listed => h d (List.mem_cons_of_mem c listed)
    unfold spaced at rest ⊢
    rw [List.flatMap_cons, rest, plain]
    rfl

theorem wordsOf_append_blank (left right : List Char) :
    wordsOf (left ++ ' ' :: right) = wordsOf left ++ wordsOf right := by
  unfold wordsOf
  rw [spaced_append]
  exact Text.wordsOf_append_cons rfl _ _

theorem wordsOf_append_sign {c : Char} (h : isSign c = true) (left right : List Char) :
    wordsOf (left ++ c :: right) = wordsOf left ++ [c] :: wordsOf right := by
  have alone : Text.wordsOf [c] = [[c]] := by
    simp only [isSign, Bool.or_eq_true, beq_iff_eq] at h
    rcases h with (rfl | rfl) | rfl <;> rfl
  have split :
      spaced (left ++ c :: right) = spaced left ++ ' ' :: ([c] ++ ' ' :: spaced right) := by
    rw [spaced_append]
    unfold spaced
    rw [List.flatMap_cons, h]
    rfl
  unfold wordsOf
  rw [split, Text.wordsOf_append_cons rfl, Text.wordsOf_append_cons rfl, alone]
  rfl

theorem wordsOf_solid {word : List Char} (nonempty : word ≠ []) (h : ∀ c ∈ word, isSolid c = true) :
    wordsOf word = [word] := by
  have solid : ∀ c ∈ word, Text.isBlank c = false := fun c listed => (isSolid_iff.1 (h c listed)).1
  have alone : Text.wordsOf (word ++ []) = word :: Text.wordsOf [] :=
    Text.wordsOf_word nonempty solid nofun
  rw [List.append_nil] at alone
  unfold wordsOf
  rw [spaced_of_solid h]
  exact alone

/-! ## Placeholders -/

theorem isSolid_of_bounds {c : Char} (low : 44 < c.toNat) (high : c.toNat < 133) :
    isSolid c = true := by
  have sign : isSign c = false := by
    simp only [isSign, Bool.or_eq_false_iff, beq_eq_false_iff_ne]
    refine ⟨⟨?_, ?_⟩, ?_⟩ <;> rintro rfl <;> revert low <;> decide
  have blank : Text.isBlank c = false := by
    simp only [Text.isBlank, Bool.or_eq_false_iff, Bool.and_eq_false_iff, decide_eq_false_iff_not,
      beq_eq_false_iff_ne]
    omega
  exact isSolid_iff.2 ⟨blank, sign⟩

theorem isSolid_of_isDigit {c : Char} (h : c.isDigit = true) : isSolid c = true := by
  have bounds : 48 ≤ c.toNat ∧ c.toNat ≤ 57 := by
    simpa [Char.isDigit, UInt32.le_iff_toNat_le] using h
  exact isSolid_of_bounds (by omega) (by omega)

theorem isSolid_of_isColumnChar {c : Char} (h : Kind.isColumnChar c = true) : isSolid c = true := by
  unfold Kind.isColumnChar at h
  rcases Bool.or_eq_true_iff.1 h with lower | underscore
  · have bounds : 97 ≤ c.toNat ∧ c.toNat ≤ 122 := by
      change (decide (97 ≤ c.val) && decide (c.val ≤ 122)) = true at lower
      simpa [UInt32.le_iff_toNat_le] using lower
    exact isSolid_of_bounds (by omega) (by omega)
  · obtain rfl := beq_iff_eq.1 underscore
    rfl

theorem wordsOf_placeholder (e : Engine) (n : Nat) :
    wordsOf (e.placeholder n).toList = [(e.placeholder n).toList] := by
  cases e with
  | postgres =>
    have spelled : (Engine.postgres.placeholder n).toList = '$' :: Nat.toDigits 10 n := by
      simp [Engine.placeholder]
    rw [spelled]
    refine wordsOf_solid (List.cons_ne_nil _ _) fun c listed => ?_
    rcases List.mem_cons.1 listed with rfl | digit
    · rfl
    · exact isSolid_of_isDigit (Nat.isDigit_of_mem_toDigits (by decide) (by decide) digit)
  | mysql | sqlite =>
    simp only [Engine.placeholder, String.reduceToList]
    rfl

theorem place?_placeholder (e : Engine) (n : Nat) :
    place? e n (e.placeholder (n + 1)).toList = some n := by
  cases e with
  | postgres =>
    have spelled :
        (Engine.postgres.placeholder (n + 1)).toList = '$' :: Nat.toDigits 10 (n + 1) := by
      simp [Engine.placeholder]
    have digits : (Nat.toDigits 10 (n + 1)).all Char.isDigit = true :=
      List.all_eq_true.2 fun c h => Nat.isDigit_of_mem_toDigits (by decide) (by decide) h
    rw [spelled]
    simp only [place?, digits, if_true, Nat.ofDigitChars_ten_toDigits]
  | mysql | sqlite =>
    simp only [Engine.placeholder, String.reduceToList]
    rfl

theorem tokensFrom_placeholder {e : Engine} {binds after : List String} {n : Nat} {v : String}
    (h : binds.drop n = v :: after) (words : List (List Char)) :
    tokensFrom e binds n ((e.placeholder (n + 1)).toList :: words) =
      .value v :: tokensFrom e binds (n + 1) words := by
  have bound : binds[n]? = some v := by
    have first := congrArg List.head? h
    rwa [List.head?_drop] at first
  simp only [tokensFrom, place?_placeholder, bound, Option.elim_some]

theorem tokensFrom_plain {e : Engine} {word : List Char} (h : ∀ n, place? e n word = none)
    (binds : List String) (n : Nat) (words : List (List Char)) :
    tokensFrom e binds n (word :: words) = Token.ofWord word :: tokensFrom e binds n words := by
  simp only [tokensFrom, h n]

/-! ## Lists of values -/

def valueWords (e : Engine) : Nat → Nat → List (List Char)
  | _, 0 => [[')']]
  | n, 1 => [(e.placeholder n).toList, [')']]
  | n, count + 2 => (e.placeholder n).toList :: [','] :: valueWords e (n + 1) (count + 1)

def valueTokens : List String → List Token
  | [] => [.closing]
  | [v] => [.value v, .closing]
  | v :: w :: rest => .value v :: .comma :: valueTokens (w :: rest)

theorem wordsOf_placeholders (e : Engine) (n count : Nat) :
    wordsOf ((Clause.placeholders e n count).toList ++ [')']) = valueWords e n count := by
  unfold Clause.placeholders
  rw [String.toList_intercalate, List.map_map]
  induction count generalizing n with
  | zero => rfl
  | succ count ih =>
    cases count with
    | zero =>
      rw [List.range'_one, List.map_singleton, List.intercalate_singleton, Function.comp_apply,
        wordsOf_append_sign rfl, wordsOf_placeholder]
      rfl
    | succ count =>
      have rest := ih (n + 1)
      rw [List.range'_succ, List.map_cons] at rest
      rw [List.range'_succ, List.range'_succ, List.map_cons, List.map_cons,
        List.intercalate_cons_cons]
      have comma (left right : List Char) :
          left ++ ", ".toList ++ right ++ [')'] =
            left ++ ',' :: ([] ++ ' ' :: (right ++ [')'])) := by
        simp
      rw [comma, wordsOf_append_sign rfl, wordsOf_append_blank, rest, Function.comp_apply,
        wordsOf_placeholder]
      rfl

theorem place?_sign (e : Engine) {c : Char} (h : isSign c = true) (n : Nat) :
    place? e n [c] = none := by
  simp only [isSign, Bool.or_eq_true, beq_iff_eq] at h
  rcases h with (rfl | rfl) | rfl <;> cases e <;> rfl

theorem tokensFrom_valueWords {e : Engine} {binds values after : List String} {n : Nat}
    (h : binds.drop n = values ++ after) (words : List (List Char)) :
    tokensFrom e binds n (valueWords e (n + 1) values.length ++ words) =
      valueTokens values ++ tokensFrom e binds (n + values.length) words := by
  induction values generalizing n with
  | nil => exact tokensFrom_plain (place?_sign e rfl) _ _ _
  | cons v values ih =>
    cases values with
    | nil =>
      rw [List.length_singleton, valueWords, List.cons_append, tokensFrom_placeholder h,
        List.cons_append, tokensFrom_plain (place?_sign e rfl)]
      rfl
    | cons w rest =>
      -- After one more placeholder the values that are left begin with the next one.
      have tail : binds.drop (n + 1) = w :: rest ++ after := by
        rw [← List.tail_drop, h]
        rfl
      have later := ih tail
      rw [List.length_cons] at later
      rw [List.length_cons, List.length_cons, valueWords, List.cons_append,
        tokensFrom_placeholder h, List.cons_append, tokensFrom_plain (place?_sign e rfl), later,
        Nat.add_assoc n 1, Nat.add_comm 1]
      rfl

theorem values?_valueTokens {values : List String} (nonempty : values ≠ []) :
    values? (valueTokens values) = some values := by
  induction values with
  | nil => exact absurd rfl nonempty
  | cons v values ih =>
    cases values with
    | nil => rfl
    | cons w rest =>
      have later := ih (List.cons_ne_nil _ _)
      simp only [valueTokens, values?, later, Option.map_some]

/-! ## Clauses -/

def columnWord (column : String) : List Char :=
  'q' :: '.' :: column.toList

/-- The words of a clause whose first value is the `n`th. -/
def clauseWords (e : Engine) (n : Nat) : Clause → List (List Char)
  | .like column _ => [columnWord column, "LIKE".toList, (e.placeholder n).toList]
  | .among column values =>
    columnWord column :: "IN".toList :: ['('] :: valueWords e n values.length
  | .outside column values =>
    columnWord column :: "NOT".toList :: "IN".toList :: ['('] :: valueWords e n values.length

def clauseTokens : Clause → List Token
  | .like column pattern => [.column column, .like, .value pattern]
  | .among column values => .column column :: .among :: .opening :: valueTokens values
  | .outside column values =>
    .column column :: .negation :: .among :: .opening :: valueTokens values

theorem wordsOf_text {clause : Clause} (plain : ∀ c ∈ clause.column.toList, isSolid c = true)
    (e : Engine) (n : Nat) : wordsOf (clause.text e n).toList = clauseWords e n clause := by
  have column : wordsOf (columnWord clause.column) = [columnWord clause.column] := by
    refine wordsOf_solid (List.cons_ne_nil _ _) fun c listed => ?_
    rcases List.mem_cons.1 listed with rfl | listed
    · rfl
    · rcases List.mem_cons.1 listed with rfl | listed
      · rfl
      · exact plain c listed
  cases clause with
  | like name pattern =>
    have spelled : (Clause.text e n (.like name pattern)).toList =
        columnWord name ++ ' ' :: ("LIKE".toList ++ ' ' :: (e.placeholder n).toList) := by
      simp [Clause.text, columnWord]
    rw [spelled, wordsOf_append_blank, wordsOf_append_blank, wordsOf_placeholder]
    exact congrArg (· ++ _) column
  | among name values =>
    have spelled : (Clause.text e n (.among name values)).toList =
        columnWord name ++ ' ' :: ("IN".toList ++ ' ' :: ([] ++
          '(' :: ((Clause.placeholders e n values.length).toList ++ [')']))) := by
      simp [Clause.text, columnWord]
    rw [spelled, wordsOf_append_blank, wordsOf_append_blank, wordsOf_append_sign rfl,
      wordsOf_placeholders]
    exact congrArg (· ++ _) column
  | outside name values =>
    have spelled : (Clause.text e n (.outside name values)).toList =
        columnWord name ++ ' ' :: ("NOT".toList ++ ' ' :: ("IN".toList ++ ' ' :: ([] ++
          '(' :: ((Clause.placeholders e n values.length).toList ++ [')'])))) := by
      simp [Clause.text, columnWord]
    rw [spelled, wordsOf_append_blank, wordsOf_append_blank, wordsOf_append_blank,
      wordsOf_append_sign rfl, wordsOf_placeholders]
    exact congrArg (· ++ _) column

theorem tokensFrom_columnWord (e : Engine) (column : String) (binds : List String) (n : Nat)
    (words : List (List Char)) :
    tokensFrom e binds n (columnWord column :: words) =
      .column column :: tokensFrom e binds n words := by
  have plain : ∀ n, place? e n (columnWord column) = none := fun n => by cases e <;> rfl
  have named : Token.ofWord (columnWord column) = .column column := by
    simp [columnWord, Token.ofWord]
  rw [tokensFrom_plain plain, named]

theorem tokensFrom_clause {e : Engine} {clause : Clause} {binds after : List String} {n : Nat}
    (h : binds.drop n = clause.binds ++ after) (words : List (List Char)) :
    tokensFrom e binds n (clauseWords e (n + 1) clause ++ words) =
      clauseTokens clause ++ tokensFrom e binds (n + clause.binds.length) words := by
  have like : ∀ n, place? e n "LIKE".toList = none := fun n => by cases e <;> rfl
  have among : ∀ n, place? e n "IN".toList = none := fun n => by cases e <;> rfl
  have negation : ∀ n, place? e n "NOT".toList = none := fun n => by cases e <;> rfl
  cases clause with
  | like column pattern =>
    rw [clauseWords, List.cons_append, tokensFrom_columnWord, List.cons_append,
      tokensFrom_plain like, List.cons_append, tokensFrom_placeholder h]
    rfl
  | among column values =>
    have list : binds.drop n = values ++ after := h
    rw [clauseWords, List.cons_append, tokensFrom_columnWord, List.cons_append,
      tokensFrom_plain among, List.cons_append, tokensFrom_plain (place?_sign e rfl),
      tokensFrom_valueWords list]
    rfl
  | outside column values =>
    have list : binds.drop n = values ++ after := h
    rw [clauseWords, List.cons_append, tokensFrom_columnWord, List.cons_append,
      tokensFrom_plain negation, List.cons_append, tokensFrom_plain among, List.cons_append,
      tokensFrom_plain (place?_sign e rfl), tokensFrom_valueWords list]
    rfl

theorem clause?_clauseTokens {clause : Clause} (nonempty : clause.binds ≠ []) :
    clause? (clauseTokens clause) = some clause := by
  cases clause with
  | like column pattern => rfl
  | among column values =>
    have some_value : values ≠ [] := nonempty
    simp only [clauseTokens, clause?, values?_valueTokens some_value, Option.map_some]
  | outside column values =>
    have some_value : values ≠ [] := nonempty
    simp only [clauseTokens, clause?, values?_valueTokens some_value, Option.map_some]

/-! ## Conditions -/

theorem wordsOf_conjunction (texts : List (List Char)) :
    wordsOf (" AND ".toList.intercalate texts) =
      ["AND".toList].intercalate (texts.map wordsOf) := by
  induction texts with
  | nil => rfl
  | cons text texts ih =>
    cases texts with
    | nil => simp
    | cons next texts =>
      have spelled (left right : List Char) :
          left ++ " AND ".toList ++ right = left ++ ' ' :: ("AND".toList ++ ' ' :: right) := by
        simp
      rw [List.intercalate_cons_cons, spelled, wordsOf_append_blank, wordsOf_append_blank, ih,
        List.map_cons, List.map_cons, List.map_cons, List.intercalate_cons_cons, List.append_assoc]
      rfl

theorem tokensFrom_conjunction {e : Engine} {clauses : List Clause} {binds : List String} {n : Nat}
    (h : binds.drop n = clauses.flatMap Clause.binds)
    (plain : ∀ clause ∈ clauses, ∀ c ∈ clause.column.toList, isSolid c = true) :
    tokensFrom e binds n (["AND".toList].intercalate
        ((Clause.texts e (n + 1) clauses).map fun text => wordsOf text.toList)) =
      [.both].intercalate (clauses.map clauseTokens) := by
  have both : ∀ n, place? e n "AND".toList = none := fun n => by cases e <;> rfl
  induction clauses generalizing n with
  | nil => rfl
  | cons clause clauses ih =>
    have words := wordsOf_text (plain clause List.mem_cons_self) e (n + 1)
    cases clauses with
    | nil =>
      have alone := tokensFrom_clause (e := e) (n := n) h []
      rw [List.append_nil] at alone
      rw [Clause.texts, Clause.texts, List.map_singleton, List.map_singleton,
        List.intercalate_singleton, List.intercalate_singleton, words, alone]
      exact List.append_nil _
    | cons next clauses =>
      -- After a clause the values that are left are those of the clauses that follow.
      have tail :
          binds.drop (n + clause.binds.length) = (next :: clauses).flatMap Clause.binds := by
        rw [← List.drop_drop, h, List.flatMap_cons, List.drop_left]
      have later := ih tail fun other listed => plain other (List.mem_cons_of_mem _ listed)
      rw [Nat.add_right_comm] at later
      rw [Clause.texts, Clause.texts, List.map_cons, List.map_cons, List.intercalate_cons_cons,
        List.map_cons, List.map_cons, List.intercalate_cons_cons, words, List.append_assoc,
        tokensFrom_clause h]
      rw [Clause.texts, List.map_cons, List.map_cons] at later
      rw [List.singleton_append, tokensFrom_plain both, later, List.append_assoc]
      rfl

theorem not_mem_valueTokens (values : List String) : Token.both ∉ valueTokens values := by
  induction values with
  | nil => simp [valueTokens]
  | cons v values ih => cases values <;> simp_all [valueTokens]

theorem not_mem_clauseTokens (clause : Clause) : Token.both ∉ clauseTokens clause := by
  cases clause <;> simp [clauseTokens, not_mem_valueTokens]

theorem mapM_clauseTokens {clauses : List Clause}
    (nonempty : ∀ clause ∈ clauses, clause.binds ≠ []) :
    (clauses.map clauseTokens).mapM clause? = some clauses := by
  induction clauses with
  | nil => rfl
  | cons clause clauses ih =>
    have first := clause?_clauseTokens (nonempty clause List.mem_cons_self)
    have rest := ih fun other listed => nonempty other (List.mem_cons_of_mem _ listed)
    rw [List.map_cons, List.mapM_cons, first, rest]
    rfl

/-- The text of a condition and the values bound to it read as the clauses that they are made of. -/
theorem read_conditionText {e : Engine} {clauses : List Clause}
    (plain : ∀ clause ∈ clauses, ∀ c ∈ clause.column.toList, isSolid c = true)
    (nonempty : ∀ clause ∈ clauses, clause.binds ≠ []) :
    read e (clauses.flatMap Clause.binds) (CatalogQuery.conditionText e clauses) =
      some clauses := by
  cases clauses with
  | nil => rfl
  | cons clause clauses =>
    have start : ∀ n, place? e n "WHERE".toList = none := fun n => by cases e <;> rfl
    have spelled : (CatalogQuery.conditionText e (clause :: clauses)).toList =
        [] ++ ' ' :: ("WHERE".toList ++ ' ' ::
          " AND ".toList.intercalate
            ((Clause.texts e 1 (clause :: clauses)).map String.toList)) := by
      simp [CatalogQuery.conditionText, String.toList_intercalate]
    have tokens := tokensFrom_conjunction (e := e) (n := 0) List.drop_zero plain
    have pieces : ([Token.both].intercalate ((clause :: clauses).map clauseTokens)).splitOn .both =
        (clause :: clauses).map clauseTokens := by
      refine List.splitOn_intercalate Token.both (fun piece listed => ?_) (List.cons_ne_nil _ _)
      obtain ⟨other, -, rfl⟩ := List.mem_map.1 listed
      exact not_mem_clauseTokens other
    have words : wordsOf (CatalogQuery.conditionText e (clause :: clauses)).toList =
        "WHERE".toList :: ["AND".toList].intercalate
          ((Clause.texts e (0 + 1) (clause :: clauses)).map fun text => wordsOf text.toList) := by
      rw [spelled, wordsOf_append_blank, wordsOf_append_blank, wordsOf_conjunction, List.map_map]
      rfl
    unfold read
    rw [words, tokensFrom_plain start, tokens]
    show (List.splitOn Token.both _).mapM clause? = _
    rw [pieces, mapM_clauseTokens nonempty]

/-- Placeholders with and without numbers. -/
example :
    read .postgres ["h%", "T", "V"] " WHERE q.name LIKE $1 AND q.type IN ($2, $3)" =
        some [.like "name" "h%", .among "type" ["T", "V"]] ∧
      read .sqlite ["h%", "sys"] " WHERE q.name LIKE ? AND q.schema NOT IN (?)" =
        some [.like "name" "h%", .outside "schema" ["sys"]] := by
  decide +kernel

end CatalogReport.Condition
