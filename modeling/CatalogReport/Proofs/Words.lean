import CatalogReport.Text.Blank

/-!
# Splitting at blanks

`Splits` says what the words of a text are without the way they are found; a text has one list of
words (`splits_iff`). Everything else follows from the equation for a blank in the middle of a text
(`wordsOf_append_cons`).
-/

namespace CatalogReport.Text

/-- Words without blanks, each followed by a blank or by nothing; further blanks may stand anywhere
between them. -/
inductive Splits : List Char → List (List Char) → Prop where
  | nil : Splits [] []
  | blank {c : Char} {cs : List Char} {words : List (List Char)} (h : isBlank c = true)
      (rest : Splits cs words) : Splits (c :: cs) words
  | word {word cs : List Char} {words : List (List Char)} (nonempty : word ≠ [])
      (solid : ∀ c ∈ word, isBlank c = false) (ends : ∀ c ∈ cs.head?, isBlank c = true)
      (rest : Splits cs words) : Splits (word ++ cs) (word :: words)

theorem pieces_append_cons {p : Char → Bool} {c : Char} (h : p c = true) (left right : List Char) :
    pieces p (left ++ c :: right) = pieces p left ++ pieces p right := by
  induction left with
  | nil => simp [pieces, h]
  | cons d left ih =>
    by_cases hd : p d
    · simp [pieces, hd, ih]
    · cases first : pieces p left with
      | nil => exact absurd first (pieces_ne_nil p left)
      | cons piece rest => simp [pieces, hd, ih, first]

/-- A blank in the middle divides the words. -/
theorem wordsOf_append_cons {c : Char} (h : isBlank c = true) (left right : List Char) :
    wordsOf (left ++ c :: right) = wordsOf left ++ wordsOf right := by
  unfold wordsOf
  rw [pieces_append_cons h, List.filter_append]

theorem wordsOf_cons {c : Char} (h : isBlank c = true) (cs : List Char) :
    wordsOf (c :: cs) = wordsOf cs :=
  wordsOf_append_cons h [] cs

theorem wordsOf_of_blanks {cs : List Char} (h : ∀ c ∈ cs, isBlank c = true) : wordsOf cs = [] := by
  induction cs with
  | nil => rfl
  | cons c cs ih =>
    rw [wordsOf_cons (h c List.mem_cons_self)]
    exact ih fun d hd => h d (List.mem_cons_of_mem c hd)

theorem wordsOf_append_blanks {cs blanks : List Char} (h : ∀ c ∈ blanks, isBlank c = true) :
    wordsOf (cs ++ blanks) = wordsOf cs := by
  cases blanks with
  | nil => rw [List.append_nil]
  | cons c blanks =>
    rw [wordsOf_append_cons (h c List.mem_cons_self),
      wordsOf_of_blanks fun d hd => h d (List.mem_cons_of_mem c hd), List.append_nil]

theorem pieces_of_solid {p : Char → Bool} {cs : List Char} (h : ∀ c ∈ cs, p c = false) :
    pieces p cs = [cs] := by
  induction cs with
  | nil => rfl
  | cons c cs ih =>
    have rest := ih fun d hd => h d (List.mem_cons_of_mem c hd)
    simp [pieces, h c List.mem_cons_self, rest]

theorem wordsOf_word {word cs : List Char} (nonempty : word ≠ [])
    (solid : ∀ c ∈ word, isBlank c = false) (ends : ∀ c ∈ cs.head?, isBlank c = true) :
    wordsOf (word ++ cs) = word :: wordsOf cs := by
  have alone : wordsOf word = [word] := by
    unfold wordsOf
    rw [pieces_of_solid solid]
    simp [nonempty]
  cases cs with
  | nil =>
    rw [List.append_nil, alone]
    rfl
  | cons c cs =>
    have blank := ends c rfl
    rw [wordsOf_append_cons blank, wordsOf_cons blank, alone]
    rfl

theorem Splits.wordsOf_eq {cs : List Char} {words : List (List Char)} (h : Splits cs words) :
    wordsOf cs = words := by
  induction h with
  | nil => rfl
  | blank blank _ ih => rw [wordsOf_cons blank, ih]
  | word nonempty solid ends _ ih => rw [wordsOf_word nonempty solid ends, ih]

theorem splits_wordsOf (cs : List Char) : Splits cs (wordsOf cs) := by
  generalize size : cs.length = n
  induction n using Nat.strongRecOn generalizing cs with
  | ind n ih =>
    cases cs with
    | nil => exact .nil
    | cons c cs =>
      by_cases blank : isBlank c = true
      · rw [wordsOf_cons blank]
        exact .blank blank (ih cs.length (by simp [← size]) cs rfl)
      · -- The text starts with a word, which ends where the first blank is.
        let solid : Char → Bool := fun d => !isBlank d
        have cut := List.takeWhile_append_dropWhile (p := solid) (l := c :: cs)
        have front : (c :: cs).takeWhile solid ≠ [] := by
          simp [solid, blank]
        have word : ∀ d ∈ (c :: cs).takeWhile solid, isBlank d = false := by
          intro d hd
          simpa [solid] using List.all_eq_true.1 List.all_takeWhile d hd
        have ends : ∀ d ∈ ((c :: cs).dropWhile solid).head?, isBlank d = true := by
          intro d hd
          have stops := List.head?_dropWhile_not solid (c :: cs)
          rw [Option.mem_def.1 hd] at stops
          simpa [solid] using stops
        have shorter : ((c :: cs).dropWhile solid).length < n := by
          have sizes := congrArg List.length cut
          rw [List.length_append, size] at sizes
          have := List.length_pos_iff.2 front
          omega
        rw [← cut, wordsOf_word front word ends]
        exact .word front word ends (ih _ shorter _ rfl)

theorem splits_iff {cs : List Char} {words : List (List Char)} :
    Splits cs words ↔ wordsOf cs = words :=
  ⟨Splits.wordsOf_eq, fun h => h ▸ splits_wordsOf cs⟩

/-! ## Trimming -/

theorem trimEndOf_append (cs : List Char) :
    ∃ blanks, cs = trimEndOf cs ++ blanks ∧ ∀ c ∈ blanks, isBlank c = true := by
  refine ⟨(cs.reverse.takeWhile isBlank).reverse, ?_, fun c hc => ?_⟩
  · unfold trimEndOf
    rw [← List.reverse_append, List.takeWhile_append_dropWhile, List.reverse_reverse]
  · exact List.all_eq_true.1 List.all_takeWhile c (List.mem_reverse.1 hc)

theorem trimEndOf_cons {c : Char} (h : isBlank c = false) (cs : List Char) :
    trimEndOf (c :: cs) = c :: trimEndOf cs := by
  unfold trimEndOf
  rw [List.reverse_cons, List.dropWhile_append]
  split
  · rename_i empty
    simp [List.isEmpty_iff.1 empty, h]
  · simp

theorem wordsOf_trimEndOf (cs : List Char) : wordsOf (trimEndOf cs) = wordsOf cs := by
  obtain ⟨blanks, e, blank⟩ := trimEndOf_append cs
  have same : wordsOf (trimEndOf cs ++ blanks) = wordsOf (trimEndOf cs) :=
    wordsOf_append_blanks blank
  rw [← e] at same
  exact same.symm

theorem trimOf_append_cons {blanks : List Char} (blank : ∀ b ∈ blanks, isBlank b = true) {c : Char}
    (h : isBlank c = false) (cs : List Char) :
    trimOf (blanks ++ c :: cs) = c :: trimEndOf cs := by
  unfold trimOf
  rw [List.dropWhile_append_of_pos blank, List.dropWhile_cons_of_neg (by simp [h]),
    trimEndOf_cons h]

theorem trimOf_append (cs : List Char) :
    ∃ front back, cs = front ++ trimOf cs ++ back ∧ (∀ b ∈ front, isBlank b = true) ∧
      ∀ b ∈ back, isBlank b = true := by
  obtain ⟨back, e, blank⟩ := trimEndOf_append (cs.dropWhile isBlank)
  refine ⟨cs.takeWhile isBlank, back, ?_, List.all_eq_true.1 List.all_takeWhile, blank⟩
  calc cs = cs.takeWhile isBlank ++ cs.dropWhile isBlank := List.takeWhile_append_dropWhile.symm
    _ = cs.takeWhile isBlank ++ (trimOf cs ++ back) := congrArg _ e
    _ = cs.takeWhile isBlank ++ trimOf cs ++ back := (List.append_assoc ..).symm

theorem trimOf_eq_nil_iff {cs : List Char} : trimOf cs = [] ↔ ∀ c ∈ cs, isBlank c = true := by
  constructor
  · intro empty c hc
    obtain ⟨front, back, e, blank, blank'⟩ := trimOf_append cs
    rw [e, empty, List.append_nil, List.mem_append] at hc
    exact hc.elim (blank c) (blank' c)
  · intro blank
    have passed : (cs ++ []).dropWhile isBlank = [] := List.dropWhile_append_of_pos blank
    rw [List.append_nil] at passed
    rw [trimOf, passed]
    rfl

end CatalogReport.Text
