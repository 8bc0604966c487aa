/-!
# Blanks and words

`isBlank` is the Unicode property White_Space. `trim` drops blanks at both ends and `words` splits a
text at its blanks; no word is empty.
-/

namespace CatalogReport.Text

/-- The Unicode property White_Space. -/
def isBlank (c : Char) : Bool :=
  let n := c.toNat
  (0x9 ≤ n && n ≤ 0xD) || n == 0x20 || n == 0x85 || n == 0xA0 || n == 0x1680 ||
    (0x2000 ≤ n && n ≤ 0x200A) || n == 0x2028 || n == 0x2029 || n == 0x202F || n == 0x205F ||
    n == 0x3000

/-- The characters without the blanks after the last other one. -/
def trimEndOf (cs : List Char) : List Char :=
  (cs.reverse.dropWhile isBlank).reverse

/-- The characters without the blanks at both ends. -/
def trimOf (cs : List Char) : List Char :=
  trimEndOf (cs.dropWhile isBlank)

/-- A text without the blanks at both ends. -/
def trim (s : String) : String :=
  String.ofList (trimOf s.toList)

/-- The pieces between the characters that satisfy `p`, empty ones included. -/
def pieces (p : Char → Bool) : List Char → List (List Char)
  | [] => [[]]
  | c :: cs =>
    if p c then [] :: pieces p cs
    else
      match pieces p cs with
      | [] => [[c]]
      | piece :: rest => (c :: piece) :: rest

/-- The runs of characters between blanks. -/
def wordsOf (cs : List Char) : List (List Char) :=
  (pieces isBlank cs).filter fun word => !word.isEmpty

/-- The words of a text. -/
def words (s : String) : List String :=
  (wordsOf s.toList).map String.ofList

/-! ## Pieces and words -/

theorem pieces_ne_nil (p : Char → Bool) (cs : List Char) : pieces p cs ≠ [] := by
  cases cs with
  | nil => simp [pieces]
  | cons c cs =>
    by_cases h : p c
    · simp [pieces, h]
    · cases hp : pieces p cs <;> simp [pieces, h, hp]

theorem ne_nil_of_mem_wordsOf {cs word : List Char} (h : word ∈ wordsOf cs) : word ≠ [] := by
  have := (List.mem_filter.1 h).2
  intro e
  simp [e] at this

end CatalogReport.Text
