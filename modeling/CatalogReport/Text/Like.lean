/-!
# LIKE patterns

A pattern matches a whole text, case and all: a percent sign stands for any run of characters, the
empty run and line ends included, an underscore for exactly one character, and every other character
for itself. `Matches` says so as a relation; `isMatch` decides it for every end of the text at once,
from the last step of the pattern to the first (`matchesOf_iff`).
-/

namespace CatalogReport.Text.Like

/-- What one character of a pattern stands for. -/
inductive Step where
  | anyRun
  | anyOne
  | just (c : Char)
  deriving DecidableEq, Repr

def Step.ofChar : Char → Step
  | '%' => .anyRun
  | '_' => .anyOne
  | c => .just c

def stepsOf (pattern : List Char) : List Step :=
  pattern.map Step.ofChar

/-- The texts a pattern stands for. -/
inductive Matches : List Step → List Char → Prop where
  | nil : Matches [] []
  | anyRun {steps rest} (run : List Char) (h : Matches steps rest) :
      Matches (.anyRun :: steps) (run ++ rest)
  | anyOne {steps rest} (c : Char) (h : Matches steps rest) : Matches (.anyOne :: steps) (c :: rest)
  | just {steps rest} (c : Char) (h : Matches steps rest) : Matches (.just c :: steps) (c :: rest)

/-- Whether the steps match each end of the text, the whole text first and the empty end last. -/
abbrev Row := List Bool

/-- Whether an entry or one after it holds, for every entry. -/
def anyFrom : Row → Row
  | [] => []
  | now :: later =>
    let rest := anyFrom later
    (now || rest.headD false) :: rest

/-- The row of a step and the steps of `later` after it. -/
def Step.row (text : List Char) (later : Row) : Step → Row
  | .anyRun => anyFrom later
  | .anyOne => later.tail ++ [false]
  | .just d => List.zipWith (fun c ok => c == d && ok) text later.tail ++ [false]

/-- The row of a pattern. -/
def rowOf (text : List Char) : List Step → Row
  | [] => List.replicate text.length false ++ [true]
  | step :: steps => step.row text (rowOf text steps)

/-- Whether a text is one that the steps stand for. -/
def matchesOf (steps : List Step) (text : List Char) : Bool :=
  (rowOf text steps).headD false

/-- Whether `pattern` matches `text`. -/
def isMatch (pattern text : String) : Bool :=
  matchesOf (stepsOf pattern.toList) text.toList

/-- A filter's use of a pattern: the empty pattern accepts every text. -/
def accepts (pattern text : String) : Bool :=
  pattern.isEmpty || isMatch pattern text

/-! ## The relation and its decision -/

theorem length_anyFrom (row : Row) : (anyFrom row).length = row.length := by
  induction row with
  | nil => rfl
  | cons now later ih => simp [anyFrom, ih]

theorem length_rowOf (text : List Char) (steps : List Step) :
    (rowOf text steps).length = text.length + 1 := by
  induction steps with
  | nil => simp [rowOf]
  | cons step steps ih => cases step <;> simp [rowOf, Step.row, length_anyFrom, ih]

theorem rowOf_cons (c : Char) (text : List Char) (steps : List Step) :
    (rowOf (c :: text) steps).tail = rowOf text steps := by
  induction steps with
  | nil => simp [rowOf, List.replicate_succ]
  | cons step steps ih =>
    have hlen := length_rowOf (c :: text) steps
    obtain ⟨now, later, e⟩ : ∃ now later, rowOf (c :: text) steps = now :: later := by
      cases h : rowOf (c :: text) steps with
      | nil => simp [h] at hlen
      | cons now later => exact ⟨_, _, rfl⟩
    have hl : later = rowOf text steps := by simpa [e] using ih
    have hlen' := length_rowOf text steps
    obtain ⟨next, after, e'⟩ : ∃ next after, rowOf text steps = next :: after := by
      cases h : rowOf text steps with
      | nil => simp [h] at hlen'
      | cons now later => exact ⟨_, _, rfl⟩
    cases step with
    | anyRun => simp [rowOf, Step.row, e, anyFrom, hl]
    | anyOne => simp [rowOf, Step.row, e, hl, e']
    | just d => simp [rowOf, Step.row, e, hl, e']

theorem matches_anyRun_iff {steps : List Step} {text : List Char} :
    Matches (.anyRun :: steps) text ↔ ∃ run rest, text = run ++ rest ∧ Matches steps rest := by
  constructor
  · intro h
    generalize e : Step.anyRun :: steps = all at h
    cases h with
    | anyRun run h =>
      cases e
      exact ⟨run, _, rfl, h⟩
    | _ => cases e
  · rintro ⟨run, rest, rfl, h⟩
    exact .anyRun run h

theorem matches_anyRun_cons_iff {steps : List Step} {c : Char} {text : List Char} :
    Matches (.anyRun :: steps) (c :: text) ↔
      Matches steps (c :: text) ∨ Matches (.anyRun :: steps) text := by
  simp only [matches_anyRun_iff]
  constructor
  · rintro ⟨run, rest, e, h⟩
    cases run with
    | nil => exact .inl (e ▸ h)
    | cons d run =>
      simp only [List.cons_append, List.cons.injEq] at e
      exact .inr ⟨run, rest, e.2, h⟩
  · rintro (h | ⟨run, rest, rfl, h⟩)
    · exact ⟨[], _, rfl, h⟩
    · exact ⟨c :: run, rest, rfl, h⟩

theorem matches_anyOne_cons_iff {steps : List Step} {c : Char} {text : List Char} :
    Matches (.anyOne :: steps) (c :: text) ↔ Matches steps text :=
  ⟨fun h => by cases h with | anyOne _ h => exact h, .anyOne c⟩

theorem matches_just_cons_iff {steps : List Step} {c d : Char} {text : List Char} :
    Matches (.just d :: steps) (c :: text) ↔ c = d ∧ Matches steps text :=
  ⟨fun h => by cases h with | just _ h => exact ⟨rfl, h⟩, fun ⟨e, h⟩ => e ▸ .just c h⟩

theorem matchesOf_iff {steps : List Step} {text : List Char} :
    matchesOf steps text = true ↔ Matches steps text := by
  induction steps generalizing text with
  | nil =>
    cases text with
    | nil => exact ⟨fun _ => .nil, fun _ => rfl⟩
    | cons c text => exact ⟨fun h => by simp [matchesOf, rowOf, List.replicate_succ] at h, nofun⟩
  | cons step steps ih =>
    induction text with
    | nil =>
      cases step with
      | anyRun =>
        rw [matches_anyRun_iff]
        have hlen := length_rowOf [] steps
        have := @ih []
        cases h : rowOf [] steps with
        | nil => simp [h] at hlen
        | cons now later =>
          obtain rfl : later = [] := by simpa [h] using hlen
          simp only [matchesOf, h, List.headD_cons] at this
          simp only [matchesOf, rowOf, Step.row, h, anyFrom, List.headD_nil, Bool.or_false,
            List.headD_cons, this]
          constructor
          · exact fun h => ⟨[], [], rfl, h⟩
          · rintro ⟨run, rest, e, h⟩
            obtain ⟨-, rfl⟩ := List.append_eq_nil_iff.1 e.symm
            exact h
      | anyOne =>
        have hlen := length_rowOf [] steps
        constructor
        · cases h : rowOf [] steps with
          | nil => simp [h] at hlen
          | cons now later =>
            obtain rfl : later = [] := by simpa [h] using hlen
            simp [matchesOf, rowOf, Step.row, h]
        · nofun
      | just d =>
        constructor
        · simp [matchesOf, rowOf, Step.row]
        · nofun
    | cons c text iht =>
      have hlen := length_rowOf (c :: text) steps
      have tail := rowOf_cons c text steps
      have here := @ih (c :: text)
      have next := @ih text
      cases h : rowOf (c :: text) steps with
      | nil => simp [h] at hlen
      | cons now later =>
        rw [h, List.tail_cons] at tail
        subst tail
        have hlen' := length_rowOf text steps
        obtain ⟨n, after, e⟩ : ∃ n after, rowOf text steps = n :: after := by
          cases h : rowOf text steps with
          | nil => simp [h] at hlen'
          | cons n after => exact ⟨_, _, rfl⟩
        cases step with
        | anyRun =>
          rw [matches_anyRun_cons_iff, ← here, ← iht]
          simp [matchesOf, rowOf, Step.row, h, e, anyFrom]
        | anyOne =>
          rw [matches_anyOne_cons_iff, ← next]
          simp [matchesOf, rowOf, Step.row, h, e]
        | just d =>
          rw [matches_just_cons_iff, ← next]
          simp [matchesOf, rowOf, Step.row, h, e]

end CatalogReport.Text.Like
