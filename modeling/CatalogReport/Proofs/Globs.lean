import Mathlib.Data.List.Forall2
import CatalogReport.Text.Like

/-!
# Texts cut by a pattern

A text is cut into runs, one for each character of a pattern, and each run is what its character
stands for (`Glob`). The matcher of the filters accepts the texts that are cut so with a percent
sign for any run and an underscore for one character (`isMatch_iff_glob`).
-/

namespace CatalogReport

/-! ## Cutting a text into runs -/

/-- What a character of a pattern stands for, those in `wild` for any run of characters. -/
def Stands (wild : List Char) (c : Char) (run : List Char) : Prop :=
  if c ∈ wild then True
  else if c = '_' then ∃ d, run = [d]
  else run = [c]

/-- The text is made of one run after another, one for each character of the pattern and nothing
besides. -/
def Glob (wild : List Char) (pattern text : String) : Prop :=
  ∃ runs, List.Forall₂ (Stands wild) pattern.toList runs ∧ text.toList = runs.flatten

/-- The characters of a LIKE pattern that stand for any run. -/
def likeWild : List Char := ['%']

namespace Text.Like

/-- The run is one that the step takes. -/
def Step.Takes (run : List Char) : Step → Prop
  | .anyRun => True
  | .anyOne => ∃ d, run = [d]
  | .just c => run = [c]

theorem matches_nil_iff {text : List Char} : Matches [] text ↔ text = [] :=
  ⟨fun h => by cases h; rfl, fun e => e ▸ .nil⟩

theorem matches_cons_iff {step : Step} {steps : List Step} {text : List Char} :
    Matches (step :: steps) text ↔
      ∃ run rest, text = run ++ rest ∧ step.Takes run ∧ Matches steps rest := by
  constructor
  · intro h
    cases h with
    | anyRun run h => exact ⟨run, _, rfl, trivial, h⟩
    | anyOne c h => exact ⟨[c], _, rfl, ⟨c, rfl⟩, h⟩
    | just c h => exact ⟨[c], _, rfl, rfl, h⟩
  · rintro ⟨run, rest, rfl, taken, h⟩
    cases step with
    | anyRun => exact .anyRun run h
    | anyOne =>
      obtain ⟨d, rfl⟩ := taken
      exact .anyOne d h
    | just c =>
      obtain rfl : run = [c] := taken
      exact .just c h

/-- Steps that take what the characters of a pattern stand for match the texts that are cut by
it. -/
theorem matches_map_iff {wild : List Char} {step : Char → Step}
    (same : ∀ c run, (step c).Takes run ↔ Stands wild c run) {pattern text : List Char} :
    Matches (pattern.map step) text ↔
      ∃ runs, List.Forall₂ (Stands wild) pattern runs ∧ text = runs.flatten := by
  induction pattern generalizing text with
  | nil => simp [matches_nil_iff]
  | cons c pattern ih =>
    rw [List.map_cons, matches_cons_iff]
    constructor
    · rintro ⟨run, rest, rfl, taken, h⟩
      obtain ⟨runs, all, rfl⟩ := ih.1 h
      exact ⟨run :: runs, .cons ((same c run).1 taken) all, rfl⟩
    · rintro ⟨runs, all, rfl⟩
      obtain ⟨run, later, stands, rest, rfl⟩ := List.forall₂_cons_left_iff.1 all
      exact ⟨run, later.flatten, rfl, (same c run).2 stands, ih.2 ⟨later, rest, rfl⟩⟩

theorem takes_ofChar_iff (c : Char) (run : List Char) :
    (Step.ofChar c).Takes run ↔ Stands likeWild c run := by
  by_cases percent : c = '%'
  · subst percent
    simp [Step.ofChar, Step.Takes, Stands, likeWild]
  by_cases underscore : c = '_'
  · subst underscore
    simp [Step.ofChar, Step.Takes, Stands, likeWild]
  · simp [Step.ofChar, Step.Takes, Stands, likeWild, percent, underscore]

theorem isMatch_iff_glob {pattern text : String} :
    isMatch pattern text = true ↔ Glob likeWild pattern text := by
  unfold isMatch stepsOf Glob
  rw [matchesOf_iff, matches_map_iff takes_ofChar_iff]

end Text.Like

end CatalogReport
