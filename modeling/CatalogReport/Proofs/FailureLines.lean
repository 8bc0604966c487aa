import Mathlib.Data.List.Basic
import CatalogReport.Proofs.FailedQueries
import CatalogReport.Shell.Run

/-!
# The line of a failure

A failure in contexts has its causes in its own text: the contexts and the text of the root, the
outermost first. The line that reports it goes on with the texts of the causes, and each of these
again starts at one context and goes on to the root. So the line has the contexts from each of them
on (`line_inContexts`); a context stands there as often as its place counts from the outside, and
the root once more than there are contexts. Only a failure without contexts whose root has no cause
of its own is reported once.
-/

namespace CatalogReport

namespace Failure

/-- The texts in the line of a failure in contexts: from each context on all that follow and the
text of the root, then the root alone. -/
def lineTexts (root : Failure) (contexts : List String) : List String :=
  contexts.tails.flatMap fun inner => inner ++ [root.message]

variable (root : Failure) (context : String) (contexts : List String)

theorem inContexts_cons :
    root.inContexts (context :: contexts) = (root.inContexts contexts).within context :=
  rfl

theorem message_within (failure : Failure) :
    (failure.within context).message = context ++ ": " ++ failure.message :=
  rfl

theorem causes_within (failure : Failure) :
    (failure.within context).causes = failure.message :: failure.causes :=
  rfl

theorem lineTexts_cons : root.lineTexts (context :: contexts) =
    context :: contexts ++ [root.message] ++ root.lineTexts contexts := by
  simp [lineTexts]

theorem lineTexts_ne_nil : root.lineTexts contexts ≠ [] := by
  cases contexts <;> simp [lineTexts]

theorem message_inContexts :
    (root.inContexts contexts).message = ": ".intercalate (contexts ++ [root.message]) := by
  induction contexts with
  | nil => exact String.intercalate_singleton.symm
  | cons context contexts ih =>
    rw [inContexts_cons, message_within, ih, List.cons_append,
      String.intercalate_cons_of_ne_nil (by simp)]

theorem line_within (failure : Failure) :
    (failure.within context).line = (failure.within context).message ++ ": " ++ failure.line := by
  rw [line, line, causes_within, String.intercalate_cons_of_ne_nil (by simp)]

/-- The line has the contexts and the root from each context on, and then the causes of the root. -/
theorem line_inContexts :
    (root.inContexts contexts).line =
      ": ".intercalate (root.lineTexts contexts ++ root.causes) := by
  induction contexts with
  | nil => rfl
  | cons context contexts ih =>
    have own := root.message_inContexts (context :: contexts)
    rw [inContexts_cons] at own
    rw [inContexts_cons, line_within, own, ih, lineTexts_cons, List.append_assoc,
      String.intercalate_append_of_ne_nil (l := context :: contexts ++ [root.message]) (by simp)
        (by simp [lineTexts_ne_nil])]

/-! ## How often a text stands in the line -/

/-- The contexts, each as often as its place counts from the outside, the first place being number
`n`. -/
def repeated (n : Nat) (contexts : List String) : List String :=
  (contexts.zipIdx n).flatMap fun place => List.replicate place.2 place.1

theorem repeated_cons (n : Nat) :
    repeated n (context :: contexts) = List.replicate n context ++ repeated (n + 1) contexts := by
  simp [repeated]

theorem repeated_succ (n : Nat) :
    (repeated (n + 1) contexts).Perm (contexts ++ repeated n contexts) := by
  induction contexts generalizing n with
  | nil => exact .nil
  | cons context contexts ih =>
    rw [repeated_cons, repeated_cons, List.replicate_succ, List.cons_append, List.cons_append]
    refine .cons context (((ih (n + 1)).append_left _).trans ?_)
    exact List.perm_append_comm_assoc ..

/-- The first context stands in the line once, the second one twice, and so on. -/
theorem lineTexts_perm : (root.lineTexts contexts).Perm
    (repeated 1 contexts ++ List.replicate (contexts.length + 1) root.message) := by
  induction contexts with
  | nil => exact .refl _
  | cons context contexts ih =>
    rw [lineTexts_cons, repeated_cons, List.length_cons, List.replicate_succ, List.cons_append,
      List.cons_append]
    refine .cons context ?_
    calc (contexts ++ [root.message] ++ root.lineTexts contexts).Perm
          (contexts ++ [root.message] ++
            (repeated 1 contexts ++ List.replicate (contexts.length + 1) root.message)) :=
        ih.append_left _
      List.Perm _ (contexts ++ repeated 1 contexts ++
          ([root.message] ++ List.replicate (contexts.length + 1) root.message)) := by
        rw [List.append_assoc, List.append_assoc]
        exact (List.perm_append_comm_assoc ..).append_left contexts
      List.Perm _ _ := (repeated_succ contexts 1).symm.append_right _

/-! ## Failures that are reported once -/

/-- A failure without causes has its own text as its line, and no other failure has. -/
theorem line_eq_message_iff (failure : Failure) :
    failure.line = failure.message ↔ failure.causes = [] := by
  constructor
  · intro same
    by_contra more
    rw [line, String.intercalate_cons_of_ne_nil more] at same
    have lengths := congrArg String.length same
    simp only [String.length_append] at lengths
    have colon : ": ".length = 2 := by decide
    omega
  · intro bare
    rw [line, bare, String.intercalate_singleton]

theorem causes_inContexts_eq_nil_iff :
    (root.inContexts contexts).causes = [] ↔ contexts = [] ∧ root.causes = [] := by
  cases contexts with
  | nil => simp [inContexts]
  | cons context contexts => simp [inContexts_cons, causes_within]

theorem causes_eq_nil_iff (failure : Failure) : failure.causes = [] ↔
    (∀ context cause, failure ≠ .queryFailed context cause) ∧ (∀ text, failure ≠ .output text) ∧
      ∀ cause, failure ≠ .snapshot cause := by
  cases failure <;> simp [causes]

end Failure

/-! ## Runs -/

namespace Dialogue

variable {α σ : Type}

theorem run_within (context : String) (d : Dialogue α) (r : Reader σ) (encoder : Encoder)
    (state : σ) (sink : Sink) :
    (d.within context).run r encoder state sink =
      ((d.run r encoder state sink).1.mapError (·.within context),
        (d.run r encoder state sink).2) := by
  induction d generalizing state sink with
  | done value => rfl
  | fail failure => rfl
  | ask k filter next ih => exact ih _ _ _
  | hand document next ih =>
    simp only [within, run]
    split
    · exact ih _ _ _
    · exact ih _ _ _

theorem run_inContexts (contexts : List String) (d : Dialogue α) (r : Reader σ) (encoder : Encoder)
    (state : σ) (sink : Sink) :
    ((contexts.foldr within d).run r encoder state sink).1 =
      (d.run r encoder state sink).1.mapError (·.inContexts contexts) := by
  induction contexts with
  | nil =>
    rw [List.foldr_nil]
    cases (d.run r encoder state sink).1 <;> rfl
  | cons context contexts ih =>
    rw [List.foldr_cons, run_within, ih]
    cases (d.run r encoder state sink).1 <;> rfl

end Dialogue

namespace Run

theorem errorLine_inj {text text' : String} : errorLine text = errorLine text' ↔ text = text' :=
  ⟨fun same => (String.append_right_inj _).1 ((String.append_left_inj _).1 same),
    congrArg errorLine⟩

theorem closing_error (failure : Failure) :
    closing (.error failure) = (failed, errorLine failure.line) :=
  rfl

/-- What is reported of a dialogue that fails in contexts:

* the failure it ends with is the one that it meets, in these contexts;
* the line has the contexts and the text of the root from each context on, then the root alone, then
  the causes of the root;
* so a context stands there as often as its place counts from the outside, and the root once more
  than there are contexts;
* the line is the contexts and the root, each of them once, exactly if there are no contexts and the
  root is neither a failure in a context nor one of an output or a snapshot. -/
theorem closing_inContexts (root : Failure) (contexts : List String) :
    (∀ (σ : Type) (r : Reader σ) (encoder : Encoder) (state : σ) (sink : Sink) (d : Dialogue Unit),
      ((contexts.foldr .within d).run r encoder state sink).1 =
        (d.run r encoder state sink).1.mapError (·.inContexts contexts)) ∧
      closing (.error (root.inContexts contexts)) =
        (failed, errorLine (": ".intercalate (root.lineTexts contexts ++ root.causes))) ∧
      (root.lineTexts contexts).Perm
        (Failure.repeated 1 contexts ++ List.replicate (contexts.length + 1) root.message) ∧
      (closing (.error (root.inContexts contexts)) =
          (failed, errorLine (": ".intercalate (contexts ++ [root.message]))) ↔
        contexts = [] ∧ (∀ context cause, root ≠ .queryFailed context cause) ∧
          (∀ text, root ≠ .output text) ∧ ∀ cause, root ≠ .snapshot cause) := by
  refine ⟨fun σ r encoder state sink d => d.run_inContexts contexts r encoder state sink, ?_,
    root.lineTexts_perm contexts, ?_⟩
  · rw [closing_error, root.line_inContexts contexts]
  · rw [closing_error, Prod.mk.injEq, eq_self, true_and, errorLine_inj,
      ← root.message_inContexts contexts, Failure.line_eq_message_iff,
      Failure.causes_inContexts_eq_nil_iff, Failure.causes_eq_nil_iff]

/-- The tables cannot be listed. -/
theorem closing_inContexts_tables :
    let r := (({} : Snapshot).reader .all .none).failing fun k =>
      if k = .tables then some ⟨0, .driver "down"⟩ else none
    let c : MetaCommand := .listTables "t" "" false false
    let failure := (Failure.driver "down").inContexts ["failed to list tables"]
    (c.runOn r {} .table ([], []) {}).1 = .error failure ∧
      closing (.error failure) = (1, "metascope: error: failed to list tables: down: down\n") := by
  refine ⟨rfl, ?_⟩
  have texts : (Failure.driver "down").lineTexts ["failed to list tables"] =
      ["failed to list tables", "down", "down"] := rfl
  rw [(closing_inContexts (.driver "down") ["failed to list tables"]).2.1, texts]
  decide

end Run

end CatalogReport
