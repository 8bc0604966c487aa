import CatalogReport.Reader.Basic
import CatalogReport.Report.Encoder

/-!
# Dialogues

What a command does, as a tree: it asks for rows, goes on with the answer, hands out documents and
ends with a value or a failure. A dialogue says nothing about who answers or how documents are
written; `run` holds it with a reader and an encoder.
-/

namespace CatalogReport

inductive Dialogue (α : Type) where
  | done (value : α)
  | fail (failure : Failure)
  | ask (k : Kind) (filter : Filter) (next : Except Failure (List k.Row) → Dialogue α)
  | hand (document : Document) (next : Except Failure Unit → Dialogue α)

namespace Dialogue

variable {α β σ : Type}

/-- One dialogue after another; a failure ends both. -/
def andThen : Dialogue α → (α → Dialogue β) → Dialogue β
  | .done value, f => f value
  | .fail failure, _ => .fail failure
  | .ask k filter next, f => .ask k filter fun answer => (next answer).andThen f
  | .hand document next, f => .hand document fun answer => (next answer).andThen f

instance : Monad Dialogue where
  pure := .done
  bind := andThen

/-- Rows of a kind, or the failure of the query. -/
def query (k : Kind) (filter : Filter) : Dialogue (Except Failure (List k.Row)) :=
  .ask k filter .done

/-- Hands out a document. -/
def put (document : Document) : Dialogue Unit :=
  .hand document fun
    | .ok _ => .done ()
    | .error failure => .fail failure

/-- The dialogue with a context around the failure that it may end with. -/
def within (context : String) : Dialogue α → Dialogue α
  | .done value => .done value
  | .fail failure => .fail (failure.within context)
  | .ask k filter next => .ask k filter fun answer => (next answer).within context
  | .hand document next => .hand document fun answer => (next answer).within context

/-- Holds a dialogue with a reader and writes its documents to a sink. -/
def run (r : Reader σ) (encoder : Encoder) :
    Dialogue α → σ → Sink → Except Failure α × σ × Sink
  | .done value, state, sink => (.ok value, state, sink)
  | .fail failure, state, sink => (.error failure, state, sink)
  | .ask k filter next, state, sink =>
    let (answer, state) := r.ask k filter state
    (next answer).run r encoder state sink
  | .hand document next, state, sink =>
    match sink.put (encoder.encode document) with
    | .ok sink => (next (.ok ())).run r encoder state sink
    | .error failure => (next (.error failure)).run r encoder state sink

/-! ## Laws -/

@[simp] theorem pure_eq (value : α) : (pure value : Dialogue α) = .done value := rfl

@[simp] theorem bind_eq (d : Dialogue α) (f : α → Dialogue β) : (d >>= f) = d.andThen f := rfl

theorem andThen_done (d : Dialogue α) : d.andThen .done = d := by
  induction d with
  | done value => rfl
  | fail failure => rfl
  | ask k filter next ih => simp [andThen, ih]
  | hand document next ih => simp [andThen, ih]

theorem andThen_assoc {γ : Type} (d : Dialogue α) (f : α → Dialogue β) (g : β → Dialogue γ) :
    (d.andThen f).andThen g = d.andThen fun value => (f value).andThen g := by
  induction d with
  | done value => rfl
  | fail failure => rfl
  | ask k filter next ih => simp [andThen, ih]
  | hand document next ih => simp [andThen, ih]

instance : LawfulMonad Dialogue :=
  LawfulMonad.mk' Dialogue
    (fun d => andThen_done d)
    (fun _ _ => rfl)
    (fun d f g => andThen_assoc d f g)

theorem within_andThen (context : String) (d : Dialogue α) (f : α → Dialogue β) :
    (d.andThen f).within context =
      (d.within context).andThen fun value => (f value).within context := by
  induction d with
  | done value => rfl
  | fail failure => rfl
  | ask k filter next ih => simp [andThen, within, ih]
  | hand document next ih => simp [andThen, within, ih]

/-- A run of one dialogue after another is a run of the first and, if it ends with a value, a run of
the second. -/
theorem run_andThen (r : Reader σ) (encoder : Encoder) (d : Dialogue α) (f : α → Dialogue β)
    (state : σ) (sink : Sink) :
    (d.andThen f).run r encoder state sink =
      match d.run r encoder state sink with
      | (.ok value, state, sink) => (f value).run r encoder state sink
      | (.error failure, state, sink) => (.error failure, state, sink) := by
  induction d generalizing state sink with
  | done value => rfl
  | fail failure => rfl
  | ask k filter next ih => simp [andThen, run, ih]
  | hand document next ih =>
    simp only [andThen, run]
    split <;> exact ih _ _ _

end Dialogue

end CatalogReport
