import CatalogReport.Proofs.Declined

/-!
# Failed queries

A query that fails with anything but `notSupported` ends its command. `Aborts` says so of a
dialogue, question by question: the answer leads straight to that failure, in one context or more.
It is respected by the parts of commands, so it holds of commands (`aborts_dialogue`). The exchanges
of a run are its queries with their answers; a run in which one of them failed has no later one, and
what it has written is written by every run with the same exchanges before it. All commands but the
description of relations ask first and write after (`AsksFirst`), so they have written nothing by
then.
-/

namespace CatalogReport

def Failure.inContexts (failure : Failure) (contexts : List String) : Failure :=
  contexts.foldr .queryFailed failure

theorem Failure.isNotSupported_eq_false {failure : Failure} (h : failure ≠ .notSupported) :
    failure.isNotSupported = false := by
  cases failure <;> first | rfl | exact absurd rfl h

/-- A query and its answer. -/
structure Exchange where
  kind : Kind
  filter : Filter
  answer : Except Failure (List kind.Row)

namespace Dialogue

variable {α β σ τ : Type}

def exchanges (r : Reader σ) (encoder : Encoder) : Dialogue α → σ → Sink → List Exchange
  | .done _, _, _ => []
  | .fail _, _, _ => []
  | .ask k filter next, state, sink =>
    let (answer, state) := r.ask k filter state
    ⟨k, filter, answer⟩ :: (next answer).exchanges r encoder state sink
  | .hand document next, state, sink =>
    match sink.put (encoder.encode document) with
    | .ok sink => (next (.ok ())).exchanges r encoder state sink
    | .error failure => (next (.error failure)).exchanges r encoder state sink

/-! ## Aborting dialogues -/

/-- Every query that fails ends the dialogue, with its failure in a context. -/
def Aborts : Dialogue α → Prop
  | .done _ => True
  | .fail _ => True
  | .ask _ _ next =>
    (∀ failure, failure ≠ .notSupported →
      ∃ context contexts,
        next (.error failure) = .fail (failure.inContexts (context :: contexts))) ∧
    ∀ answer, (next answer).Aborts
  | .hand _ next => ∀ reply, (next reply).Aborts

theorem aborts_done (value : α) : (done value).Aborts :=
  trivial

theorem aborts_put (document : Document) : (put document).Aborts := by
  intro reply
  cases reply <;> exact trivial

theorem Aborts.bind {d : Dialogue α} {f : α → Dialogue β} (h : d.Aborts)
    (hf : ∀ value, (f value).Aborts) : (d >>= f).Aborts := by
  rw [bind_eq]
  induction d with
  | done value => exact hf value
  | fail failure => exact trivial
  | ask k filter next ih =>
    refine ⟨fun failure other => ?_, fun answer => ih answer (h.2 answer)⟩
    obtain ⟨context, contexts, e⟩ := h.1 failure other
    exact ⟨context, contexts, congrArg (·.andThen f) e⟩
  | hand document next ih => exact fun reply => ih reply (h reply)

theorem Aborts.within {d : Dialogue α} (h : d.Aborts) (context : String) :
    (d.within context).Aborts := by
  induction d with
  | done value => exact trivial
  | fail failure => exact trivial
  | ask k filter next ih =>
    refine ⟨fun failure other => ?_, fun answer => ih answer (h.2 answer)⟩
    obtain ⟨inner, contexts, e⟩ := h.1 failure other
    exact ⟨context, inner :: contexts, congrArg (·.within context) e⟩
  | hand document next ih => exact fun reply => ih reply (h reply)

/-! ## Dialogues that ask before they write -/

def Wordless : Dialogue α → Prop
  | .done _ => True
  | .fail _ => True
  | .ask _ _ next => ∀ answer, (next answer).Wordless
  | .hand _ _ => False

def Ended (d : Dialogue α) : Prop :=
  (∃ value, d = .done value) ∨ ∃ failure, d = .fail failure

/-- The dialogue hands out one document at most, and that comes last. -/
def AsksFirst : Dialogue α → Prop
  | .done _ => True
  | .fail _ => True
  | .ask _ _ next => ∀ answer, (next answer).AsksFirst
  | .hand _ next => ∀ reply, (next reply).Ended

theorem wordless_done (value : α) : (done value).Wordless :=
  trivial

theorem Wordless.bind {d : Dialogue α} {f : α → Dialogue β} (h : d.Wordless)
    (hf : ∀ value, (f value).Wordless) : (d >>= f).Wordless := by
  rw [bind_eq]
  induction d with
  | done value => exact hf value
  | fail failure => exact trivial
  | ask k filter next ih => exact fun answer => ih answer (h answer)
  | hand document next ih => exact h.elim

theorem Wordless.within {d : Dialogue α} (h : d.Wordless) (context : String) :
    (d.within context).Wordless := by
  induction d with
  | done value => exact trivial
  | fail failure => exact trivial
  | ask k filter next ih => exact fun answer => ih answer (h answer)
  | hand document next ih => exact h.elim

theorem asksFirst_put (document : Document) : (put document).AsksFirst := by
  intro reply
  cases reply with
  | ok taken => exact .inl ⟨(), rfl⟩
  | error refusal => exact .inr ⟨refusal, rfl⟩

theorem Wordless.bind_asksFirst {d : Dialogue α} {f : α → Dialogue β} (h : d.Wordless)
    (hf : ∀ value, (f value).AsksFirst) : (d >>= f).AsksFirst := by
  rw [bind_eq]
  induction d with
  | done value => exact hf value
  | fail failure => exact trivial
  | ask k filter next ih => exact fun answer => ih answer (h answer)
  | hand document next ih => exact h.elim

/-! ## Runs -/

variable {r : Reader σ} {encoder : Encoder} {earlier later : List Exchange} {x : Exchange}
  {failure : Failure}

theorem exchanges_ask (r : Reader σ) (encoder : Encoder) (k : Kind) (filter : Filter)
    (next : Except Failure (List k.Row) → Dialogue α) (state : σ) (sink : Sink) :
    (ask k filter next).exchanges r encoder state sink =
      ⟨k, filter, (r.ask k filter state).1⟩ ::
        (next (r.ask k filter state).1).exchanges r encoder (r.ask k filter state).2 sink :=
  rfl

def Queryless : Dialogue α → Prop
  | .done _ => True
  | .fail _ => True
  | .ask _ _ _ => False
  | .hand _ next => ∀ reply, (next reply).Queryless

theorem Queryless.exchanges_eq {d : Dialogue α} (h : d.Queryless) (state : σ) (sink : Sink) :
    d.exchanges r encoder state sink = [] := by
  induction d generalizing sink with
  | done value => rfl
  | fail failure => rfl
  | ask k filter next ih => exact h.elim
  | hand document next ih =>
    unfold exchanges
    split
    · exact ih _ (h _) _
    · exact ih _ (h _) _

/-- A query that fails is the last one, and the run ends with its failure. -/
theorem Aborts.run {d : Dialogue α} (h : d.Aborts) {state : σ} {sink : Sink}
    (asked : d.exchanges r encoder state sink = earlier ++ x :: later)
    (failed : x.answer = .error failure) (other : failure ≠ .notSupported) :
    later = [] ∧ ∃ context contexts, (d.run r encoder state sink).1 =
      .error (failure.inContexts (context :: contexts)) := by
  induction d generalizing earlier state sink with
  | done value => simp [exchanges] at asked
  | fail failure => simp [exchanges] at asked
  | ask k filter next ih =>
    rw [exchanges_ask] at asked
    cases earlier with
    | nil =>
      obtain ⟨rfl, rest⟩ := List.cons.inj asked
      obtain ⟨context, contexts, e⟩ := h.1 failure other
      dsimp only at failed
      rw [failed, e] at rest
      refine ⟨rest.symm, context, contexts, ?_⟩
      simp only [Dialogue.run, failed, e]
    | cons y earlier => exact ih _ (h.2 _) (List.cons.inj asked).2
  | hand document next ih =>
    simp only [exchanges, Dialogue.run] at asked ⊢
    cases hp : sink.put (encoder.encode document) with
    | ok sink =>
      rw [hp] at asked
      exact ih _ (h _) asked
    | error refusal =>
      rw [hp] at asked
      exact ih _ (h _) asked

/-- Before its last query a dialogue that asks first has written nothing. -/
theorem AsksFirst.run {d : Dialogue α} (h : d.AsksFirst) (aborts : d.Aborts) {state : σ}
    {sink : Sink} (asked : d.exchanges r encoder state sink = earlier ++ x :: later)
    (failed : x.answer = .error failure) (other : failure ≠ .notSupported) :
    (d.run r encoder state sink).2.2 = sink := by
  induction d generalizing earlier state with
  | done value => rfl
  | fail failure => rfl
  | ask k filter next ih =>
    rw [exchanges_ask] at asked
    cases earlier with
    | nil =>
      obtain ⟨rfl, -⟩ := List.cons.inj asked
      obtain ⟨context, contexts, e⟩ := aborts.1 failure other
      dsimp only at failed
      simp only [Dialogue.run, failed, e]
    | cons y earlier => exact ih _ (h _) (aborts.2 _) (List.cons.inj asked).2
  | hand document next ih =>
    -- The only document comes after all queries.
    have silent :
        ∀ reply (state : σ) (sink : Sink), (next reply).exchanges r encoder state sink = [] := by
      intro reply state sink
      rcases h reply with ⟨value, e⟩ | ⟨failure, e⟩ <;> rw [e] <;> rfl
    unfold exchanges at asked
    split at asked <;> simp [silent] at asked

/-- What is written before a query that fails is written by every run with the same exchanges before
it. -/
theorem Aborts.run_text {d : Dialogue α} (h : d.Aborts) {r' : Reader τ} {state : σ} {state' : τ}
    {sink : Sink} (asked : d.exchanges r encoder state sink = earlier ++ x :: later)
    (failed : x.answer = .error failure) (other : failure ≠ .notSupported)
    (same : earlier <+: d.exchanges r' encoder state' sink) :
    ∃ more, (d.run r' encoder state' sink).2.2.text =
      (d.run r encoder state sink).2.2.text ++ more := by
  induction d generalizing earlier state state' sink with
  | done value => simp [exchanges] at asked
  | fail failure => simp [exchanges] at asked
  | ask k filter next ih =>
    rw [exchanges_ask] at asked
    cases earlier with
    | nil =>
      obtain ⟨rfl, -⟩ := List.cons.inj asked
      obtain ⟨context, contexts, e⟩ := h.1 failure other
      dsimp only at failed
      obtain ⟨more, written⟩ := Dialogue.run_text (ask k filter next) r' encoder state' sink
      refine ⟨more, ?_⟩
      simpa only [Dialogue.run, failed, e] using written
    | cons y earlier =>
      obtain ⟨first, rest⟩ := List.cons.inj asked
      rw [exchanges_ask, ← first, List.cons_prefix_cons] at same
      -- Both runs got the same answer, so they go on with the same dialogue.
      have answers : (r'.ask k filter state').1 = (r.ask k filter state).1 := by
        simpa using same.1.symm
      rw [answers] at same
      simp only [Dialogue.run, answers]
      exact ih _ (h.2 _) rest same.2
  | hand document next ih =>
    simp only [exchanges, Dialogue.run] at asked same ⊢
    cases hp : sink.put (encoder.encode document) with
    | ok sink =>
      rw [hp] at asked same
      exact ih _ (h _) asked same
    | error refusal =>
      rw [hp] at asked same
      exact ih _ (h _) asked same

end Dialogue

/-! ## Parts of commands -/

open Dialogue (Aborts Wordless AsksFirst aborts_done aborts_put wordless_done asksFirst_put)

namespace Describer

variable (d : Describer)

theorem aborts_require (command : String) (k : Kind) : (d.require command k).Aborts := by
  unfold require
  split <;> exact trivial

theorem aborts_primary (command : String) (k : Kind) (filter : Filter) (context : String) :
    (d.primary command k filter context).Aborts := by
  refine (d.aborts_require command k).bind fun _ => ⟨fun failure other => ?_, fun answer => ?_⟩
  · refine ⟨context, [], ?_⟩
    show (if failure.isNotSupported then Dialogue.fail (d.absent command)
      else .fail (failure.within context)) = _
    rw [if_neg (by simp [Failure.isNotSupported_eq_false other])]
    rfl
  · cases answer with
    | ok rows => exact trivial
    | error failure =>
      show Aborts (if failure.isNotSupported then _ else _)
      split <;> exact trivial

theorem aborts_optional (k : Kind) (filter : Filter) (context : String) :
    ((d.optional k filter).within context).Aborts := by
  unfold optional
  split
  · refine ⟨fun failure other => ⟨context, [], ?_⟩, fun answer => ?_⟩
    · show Dialogue.within context
        (if failure.isNotSupported then .done none else .fail failure) = _
      rw [if_neg (by simp [Failure.isNotSupported_eq_false other])]
      rfl
    · cases answer with
      | ok rows => exact trivial
      | error failure =>
        show Aborts (Dialogue.within context (if failure.isNotSupported then _ else _))
        split <;> exact trivial
  · exact trivial

theorem writes_aborts : Writes d d.offers fun _ x _ => x.Aborts where
  done := aborts_done
  bind := Aborts.bind
  within := Aborts.within
  optional := d.aborts_optional
  primary := d.aborts_primary
  put := aborts_put

theorem wordless_require (command : String) (k : Kind) : (d.require command k).Wordless := by
  unfold require
  split <;> exact trivial

theorem wordless_primary (command : String) (k : Kind) (filter : Filter) (context : String) :
    (d.primary command k filter context).Wordless := by
  refine (d.wordless_require command k).bind fun _ answer => ?_
  cases answer with
  | ok rows => exact trivial
  | error failure =>
    show Wordless (if failure.isNotSupported then _ else _)
    split <;> exact trivial

theorem wordless_optional (k : Kind) (filter : Filter) : (d.optional k filter).Wordless := by
  unfold optional
  split
  · intro answer
    cases answer with
    | ok rows => exact trivial
    | error failure =>
      show Wordless (if failure.isNotSupported then _ else _)
      split <;> exact trivial
  · exact trivial

theorem asks_wordless : Asks d d.offers fun _ x _ => x.Wordless where
  done := wordless_done
  bind := Wordless.bind
  within := Wordless.within
  optional := fun k filter => (d.wordless_optional k filter).within

end Describer

/-! ## Commands -/

namespace MetaCommand

theorem aborts_dialogue (c : MetaCommand) (d : Describer) (overridden : ¬c.Overridden d.config) :
    (c.dialogue d).Aborts :=
  d.writes_aborts.dialogue_self c overridden (d.aborts_require _ _)

def Describes (c : MetaCommand) : Prop :=
  ∃ pattern verbose showSystem, c = .describeRelations pattern verbose showSystem

theorem asksFirst_dialogue (c : MetaCommand) (d : Describer) (overridden : ¬c.Overridden d.config)
    (lists : ¬c.Describes) : (c.dialogue d).AsksFirst := by
  have either (none_left : Bool) (one other : Document) :
      (if none_left then Dialogue.put one else .put other).AsksFirst := by
    cases none_left <;> exact asksFirst_put _
  cases c with
  | listDatabases pattern verbose =>
    have config : d.config.listDatabases = none :=
      Option.eq_none_iff_forall_ne_some.2 fun list e =>
        overridden ⟨pattern, verbose, rfl, by simp [e]⟩
    unfold dialogue Describer.listDatabases
    rw [config]
    exact (d.wordless_primary _ _ _ _).bind_asksFirst fun _ => asksFirst_put _
  | listSchemas pattern _ showSystem =>
    exact (d.wordless_primary _ _ _ _).bind_asksFirst fun _ => asksFirst_put _
  | describeRelations pattern verbose showSystem =>
    exact absurd ⟨pattern, verbose, showSystem, rfl⟩ lists
  | listTables codes pattern verbose showSystem =>
    exact (d.wordless_primary _ _ _ _).bind_asksFirst fun _ => either _ _ _
  | listIndexes pattern verbose showSystem =>
    exact (d.wordless_primary _ _ _ _).bind_asksFirst fun _ => either _ _ _
  | listFunctions codes pattern verbose showSystem =>
    refine (d.wordless_primary _ _ _ _).bind_asksFirst fun rows => ?_
    refine Wordless.bind_asksFirst ?_ fun _ => asksFirst_put _
    exact d.asks_wordless.mapM (g := d.withArguments) d.asks_wordless.withArguments _
  | showStats pattern verbose k =>
    refine (d.wordless_require _ _).bind_asksFirst fun _ => ?_
    refine (d.asks_wordless.rowsOfFirst pattern).bind_asksFirst fun rows => ?_
    exact (d.wordless_primary _ _ _ _).bind_asksFirst fun _ => either _ _ _
  | listPrivileges pattern showSystem =>
    exact (d.wordless_primary _ _ _ _).bind_asksFirst fun _ => asksFirst_put _

def exchangesOn {σ : Type} (c : MetaCommand) (r : Reader σ) (config : Config) (encoder : Encoder)
    (state : σ) (sink : Sink) : List Exchange :=
  (c.dialogue (.ofReader r config)).exchanges r encoder state sink

/-- What the configuration does in place of a command gets no reader, so no query is asked. -/
theorem exchangesOn_of_overridden {σ : Type} {c : MetaCommand} {r : Reader σ} {config : Config}
    {encoder : Encoder} {state : σ} {sink : Sink}
    (override : ∀ list, config.listDatabases = some list →
      ∀ pattern verbose, (list pattern verbose).Queryless)
    (overridden : c.Overridden config) : c.exchangesOn r config encoder state sink = [] := by
  obtain ⟨pattern, verbose, rfl, replaced⟩ := overridden
  obtain ⟨list, e⟩ := Option.ne_none_iff_exists'.1 replaced
  have runs :
      (listDatabases pattern verbose).dialogue (.ofReader r config) = list pattern verbose := by
    have configured : (Describer.ofReader r config).config.listDatabases = some list := e
    unfold dialogue Describer.listDatabases
    rw [configured]
  unfold exchangesOn
  rw [runs]
  exact (override list e pattern verbose).exchanges_eq state sink

/-- Once a query fails with anything but `notSupported`, the command asks no further and fails with
that failure in one context or more; what the configuration does in place of a command asks nothing
at all. The command has written nothing if it is not about the description of relations, and else
what it has written is written by all runs with the same exchanges so far, whatever comes then. -/
theorem runOn_failed {σ : Type} (c : MetaCommand) (r : Reader σ) (config : Config)
    (encoder : Encoder) (state : σ) (sink : Sink)
    (override : ∀ list, config.listDatabases = some list →
      ∀ pattern verbose, (list pattern verbose).Queryless)
    {earlier later : List Exchange} {x : Exchange} {failure : Failure}
    (asked : c.exchangesOn r config encoder state sink = earlier ++ x :: later)
    (failed : x.answer = .error failure) (other : failure ≠ .notSupported) :
    let run := c.runOn r config encoder state sink
    later = [] ∧
      (∃ context contexts, run.1 = .error (failure.inContexts (context :: contexts))) ∧
      (¬c.Describes → run.2.2 = sink) ∧
      ∀ (τ : Type) (r' : Reader τ) (state' : τ), r'.driver = r.driver → r'.offers = r.offers →
        earlier <+: c.exchangesOn r' config encoder state' sink →
        ∃ more, (c.runOn r' config encoder state' sink).2.2.text = run.2.2.text ++ more := by
  intro run
  have overridden : ¬c.Overridden config := by
    intro overridden
    rw [exchangesOn_of_overridden override overridden] at asked
    exact absurd asked (by simp)
  have aborts := c.aborts_dialogue (.ofReader r config) overridden
  obtain ⟨last, fails⟩ := aborts.run asked failed other
  refine ⟨last, fails, fun lists => ?_, fun τ r' state' driver offers same => ?_⟩
  · exact (c.asksFirst_dialogue _ overridden lists).run aborts asked failed other
  · have describer : Describer.ofReader r' config = .ofReader r config := by
      simp [Describer.ofReader, driver, offers]
    unfold exchangesOn at same
    rw [describer] at same
    obtain ⟨more, written⟩ := aborts.run_text asked failed other same
    refine ⟨more, ?_⟩
    unfold runOn
    rw [describer]
    exact written

/-- The indexes of a table cannot be listed, after its columns were written. -/
theorem runOn_failed_indexes :
    let s : Snapshot := { tables := [{ name := "t" }] }
    let r := (s.reader .all .none).failing fun k =>
      if k = .indexes then some ⟨0, .driver "down"⟩ else none
    let c : MetaCommand := .describeRelations "t" false false
    let asked := c.exchangesOn r {} .table ([], []) {}
    let failed : Exchange :=
      ⟨.indexes, Describer.partsOf "" "t", .error (.driver "down")⟩
    ({} : Config).listDatabases = none ∧ asked = asked.take 2 ++ [failed] ∧
      ∃ context contexts, (c.runOn r {} .table ([], []) {}).1 =
        .error ((Failure.driver "down").inContexts (context :: contexts)) := by
  intro s r c asked failed
  have last : asked = asked.take 2 ++ [failed] := by rfl
  exact ⟨rfl, last, (runOn_failed c r {} .table ([], []) {} nofun last rfl (by simp)).2.1⟩

end MetaCommand

end CatalogReport
