import CatalogReport.Describe.Dialogue
import CatalogReport.Reader.Snapshot

/-!
# Runs of a dialogue

Three views of a dialogue that do without the reader it is held with:

* `answered` answers its questions beforehand. With a reader whose answers do not depend on its
  state the run is that of the answered dialogue (`run_answered`), so two dialogues that are the
  same once answered run alike (`run_congr`).
* `Proper` is checked on the tree: the dialogue asks only for kinds on offer, it ends when a
  document is refused, and it does not end with `notSupported`.
* `Tells` derives the value and the documents of a dialogue whose documents are all taken.
-/

namespace CatalogReport

abbrev Answers := (k : Kind) → Filter → Except Failure (List k.Row)

def Reader.Steady {σ : Type} (r : Reader σ) (answers : Answers) : Prop :=
  ∀ k filter state, (r.ask k filter state).1 = answers k filter

theorem Snapshot.steady_reader (s : Snapshot) (offers declined : Capabilities) :
    (s.reader offers declined).Steady (s.answer declined) :=
  fun _ _ _ => rfl

namespace Dialogue

variable {α β σ τ : Type}

/-! ## Answered dialogues -/

def answered (answers : Answers) : Dialogue α → Dialogue α
  | .done value => .done value
  | .fail failure => .fail failure
  | .ask k filter next => (next (answers k filter)).answered answers
  | .hand document next => .hand document fun reply => (next reply).answered answers

@[simp]
theorem answered_bind (answers : Answers) (d : Dialogue α) (f : α → Dialogue β) :
    (d >>= f).answered answers = d.answered answers >>=
      fun value => (f value).answered answers := by
  simp only [bind_eq]
  induction d with
  | done value => rfl
  | fail failure => rfl
  | ask k filter next ih => exact ih (answers k filter)
  | hand document next ih => simp only [andThen, answered, ih]

theorem answered_bind_of_done {answers : Answers} {d : Dialogue α} {value : α}
    (h : d.answered answers = .done value) (f : α → Dialogue β) :
    (d >>= f).answered answers = (f value).answered answers := by
  rw [answered_bind, h]
  rfl

theorem answered_bind_of_fail {answers : Answers} {d : Dialogue α} {failure : Failure}
    (h : d.answered answers = .fail failure) (f : α → Dialogue β) :
    (d >>= f).answered answers = .fail failure := by
  rw [answered_bind, h]
  rfl

theorem answered_mapM_of_done {answers : Answers} {f : α → Dialogue β} {g : α → β}
    (h : ∀ a, (f a).answered answers = .done (g a)) (items : List α) :
    (items.mapM f).answered answers = .done (items.map g) := by
  induction items with
  | nil => rfl
  | cons a items ih =>
    rw [List.mapM_cons, answered_bind_of_done (h a), answered_bind_of_done ih]
    rfl

@[simp]
theorem answered_within (answers : Answers) (d : Dialogue α) (context : String) :
    (d.within context).answered answers = (d.answered answers).within context := by
  induction d with
  | done value => rfl
  | fail failure => rfl
  | ask k filter next ih => exact ih (answers k filter)
  | hand document next ih => simp only [within, answered, ih]

theorem run_answered {r : Reader σ} {answers : Answers} (steady : r.Steady answers)
    (r' : Reader τ) (encoder : Encoder) (d : Dialogue α) (state : σ) (state' : τ) (sink : Sink) :
    (d.run r encoder state sink).1 = ((d.answered answers).run r' encoder state' sink).1 ∧
      (d.run r encoder state sink).2.2 =
        ((d.answered answers).run r' encoder state' sink).2.2 := by
  induction d generalizing state sink with
  | done value => exact ⟨rfl, rfl⟩
  | fail failure => exact ⟨rfl, rfl⟩
  | ask k filter next ih =>
    have answer := steady k filter state
    simp only [run, answered, ← answer]
    exact ih _ _ _
  | hand document next ih =>
    simp only [run, answered]
    cases sink.put (encoder.encode document) with
    | ok sink => exact ih _ _ _
    | error failure => exact ih _ _ _

theorem run_of_answered_fail {r : Reader σ} {answers : Answers} (steady : r.Steady answers)
    {d : Dialogue α} {failure : Failure} (h : d.answered answers = .fail failure)
    (encoder : Encoder) (state : σ) (sink : Sink) :
    (d.run r encoder state sink).1 = .error failure ∧ (d.run r encoder state sink).2.2 = sink := by
  have same := run_answered steady r encoder d state state sink
  rw [h] at same
  exact same

theorem run_congr {r : Reader σ} {r' : Reader τ} {answers answers' : Answers}
    (steady : r.Steady answers) (steady' : r'.Steady answers') {d d' : Dialogue α}
    (same : d.answered answers = d'.answered answers') (encoder : Encoder) (state : σ) (state' : τ)
    (sink : Sink) :
    (d.run r encoder state sink).1 = (d'.run r' encoder state' sink).1 ∧
      (d.run r encoder state sink).2.2 = (d'.run r' encoder state' sink).2.2 := by
  have left := run_answered steady r' encoder d state state' sink
  have right := run_answered steady' r' encoder d' state' state' sink
  rw [same] at left
  exact ⟨left.1.trans right.1.symm, left.2.trans right.2.symm⟩

/-- Once answered the dialogue is a value: it hands out nothing and does not fail. -/
def Quiet (answers : Answers) (d : Dialogue α) : Prop :=
  ∃ value, d.answered answers = .done value

section

variable {answers : Answers}

theorem quiet_done (value : α) : (done value).Quiet answers :=
  ⟨value, rfl⟩

theorem Quiet.bind {d : Dialogue α} {f : α → Dialogue β} (h : d.Quiet answers)
    (hf : ∀ value, (f value).Quiet answers) : (d >>= f).Quiet answers := by
  obtain ⟨value, e⟩ := h
  obtain ⟨value', e'⟩ := hf value
  exact ⟨value', by rw [answered_bind_of_done e, e']⟩

theorem Quiet.within {d : Dialogue α} (h : d.Quiet answers) (context : String) :
    (d.within context).Quiet answers := by
  obtain ⟨value, e⟩ := h
  exact ⟨value, by rw [answered_within, e]; rfl⟩

end

/-! ## What is written -/

theorem put_ne_notSupported {sink : Sink} {text : String} {failure : Failure}
    (h : sink.put text = .error failure) : failure ≠ .notSupported := by
  unfold Sink.put at h
  grind

theorem text_of_put {sink sink' : Sink} {text : String} (h : sink.put text = .ok sink') :
    sink'.text = sink.text ++ text ∧ sink'.limit = sink.limit := by
  unfold Sink.put at h
  grind

theorem run_text (d : Dialogue α) (r : Reader σ) (encoder : Encoder) (state : σ) (sink : Sink) :
    ∃ more, (d.run r encoder state sink).2.2.text = sink.text ++ more := by
  induction d generalizing state sink with
  | done value => exact ⟨"", by simp [Dialogue.run]⟩
  | fail failure => exact ⟨"", by simp [Dialogue.run]⟩
  | ask k filter next ih => exact ih _ _ _
  | hand document next ih =>
    simp only [Dialogue.run]
    cases hp : sink.put (encoder.encode document) with
    | ok taken =>
      obtain ⟨more, e⟩ := ih (.ok ()) state taken
      refine ⟨encoder.encode document ++ more, ?_⟩
      rw [e, (text_of_put hp).1, String.append_assoc]
    | error refusal => exact ih _ _ _

/-! ## Proper dialogues -/

/-- The dialogue asks only for kinds on offer and does not end with `notSupported`; a document that
is refused ends it. -/
def Proper (offers : Capabilities) : Dialogue α → Prop
  | .done _ => True
  | .fail failure => failure ≠ .notSupported
  | .ask k _ next => offers.has k = true ∧ ∀ answer, (next answer).Proper offers
  | .hand _ next => (next (.ok ())).Proper offers ∧
      ∀ refusal, refusal ≠ .notSupported →
        ∃ failure, failure ≠ .notSupported ∧ next (.error refusal) = .fail failure

variable {offers : Capabilities}

theorem proper_done (value : α) : (done value).Proper offers :=
  trivial

theorem proper_put (document : Document) : (put document).Proper offers :=
  ⟨trivial, fun refusal h => ⟨refusal, h, rfl⟩⟩

theorem Proper.bind {d : Dialogue α} {f : α → Dialogue β} (h : d.Proper offers)
    (hf : ∀ value, (f value).Proper offers) : (d >>= f).Proper offers := by
  rw [bind_eq]
  induction d with
  | done value => exact hf value
  | fail failure => exact h
  | ask k filter next ih => exact ⟨h.1, fun answer => ih answer (h.2 answer)⟩
  | hand document next ih =>
    refine ⟨ih _ h.1, fun refusal hr => ?_⟩
    obtain ⟨failure, hf, e⟩ := h.2 refusal hr
    exact ⟨failure, hf, congrArg (·.andThen f) e⟩

theorem Proper.within {d : Dialogue α} (h : d.Proper offers) (context : String) :
    (d.within context).Proper offers := by
  induction d with
  | done value => trivial
  | fail failure => exact Failure.noConfusion
  | ask k filter next ih => exact ⟨h.1, fun answer => ih answer (h.2 answer)⟩
  | hand document next ih =>
    refine ⟨ih _ h.1, fun refusal hr => ?_⟩
    obtain ⟨failure, -, e⟩ := h.2 refusal hr
    exact ⟨failure.within context, Failure.noConfusion, congrArg (·.within context) e⟩

/-- One step asks for a kind on offer; so does a whole run, and `notSupported` never comes out of
it. -/
theorem Proper.run {d : Dialogue α} (h : d.Proper offers) (s : Snapshot)
    (exposed declined : Capabilities) (encoder : Encoder) (tally : Tally) (sink : Sink) :
    (∃ asked, (d.run (s.reader exposed declined) encoder tally sink).2.1 = asked ++ tally ∧
      ∀ k ∈ asked, offers.has k = true) ∧
    (d.run (s.reader exposed declined) encoder tally sink).1 ≠ .error .notSupported := by
  induction d generalizing tally sink with
  | done value => exact ⟨⟨[], rfl, by simp⟩, fun e => by cases e⟩
  | fail failure => exact ⟨⟨[], rfl, by simp⟩, fun e => h (by cases e; rfl)⟩
  | ask k filter next ih =>
    -- The latest query is at the front, so this one comes after those of the rest of the run.
    obtain ⟨⟨asked, e, all⟩, outcome⟩ := ih (s.answer declined k filter) (h.2 _) (k :: tally) sink
    refine ⟨⟨asked ++ [k], ?_, ?_⟩, outcome⟩
    · rw [List.append_assoc]
      exact e
    · intro k' hk'
      rcases List.mem_append.1 hk' with hk' | hk'
      · exact all k' hk'
      · exact List.mem_singleton.1 hk' ▸ h.1
  | hand document next ih =>
    simp only [Dialogue.run]
    cases hp : sink.put (encoder.encode document) with
    | ok sink => exact ih _ h.1 tally sink
    | error refusal =>
      obtain ⟨failure, hf, e⟩ := h.2 refusal (put_ne_notSupported hp)
      simp only [e, Dialogue.run]
      exact ⟨⟨[], rfl, by simp⟩, fun e => hf (by cases e; rfl)⟩

/-! ## Told documents -/

/-- With these answers, and all documents taken, the dialogue ends with a value after these
documents. -/
inductive Tells (answers : Answers) : Dialogue α → α → List Document → Prop where
  | done (value : α) : Tells answers (.done value) value []
  | ask {k : Kind} {filter : Filter} {next : Except Failure (List k.Row) → Dialogue α} {value : α}
      {documents : List Document} (h : Tells answers (next (answers k filter)) value documents) :
      Tells answers (.ask k filter next) value documents
  | hand {document : Document} {next : Except Failure Unit → Dialogue α} {value : α}
      {documents : List Document} (h : Tells answers (next (.ok ())) value documents) :
      Tells answers (.hand document next) value (document :: documents)

variable {answers : Answers}

theorem tells_put (document : Document) : (put document).Tells answers () [document] :=
  .hand (.done ())

theorem Tells.bind {d : Dialogue α} {f : α → Dialogue β} {a : α} {b : β}
    {documents more : List Document} (h : d.Tells answers a documents)
    (hf : (f a).Tells answers b more) : (d >>= f).Tells answers b (documents ++ more) := by
  rw [bind_eq]
  induction h with
  | done value => exact hf
  | ask _ ih => exact .ask (ih hf)
  | hand _ ih => exact .hand (ih hf)

/-- What comes after hands out nothing. -/
theorem Tells.bind_quietly {d : Dialogue α} {f : α → Dialogue β} {a : α} {b : β}
    {documents : List Document} (h : d.Tells answers a documents)
    (hf : (f a).Tells answers b []) : (d >>= f).Tells answers b documents := by
  have both := h.bind hf
  rwa [List.append_nil] at both

theorem Tells.within {d : Dialogue α} {a : α} {documents : List Document}
    (h : d.Tells answers a documents) (context : String) :
    (d.within context).Tells answers a documents := by
  induction h with
  | done value => exact .done value
  | ask _ ih => exact .ask ih
  | hand _ ih => exact .hand ih

theorem Tells.mapM {f : α → Dialogue β} {g : α → β} {documents : α → List Document}
    (h : ∀ a, (f a).Tells answers (g a) (documents a)) (items : List α) :
    (items.mapM f).Tells answers (items.map g) (items.flatMap documents) := by
  induction items with
  | nil => exact .done []
  | cons a items ih =>
    rw [List.mapM_cons]
    exact (h a).bind (ih.bind_quietly (.done (g a :: items.map g)))

theorem Tells.forM {f : α → Dialogue PUnit} {documents : α → List Document}
    (h : ∀ a, (f a).Tells answers () (documents a)) (items : List α) :
    (items.forM f).Tells answers () (items.flatMap documents) := by
  induction items with
  | nil => exact .done ()
  | cons a items ih => exact (h a).bind ih

theorem tells_of_answered {d : Dialogue α} {value : α} (h : d.answered answers = .done value) :
    d.Tells answers value [] := by
  induction d with
  | done value' => cases h; exact .done _
  | fail failure => cases h
  | ask k filter next ih => exact .ask (ih _ h)
  | hand document next ih => cases h

/-- The documents that a dialogue hands out when all of them are taken. -/
def told (answers : Answers) : Dialogue α → List Document
  | .done _ => []
  | .fail _ => []
  | .ask k filter next => (next (answers k filter)).told answers
  | .hand document next => document :: (next (.ok ())).told answers

theorem Tells.told_eq {d : Dialogue α} {a : α} {documents : List Document}
    (h : d.Tells answers a documents) : d.told answers = documents := by
  induction h with
  | done value => rfl
  | ask _ ih => exact ih
  | hand _ ih => exact congrArg _ ih

/-- The run ends with the value after it has written the documents, or one of them was refused; a
sink without a limit refuses none. -/
theorem Tells.run {d : Dialogue α} {a : α} {documents : List Document}
    (h : d.Tells answers a documents) (proper : d.Proper offers) {r : Reader σ}
    (steady : r.Steady answers) (encoder : Encoder) (state : σ) (sink : Sink) :
    ((d.run r encoder state sink).1 = .ok a ∧
      (d.run r encoder state sink).2.2.text =
        sink.text ++ String.join (documents.map encoder.encode)) ∨
    (sink.limit ≠ none ∧ ∃ failure, (d.run r encoder state sink).1 = .error failure) := by
  induction h generalizing state sink with
  | done value => exact .inl ⟨rfl, by simp [Dialogue.run]⟩
  | @ask k filter _ _ _ _ ih =>
    have answer := steady k filter state
    simp only [Dialogue.run, answer]
    exact ih (proper.2 _) _ _
  | @hand document next value documents _ ih =>
    simp only [Dialogue.run]
    cases hp : sink.put (encoder.encode document) with
    | ok sink' =>
      obtain ⟨text, limit⟩ := text_of_put hp
      rcases ih proper.1 state sink' with ⟨outcome, written⟩ | ⟨limited, failed⟩
      · exact .inl ⟨outcome, by rw [written, text]; simp [String.append_assoc]⟩
      · exact .inr ⟨limit ▸ limited, failed⟩
    | error refusal =>
      obtain ⟨failure, -, e⟩ := proper.2 refusal (put_ne_notSupported hp)
      refine .inr ⟨fun unlimited => ?_, failure, ?_⟩
      · -- Without a limit nothing is refused.
        simp [Sink.put, unlimited] at hp
      · simp only [e, Dialogue.run]

theorem Tells.run_written {d : Dialogue α} {a : α} {documents : List Document}
    (h : d.Tells answers a documents) (proper : d.Proper offers) {r : Reader σ}
    (steady : r.Steady answers) (encoder : Encoder) (state : σ) (sink : Sink) :
    (sink.limit = none → (d.run r encoder state sink).1 = .ok a) ∧
      ((d.run r encoder state sink).1 = .ok a →
        (d.run r encoder state sink).2.2.text =
          sink.text ++ String.join (documents.map encoder.encode)) := by
  rcases h.run proper steady encoder state sink with ⟨ended, written⟩ | ⟨limited, failure, failed⟩
  · exact ⟨fun _ => ended, fun _ => written⟩
  · exact ⟨fun unlimited => absurd unlimited limited,
      fun ended => absurd (ended.symm.trans failed) (by simp)⟩

theorem Tells.run_document {d : Dialogue α} {a : α} {document : Document}
    (h : d.Tells answers a [document]) (proper : d.Proper offers) {r : Reader σ}
    (steady : r.Steady answers) (encoder : Encoder) (state : σ) (sink : Sink) :
    (sink.limit = none → (d.run r encoder state sink).1 = .ok a) ∧
      ((d.run r encoder state sink).1 = .ok a →
        (d.run r encoder state sink).2.2.text = sink.text ++ encoder.encode document) := by
  have written := h.run_written proper steady encoder state sink
  rwa [List.map_singleton, String.join_cons, String.join_nil, String.append_empty] at written

end Dialogue

end CatalogReport
