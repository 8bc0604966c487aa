import CatalogReport.Proofs.FailedQueries
import CatalogReport.Proofs.Served
import CatalogReport.Proofs.WritingPass

/-!
# Lists of functions in two passes

A list of functions is made in two passes over one set of rows. The first goes from row to row, asks
for the parameters of the function and writes the row back with its arguments (`fillArguments`);
then the set is reset, and the second pass hands out the cells. The command is the same dialogue
(`listFunctions_eq`): the first pass touches nothing but the arguments of rows that are shown, so
the second reaches the same rows.
-/

namespace CatalogReport

namespace Dialogue

variable {α β : Type}

/-! ## Values of a dialogue -/

/-- Every value that the dialogue can end with satisfies `P`. -/
def GivesOnly (P : α → Prop) : Dialogue α → Prop
  | .done value => P value
  | .fail _ => True
  | .ask _ _ next => ∀ answer, (next answer).GivesOnly P
  | .hand _ next => ∀ reply, (next reply).GivesOnly P

variable {P : α → Prop} {Q : β → Prop}

theorem givesOnly_true (d : Dialogue α) : d.GivesOnly fun _ => True := by
  induction d with
  | done value => exact trivial
  | fail failure => exact trivial
  | ask k filter next ih => exact ih
  | hand document next ih => exact ih

theorem GivesOnly.bind {d : Dialogue α} {f : α → Dialogue β} (h : d.GivesOnly P)
    (hf : ∀ value, P value → (f value).GivesOnly Q) : (d >>= f).GivesOnly Q := by
  rw [bind_eq]
  induction d with
  | done value => exact hf value h
  | fail failure => exact trivial
  | ask k filter next ih => exact fun answer => ih answer (h answer)
  | hand document next ih => exact fun reply => ih reply (h reply)

theorem givesOnly_mapM {R : α → β → Prop} {f : α → Dialogue β} (hf : ∀ a, (f a).GivesOnly (R a))
    (items : List α) : (items.mapM f).GivesOnly (List.Forall₂ R items) := by
  induction items with
  | nil => exact .nil
  | cons a items ih =>
    rw [List.mapM_cons]
    exact (hf a).bind fun b hb => ih.bind fun rest hr => List.Forall₂.cons hb hr

/-- What comes after matters only at the values that the dialogue can end with. -/
theorem GivesOnly.bind_congr {d : Dialogue α} {f g : α → Dialogue β} (h : d.GivesOnly P)
    (same : ∀ value, P value → f value = g value) : d >>= f = d >>= g := by
  simp only [bind_eq]
  induction d with
  | done value => exact same value h
  | fail failure => rfl
  | ask k filter next ih => simp only [andThen, funext fun answer => ih answer (h answer)]
  | hand document next ih => simp only [andThen, funext fun reply => ih reply (h reply)]

/-! ## Queries of a dialogue -/

/-- The queries of a dialogue whose documents are all taken, with their answers. -/
def asked (answers : Answers) : Dialogue α → List Exchange
  | .done _ => []
  | .fail _ => []
  | .ask k filter next => ⟨k, filter, answers k filter⟩ :: (next (answers k filter)).asked answers
  | .hand _ next => (next (.ok ())).asked answers

variable {answers : Answers}

theorem asked_within (d : Dialogue α) (context : String) :
    (d.within context).asked answers = d.asked answers := by
  induction d with
  | done value => rfl
  | fail failure => rfl
  | ask k filter next ih => exact congrArg (List.cons _) (ih (answers k filter))
  | hand document next ih => exact ih (.ok ())

theorem asked_bind {d : Dialogue α} {value : α} (h : d.answered answers = .done value)
    (f : α → Dialogue β) :
    (d >>= f).asked answers = d.asked answers ++ (f value).asked answers := by
  rw [bind_eq]
  induction d with
  | done value' =>
    cases h
    rfl
  | fail failure => cases h
  | ask k filter next ih => exact congrArg (List.cons _) (ih (answers k filter) h)
  | hand document next ih => cases h

theorem asked_mapM {f : α → Dialogue β} {g : α → β}
    (h : ∀ a, (f a).answered answers = .done (g a)) (items : List α) :
    (items.mapM f).asked answers = items.flatMap fun a => (f a).asked answers := by
  induction items with
  | nil => rfl
  | cons a items ih =>
    rw [List.mapM_cons, asked_bind (h a), asked_bind (answered_mapM_of_done h items), ih,
      List.flatMap_cons]
    simp [asked]

/-- A dialogue that asks before it writes asks the same whether its document is taken or not. -/
theorem AsksFirst.exchanges_eq {σ : Type} {d : Dialogue α} (h : d.AsksFirst) {r : Reader σ}
    (steady : r.Steady answers) (encoder : Encoder) (state : σ) (sink : Sink) :
    d.exchanges r encoder state sink = d.asked answers := by
  induction d generalizing state with
  | done value => rfl
  | fail failure => rfl
  | ask k filter next ih =>
    rw [exchanges_ask, steady k filter state, asked, ih _ (h _)]
  | hand document next ih =>
    have silent : (next (.ok ())).asked answers = [] := by
      rcases h (.ok ()) with ⟨value, e⟩ | ⟨failure, e⟩ <;> rw [e] <;> rfl
    rw [asked, silent, exchanges]
    split
    · rcases h (.ok ()) with ⟨value, e⟩ | ⟨failure, e⟩ <;> rw [e] <;> rfl
    · rename_i refusal _
      rcases h (.error refusal) with ⟨value, e⟩ | ⟨failure, e⟩ <;> rw [e] <;> rfl

end Dialogue

/-- A signature is made of the parts that are not empty, the direction only if it is not the usual
one. -/
theorem FunctionColumn.signature_eq (c : FunctionColumn) :
    c.signature = " ".intercalate (
      (if c.parameterMode = "IN" then [c.name, c.dataType]
        else [c.parameterMode, c.name, c.dataType]).filter (· ≠ "")) := by
  have nonempty : (fun part : String => !part.isEmpty) = fun part => decide (part ≠ "") := by
    funext part
    rw [Bool.eq_iff_iff]
    simp
  unfold FunctionColumn.signature inwardMode
  rw [nonempty]
  by_cases inward : c.parameterMode = "IN" <;> simp [inward]

namespace Describer

open Dialogue (GivesOnly givesOnly_mapM givesOnly_true)

variable (d : Describer)

/-! ## Two passes -/

def functionsOf (codes pattern : String) (showSystem : Bool) : Filter :=
  { matching pattern showSystem with types := .ofList (d.config.functionTypes.typesFor codes) }

/-- The functions of an answer as a set that passes over those that are hidden. -/
def screened (showSystem : Bool) (rows : List Function) : ResultSet Function :=
  if showSystem then { rows := rows }
  else { rows := rows, predicate := some fun f => !d.config.isSystemSchema f.schema }

/-- The first pass: every function that is reached is written over with its arguments. -/
def fillArguments (set : ResultSet Function) : Dialogue (ResultSet Function) :=
  if _moved : set.next.1 = true then
    match set.next.2.get? with
    | some f => do
      let filled ← d.withArguments f
      fillArguments (set.next.2.overwrite filled).2
    | none => fillArguments set.next.2
  else .done set.next.2
termination_by set.ahead
decreasing_by
  · rw [ResultSet.ahead_overwrite]
    exact ResultSet.ahead_next _moved
  · exact ResultSet.ahead_next _moved

/-- Lists the functions in two passes, the first only if parameters are on offer. -/
def listFunctionsInPasses (codes pattern : String) (verbose showSystem : Bool) : Dialogue Unit := do
  let rows ← d.primary "\\df" .functions (d.functionsOf codes pattern showSystem)
    "failed to list functions"
  let set := d.screened showSystem rows
  let set ←
    if d.offers.has .functionColumns then do
      let filled ← d.fillArguments set
      .done filled.reset
    else .done set
  let shown := (set.setHeaders (functionHeaders verbose)).setProjection (functionCells verbose)
  .put (.table shown.grid.1 (d.titled "List of functions"))

def showsFunction (showSystem : Bool) (f : Function) : Bool :=
  showSystem || !d.config.isSystemSchema f.schema

def shownFunctions (showSystem : Bool) (rows : List Function) : List Function :=
  rows.filter (d.showsFunction showSystem)

theorem accepts_screened (showSystem : Bool) (rows : List Function) :
    (d.screened showSystem rows).accepts = d.showsFunction showSystem := by
  unfold screened showsFunction
  cases showSystem <;> rfl

theorem screened_fresh (showSystem : Bool) (rows : List Function) :
    (d.screened showSystem rows).rows = rows ∧ (d.screened showSystem rows).position = 0 ∧
      (d.screened showSystem rows).closed = false := by
  unfold screened
  cases showSystem <;> exact ⟨rfl, rfl, rfl⟩

theorem remaining_screened (showSystem : Bool) (rows : List Function) :
    (d.screened showSystem rows).remaining = d.shownFunctions showSystem rows := by
  obtain ⟨stored, first, isOpen⟩ := d.screened_fresh showSystem rows
  rw [ResultSet.remaining, isOpen, first, stored, accepts_screened]
  rfl

/-- The first pass asks for the arguments of one row after the other and writes them over the
rows. -/
theorem fillArguments_eq (set : ResultSet Function) :
    d.fillArguments set =
      set.remaining.mapM d.withArguments >>= fun filled => .done (set.writeThrough filled) := by
  -- A row that is written over is behind the cursor: what is left goes down to the rows after it.
  generalize left : set.remaining = rows
  induction rows generalizing set with
  | nil =>
    rcases set.next_cases with ⟨ended, -⟩ | ⟨-, row, -, more⟩
    · rw [fillArguments, dif_neg (by simp [ended])]
      rfl
    · exact absurd (left.symm.trans more) (by simp)
  | cons f rows ih =>
    rcases set.next_cases with ⟨-, none_left⟩ | ⟨moved, row, reached, more⟩
    · exact absurd (left.symm.trans none_left) (by simp)
    · obtain ⟨rfl, -⟩ := List.cons.inj (left.symm.trans more)
      rw [fillArguments, dif_pos moved, reached, List.mapM_cons, bind_assoc]
      refine bind_congr fun filled => ?_
      obtain ⟨row', reached', behind⟩ := ResultSet.remaining_overwrite_next moved filled
      rw [ih _ (List.cons.inj (behind.symm.trans left)).2, bind_assoc]
      rfl

/-! ## What the first pass changes -/

/-- The second function is the first one with other arguments, or the same. -/
def SameButArguments (f g : Function) : Prop :=
  g = { f with argTypes := g.argTypes }

theorem givesOnly_withArguments (f : Function) :
    (d.withArguments f).GivesOnly (SameButArguments f) := by
  refine (givesOnly_true _).bind fun parameters _ => ?_
  cases parameters <;> exact rfl

theorem showsFunction_eq {f g : Function} (h : SameButArguments f g) (showSystem : Bool) :
    d.showsFunction showSystem g = d.showsFunction showSystem f := by
  rw [h]
  rfl

theorem shows_of_forall₂ {showSystem : Bool} {functions filled : List Function}
    (each : List.Forall₂ SameButArguments functions filled)
    (shown : ∀ f ∈ functions, d.showsFunction showSystem f = true) :
    ∀ g ∈ filled, d.showsFunction showSystem g = true := by
  induction each with
  | nil => simp
  | cons related _ ih =>
    obtain ⟨first, later⟩ := List.forall_mem_cons.1 shown
    refine List.forall_mem_cons.2 ⟨?_, ih later⟩
    rw [d.showsFunction_eq related, first]

/-- The first pass changes rows that are shown, and after it the second pass reaches just these. -/
theorem rows_filled {R : Function → Function → Prop} {showSystem : Bool}
    {rows filled : List Function}
    (stays : ∀ f, d.showsFunction showSystem f = false → R f f)
    (each : List.Forall₂ R (d.shownFunctions showSystem rows) filled)
    (same : List.Forall₂ SameButArguments (d.shownFunctions showSystem rows) filled) :
    List.Forall₂ R rows ((d.screened showSystem rows).writeThrough filled).rows ∧
      ((d.screened showSystem rows).writeThrough filled).reset.remaining = filled := by
  have accepted : ∀ g ∈ filled, (d.screened showSystem rows).accepts g = true := by
    rw [accepts_screened]
    exact d.shows_of_forall₂ same fun f listed => (List.mem_filter.1 listed).2
  rw [← remaining_screened] at each
  rw [← accepts_screened d showSystem rows] at stays
  obtain ⟨stored, first, isOpen⟩ := d.screened_fresh showSystem rows
  have pass := ResultSet.remaining_reset_writeThrough isOpen first stays each accepted
  rwa [stored] at pass

theorem mapM_withArguments_of_not_offered (offered : d.offers.has .functionColumns = false)
    (functions : List Function) : functions.mapM d.withArguments = .done functions := by
  have each (f : Function) : d.withArguments f = .done f := by
    unfold withArguments optional
    rw [if_neg (by simp [offered])]
    rfl
  induction functions with
  | nil => rfl
  | cons f functions ih =>
    rw [List.mapM_cons, each, ih]
    rfl

/-- The two passes are what the command does. -/
theorem listFunctions_eq (codes pattern : String) (verbose showSystem : Bool) :
    d.listFunctions codes pattern verbose showSystem =
      d.listFunctionsInPasses codes pattern verbose showSystem := by
  unfold listFunctions listFunctionsInPasses
  refine bind_congr fun (rows : List Function) => ?_
  show (d.shownFunctions showSystem rows).mapM d.withArguments >>= _ = _
  cases offered : d.offers.has .functionColumns with
  | true =>
    simp only [if_true, fillArguments_eq, remaining_screened, bind_assoc]
    refine (givesOnly_mapM d.givesOnly_withArguments _).bind_congr fun filled each => ?_
    have shown := (d.rows_filled (R := SameButArguments) (fun _ _ => rfl) each each).2
    show _ = Dialogue.put (.table ⟨functionHeaders verbose, List.map (functionCells verbose)
      ((d.screened showSystem rows).writeThrough filled).reset.remaining⟩ _)
    rw [shown]
    rfl
  | false =>
    rw [d.mapM_withArguments_of_not_offered offered]
    show _ = Dialogue.put (.table ⟨functionHeaders verbose, List.map (functionCells verbose)
      (d.screened showSystem rows).remaining⟩ _)
    rw [remaining_screened]
    rfl

/-! ## What a snapshot answers -/

variable (s : Snapshot) (declined : Capabilities)

def argumentsOf (f : Function) : String :=
  match d.served s declined .functionColumns (parametersOf f) with
  | some parameters => argumentText parameters
  | none => f.argTypes

def shownFunction (f : Function) : Function :=
  { f with argTypes := d.argumentsOf s declined f }

def parameterQueries (f : Function) : List Exchange :=
  if d.offers.has .functionColumns then
    [⟨.functionColumns, parametersOf f, s.answer declined .functionColumns (parametersOf f)⟩]
  else []

theorem answered_withArguments (f : Function) :
    (d.withArguments f).answered (s.answer declined) = .done (d.shownFunction s declined f) := by
  unfold withArguments shownFunction argumentsOf
  rw [Dialogue.answered_bind, Dialogue.answered_within, answered_optional]
  cases d.served s declined .functionColumns (parametersOf f) <;> rfl

theorem asked_optional (k : Kind) (filter : Filter) :
    (d.optional k filter).asked (s.answer declined) =
      if d.offers.has k then [⟨k, filter, s.answer declined k filter⟩] else [] := by
  unfold optional
  split
  · show Exchange.mk k filter _ :: Dialogue.asked _ _ = _
    refine congrArg _ ?_
    cases s.answer declined k filter with
    | ok rows => rfl
    | error failure =>
      show Dialogue.asked _ (if failure.isNotSupported then _ else _) = _
      split <;> rfl
  · rfl

theorem asked_primary (command : String) {k : Kind} (filter : Filter) (context : String)
    (h : d.serves declined k = true) :
    (d.primary command k filter context).asked (s.answer declined) =
      [⟨k, filter, .ok (s.select k filter)⟩] := by
  obtain ⟨offered, refused⟩ : d.offers.has k = true ∧ declined.has k = false := by
    simpa [serves] using h
  have answer : s.answer declined k filter = .ok (s.select k filter) := by
    simp [Snapshot.answer, refused]
  unfold primary
  rw [d.require_of_offered command offered]
  show Exchange.mk k filter (s.answer declined k filter) :: Dialogue.asked _ _ = _
  rw [answer]
  rfl

theorem asked_withArguments (f : Function) :
    (d.withArguments f).asked (s.answer declined) = d.parameterQueries s declined f := by
  have answered : ((d.optional .functionColumns (parametersOf f)).within
      ("failed to get columns of function " ++ f.schema ++ "." ++ f.specificName)).answered
        (s.answer declined) = .done (d.served s declined .functionColumns (parametersOf f)) := by
    rw [Dialogue.answered_within, answered_optional]
    rfl
  unfold withArguments
  rw [Dialogue.asked_bind answered, Dialogue.asked_within, asked_optional, parameterQueries]
  cases d.served s declined .functionColumns (parametersOf f) <;> exact List.append_nil _

theorem answered_fillArguments (set : ResultSet Function) :
    (d.fillArguments set).answered (s.answer declined) =
      .done (set.writeThrough (set.remaining.map (d.shownFunction s declined))) := by
  rw [fillArguments_eq, Dialogue.answered_bind_of_done
    (Dialogue.answered_mapM_of_done (d.answered_withArguments s declined) _)]
  rfl

theorem rows_fillArguments (showSystem : Bool) (rows : List Function) :
    let set := d.screened showSystem rows
    let filled := set.writeThrough (set.remaining.map (d.shownFunction s declined))
    (filled.rows = rows.map fun f =>
      if d.showsFunction showSystem f then d.shownFunction s declined f else f) ∧
    filled.reset.remaining =
      (d.shownFunctions showSystem rows).map (d.shownFunction s declined) := by
  intro set filled
  let R (f g : Function) : Prop :=
    (if d.showsFunction showSystem f then d.shownFunction s declined f else f) = g
  have each : List.Forall₂ R (d.shownFunctions showSystem rows)
      ((d.shownFunctions showSystem rows).map (d.shownFunction s declined)) :=
    List.forall₂_map_right_iff.2 (List.forall₂_same.2 fun f listed =>
      if_pos (List.mem_filter.1 listed).2)
  have same : List.Forall₂ SameButArguments (d.shownFunctions showSystem rows)
      ((d.shownFunctions showSystem rows).map (d.shownFunction s declined)) :=
    List.forall₂_map_right_iff.2 (List.forall₂_same.2 fun f listed => rfl)
  have pass := d.rows_filled (fun f hidden => if_neg (by simp [hidden])) each same
  rw [← remaining_screened] at pass
  refine ⟨?_, by rw [← remaining_screened]; exact pass.2⟩
  have placed := List.forall₂_map_left_iff.2 pass.1
  rw [List.forall₂_eq_eq_eq] at placed
  exact placed.symm

/-! ## Runs -/

def listedFunctions (codes pattern : String) (showSystem : Bool) : Dialogue (List Function) := do
  let rows ← d.primary "\\df" .functions (d.functionsOf codes pattern showSystem)
    "failed to list functions"
  (d.shownFunctions showSystem rows).mapM d.withArguments

theorem listFunctions_eq_table (codes pattern : String) (verbose showSystem : Bool) :
    d.listFunctions codes pattern verbose showSystem =
      d.listedFunctions codes pattern showSystem >>= fun rows =>
        d.table "List of functions" (functionHeaders verbose) (rows.map (functionCells verbose)) :=
  (bind_assoc _ _ _).symm

section

variable {codes pattern : String} {showSystem : Bool}

theorem answered_listedFunctions (h : d.serves declined .functions = true) :
    (d.listedFunctions codes pattern showSystem).answered (s.answer declined) =
      .done ((d.shownFunctions showSystem
        (s.select .functions (d.functionsOf codes pattern showSystem))).map
          (d.shownFunction s declined)) := by
  unfold listedFunctions
  rw [Dialogue.answered_bind, answered_primary, if_pos h]
  exact Dialogue.answered_mapM_of_done (d.answered_withArguments s declined) _

theorem asked_listedFunctions (h : d.serves declined .functions = true) :
    (d.listedFunctions codes pattern showSystem).asked (s.answer declined) =
      ⟨.functions, d.functionsOf codes pattern showSystem,
        .ok (s.select .functions (d.functionsOf codes pattern showSystem))⟩ ::
        (d.shownFunctions showSystem
          (s.select .functions (d.functionsOf codes pattern showSystem))).flatMap
            (d.parameterQueries s declined) := by
  have listed := d.answered_primary s declined "\\df" .functions
    (d.functionsOf codes pattern showSystem) "failed to list functions"
  rw [if_pos h] at listed
  unfold listedFunctions
  rw [Dialogue.asked_bind listed, d.asked_primary s declined _ _ _ h,
    Dialogue.asked_mapM (d.answered_withArguments s declined),
    funext fun f => d.asked_withArguments s declined f]
  rfl

theorem answered_listFunctions_of_not_served (h : d.serves declined .functions = false)
    (verbose : Bool) :
    (d.listFunctions codes pattern verbose showSystem).answered (s.answer declined) =
      .fail (d.absent "\\df") := by
  have listed := d.answered_primary s declined "\\df" .functions
    (d.functionsOf codes pattern showSystem) "failed to list functions"
  rw [if_neg (by simp [h])] at listed
  exact Dialogue.answered_bind_of_fail listed _

end

theorem tells_listFunctions (codes pattern : String) (verbose showSystem : Bool)
    (h : d.serves declined .functions = true) :
    (d.listFunctions codes pattern verbose showSystem).Tells (s.answer declined) ()
      [.table ⟨functionHeaders verbose,
        ((d.shownFunctions showSystem
          (s.select .functions (d.functionsOf codes pattern showSystem))).map
            (d.shownFunction s declined)).map (functionCells verbose)⟩
        (d.titled "List of functions")] := by
  rw [listFunctions_eq_table]
  exact (Dialogue.tells_of_answered (d.answered_listedFunctions s declined h)).bind
    (Dialogue.tells_put _)

theorem written_listFunctions (offers : Capabilities) (config : Config) (codes pattern : String)
    (verbose showSystem : Bool) (encoder : Encoder) (tally : Tally) (sink : Sink) :
    let r := s.reader offers declined
    let d : Describer := .ofReader r config
    let run := (d.listFunctions codes pattern verbose showSystem).run r encoder tally sink
    let functions := d.shownFunctions showSystem
      (s.select .functions (d.functionsOf codes pattern showSystem))
    d.serves declined .functions = true →
      (sink.limit = none → run.1 = .ok ()) ∧
      (run.1 = .ok () → run.2.2.text = sink.text ++ encoder.encode
        (.table ⟨functionHeaders verbose,
          functions.map fun f => functionCells verbose (d.shownFunction s declined f)⟩
          (d.titled "List of functions"))) := by
  intro r d run functions served
  have written := (d.tells_listFunctions s declined codes pattern verbose showSystem
    served).run_document (d.writes_proper.listFunctions codes pattern verbose showSystem)
      (s.steady_reader offers declined) encoder tally sink
  rwa [List.map_map] at written

/-- The functions are asked for once, then the parameters of each that is shown. -/
theorem exchanges_listFunctions (offers : Capabilities) (codes pattern : String)
    (verbose showSystem : Bool) (h : d.serves declined .functions = true) (encoder : Encoder)
    (tally : Tally) (sink : Sink) :
    let filter := d.functionsOf codes pattern showSystem
    let rows := s.select .functions filter
    (d.listFunctions codes pattern verbose showSystem).exchanges (s.reader offers declined) encoder
        tally sink =
      ⟨.functions, filter, .ok rows⟩ ::
        (d.shownFunctions showSystem rows).flatMap (d.parameterQueries s declined) := by
  intro filter rows
  have asksFirst : (d.listFunctions codes pattern verbose showSystem).AsksFirst :=
    (MetaCommand.listFunctions codes pattern verbose showSystem).asksFirst_dialogue d
      (by simp [MetaCommand.Overridden]) (by simp [MetaCommand.Describes])
  rw [asksFirst.exchanges_eq (s.steady_reader offers declined), listFunctions_eq_table,
    Dialogue.asked_bind (d.answered_listedFunctions s declined h),
    d.asked_listedFunctions s declined h]
  exact List.append_nil _

theorem flatMap_parameterQueries (functions : List Function) :
    functions.flatMap (d.parameterQueries s declined) =
      if d.offers.has .functionColumns then
        functions.map fun f =>
          ⟨.functionColumns, parametersOf f, s.answer declined .functionColumns (parametersOf f)⟩
      else [] := by
  unfold parameterQueries
  split
  · exact List.map_eq_flatMap.symm
  · simp

/-- The arguments of a function as they are shown: those that its parameters stand for, and the
reported ones when parameters are not served. The parameters are the answer for the catalog, the
schema and the specific name of the function, by their places; number zero is passed over, and of
the direction, the name and the type of the others the parts that are not empty are shown, the
direction only if it is not the usual one. -/
def ShownArguments (f : Function) (text : String) : Prop :=
  if d.serves declined .functionColumns then
    ∃ parameters : List FunctionColumn,
      s.Answers .functionColumns
        { catalog := f.catalog, schema := f.schema, parent := f.specificName, withSystem := true }
        parameters ∧
      parameters.Pairwise (fun a b => a.ordinalPosition.toInt ≤ b.ordinalPosition.toInt) ∧
      text = ", ".intercalate ((parameters.filter fun c => c.ordinalPosition ≠ 0).map fun c =>
        " ".intercalate (
          (if c.parameterMode = "IN" then [c.name, c.dataType]
            else [c.parameterMode, c.name, c.dataType]).filter (· ≠ "")))
  else text = f.argTypes

theorem pairwise_position_select (k : Kind) {get : k.Row → Int32} (placed : k.position = some get)
    (filter : Filter) :
    (s.select k filter).Pairwise fun a b => (get a).toInt ≤ (get b).toInt := by
  unfold Snapshot.select Kind.inPosition
  rw [placed]
  exact ((stableBy_mergeSort (fun row => (get row).toInt) _).ascending).sublist
    (Entity.distinctFrom_sublist [] _)

theorem shownArguments_argumentsOf (f : Function) :
    d.ShownArguments s declined f (d.argumentsOf s declined f) := by
  unfold ShownArguments argumentsOf served
  split
  · refine ⟨s.select .functionColumns (parametersOf f), Snapshot.answers_iff.2 rfl,
      pairwise_position_select s .functionColumns rfl _, ?_⟩
    have same (c : FunctionColumn) : (c.ordinalPosition != 0) = decide (c.ordinalPosition ≠ 0) := by
      rw [Bool.eq_iff_iff]
      simp
    simp only [argumentText, funext same, funext FunctionColumn.signature_eq]
  · rfl

theorem functionHeaders_eq (verbose : Bool) :
    functionHeaders verbose =
      ["Schema", "Name", "Result data type", "Argument data types", "Type"] ++
        if verbose then ["Volatility", "Security", "Language", "Source code"] else [] := by
  cases verbose <;> rfl

theorem functionCells_eq (verbose : Bool) :
    functionCells verbose = fun f =>
      [.text f.schema, .text f.name, .text f.resultType, .text f.argTypes, .text f.type] ++
        if verbose then
          [.text f.volatility, .text f.security, .text f.language, .text f.source]
        else [] := by
  cases verbose <;> rfl

theorem showsFunction_eq_decide (showSystem : Bool) :
    d.showsFunction showSystem = fun f =>
      decide (showSystem = true ∨ f.schema ∉ d.config.systemSchemas.names) := by
  funext f
  have listed :
      d.config.systemSchemas.contains f.schema = true ↔ f.schema ∈ d.config.systemSchemas.names :=
    NameSet.contains_iff
  rw [Bool.eq_iff_iff, showsFunction, Config.isSystemSchema]
  cases showSystem <;> simp [← listed]

/-- With any reader of a snapshot, functions are listed in two passes, and when they are served:

* the list has a row for each function that the query answers and that is shown, in the order of the
  answer: the cells of the function with its arguments as they are shown;
* the queries are one for the functions and, if parameters are on offer, one for each function that
  is shown;
* the first pass writes nothing, changes no field but the arguments of functions that are shown, and
  leaves all rows in their places and what is shown of them, so that the second pass reaches the
  same rows.

When they are not served, the command fails and writes nothing. -/
theorem run_listFunctions (s : Snapshot) (offers declined : Capabilities) (config : Config)
    (codes pattern : String) (verbose showSystem : Bool) (encoder : Encoder) (tally : Tally)
    (sink : Sink) :
    let r := s.reader offers declined
    let d : Describer := .ofReader r config
    let filter := d.functionsOf codes pattern showSystem
    let command := d.listFunctions codes pattern verbose showSystem
    let run := command.run r encoder tally sink
    let headers :=
      ["Schema", "Name", "Result data type", "Argument data types", "Type"] ++
        if verbose then ["Volatility", "Security", "Language", "Source code"] else []
    let cells (f : Function) : List Cell :=
      [.text f.schema, .text f.name, .text f.resultType, .text f.argTypes, .text f.type] ++
        if verbose then
          [.text f.volatility, .text f.security, .text f.language, .text f.source]
        else []
    let parametersOf (f : Function) : Filter :=
      { catalog := f.catalog, schema := f.schema, parent := f.specificName, withSystem := true }
    let shows (f : Function) := showSystem = true ∨ f.schema ∉ config.systemSchemas.names
    command = d.listFunctionsInPasses codes pattern verbose showSystem ∧
    (d.serves declined .functions = false →
      run.1 = .error (.capabilityAbsent "\\df" s.driverName) ∧ run.2.2 = sink) ∧
    (d.serves declined .functions = true →
      ∃ (rows : List Function) (arguments : Function → String),
        let listed := (rows.filter shows).map fun f => { f with argTypes := arguments f }
        let set := d.screened showSystem rows
        s.Answers .functions filter rows ∧
        (∀ f, d.ShownArguments s declined f (arguments f)) ∧
        (sink.limit = none → run.1 = .ok ()) ∧
        (run.1 = .ok () → run.2.2.text = sink.text ++ encoder.encode
          (.table ⟨headers, listed.map cells⟩
            { config.options with title := some "List of functions" })) ∧
        command.exchanges r encoder tally sink =
          ⟨.functions, filter, .ok rows⟩ ::
            (if offers.has .functionColumns then
              (rows.filter shows).map fun f =>
                ⟨.functionColumns, parametersOf f,
                  s.answer declined .functionColumns (parametersOf f)⟩
            else []) ∧
        ∃ filled, ((d.fillArguments set).run r encoder tally sink).1 = .ok filled ∧
          ((d.fillArguments set).run r encoder tally sink).2.2 = sink ∧
          filled.rows =
            rows.map (fun f => if shows f then { f with argTypes := arguments f } else f) ∧
          filled.rows.map filled.accepts = rows.map set.accepts ∧
          filled.reset.remaining = listed) := by
  intro r d filter command run headers cells parametersOf shows
  have steady := s.steady_reader offers declined
  have shown : d.showsFunction showSystem = fun f => decide (shows f) :=
    d.showsFunction_eq_decide showSystem
  refine ⟨d.listFunctions_eq codes pattern verbose showSystem, fun missing => ?_, fun served => ?_⟩
  · have same := Dialogue.run_answered steady r encoder command tally tally sink
    rw [d.answered_listFunctions_of_not_served s declined missing] at same
    exact same
  · refine ⟨s.select .functions filter, d.argumentsOf s declined, ?_⟩
    intro listed set
    have tells := d.tells_listFunctions s declined codes pattern verbose showSystem served
    have proper := d.writes_proper.listFunctions codes pattern verbose showSystem
    obtain ⟨ends, written⟩ := tells.run_document proper steady encoder tally sink
    have pass := Dialogue.run_answered steady r encoder (d.fillArguments set) tally tally sink
    rw [d.answered_fillArguments s declined set] at pass
    obtain ⟨changed, left⟩ :=
      d.rows_fillArguments s declined showSystem (s.select .functions filter)
    rw [shown] at changed
    rw [shownFunctions, shown] at left
    refine ⟨Snapshot.answers_iff.2 rfl, d.shownArguments_argumentsOf s declined, ends,
      fun ended => ?_, ?_, _, pass.1, pass.2, ?_, ?_, left⟩
    · rw [written ended, functionHeaders_eq, functionCells_eq, shownFunctions, shown]
      rfl
    · refine (d.exchanges_listFunctions s declined offers codes pattern verbose showSystem served
        encoder tally sink).trans ?_
      rw [flatMap_parameterQueries, shownFunctions, shown]
      rfl
    · rw [changed]
      simp only [decide_eq_true_eq]
      rfl
    · rw [changed, ResultSet.accepts_writeThrough, List.map_map]
      refine List.map_congr_left fun f _ => ?_
      show set.accepts (if _ then d.shownFunction s declined f else f) = _
      rw [d.accepts_screened]
      split <;> rfl

/-- Two functions of one name and one of a system schema, with parameters for the first: three
queries and two rows, whose arguments are those reported when parameters are declined; nothing when
functions are. -/
theorem run_listFunctions_overloads :
    let one : Function := { schema := "shop", name := "add", specificName := "add_1" }
    let two : Function :=
      { schema := "shop", name := "add", specificName := "add_2", argTypes := "text" }
    let result : FunctionColumn := { schema := "shop", function := "add_1", dataType := "int" }
    let a : FunctionColumn := { result with name := "a", ordinalPosition := 1 }
    let b : FunctionColumn :=
      { result with name := "b", ordinalPosition := 2, parameterMode := "OUT" }
    let s : Snapshot := {
      functions := [one, { one with schema := "information_schema" }, two]
      functionColumns := [b, a, result] }
    let list (d : Describer) := d.listFunctions "" "" false false
    let listing (first second : String) : Document := .table
      ⟨["Schema", "Name", "Result data type", "Argument data types", "Type"],
        [[.text "shop", .text "add", .text "", .text first, .text ""],
          [.text "shop", .text "add", .text "", .text second, .text ""]]⟩
      { title := some "List of functions" }
    let r := s.reader .all .none
    let keeping := s.reader .all (.ofList [.functionColumns])
    let refusing := s.reader .all (.ofList [.functions])
    ((list (.ofReader r {})).run r .table [] {}).2.2.text =
        Encoder.table.encode (listing "a int, OUT b int" "") ∧
      ((list (.ofReader r {})).exchanges r .table [] {}).length = 3 ∧
      ((list (.ofReader keeping {})).run keeping .table [] {}).2.2.text =
        Encoder.table.encode (listing "" "text") ∧
      ((list (.ofReader refusing {})).run refusing .table [] {}).1 =
        .error (.capabilityAbsent "\\df" "snapshot") := by
  intro one two result a b s list listing r keeping refusing
  have stored (rows : List Function)
      (answer : s.Answers .functions (functionsOf (.ofReader r {}) "" "" false) rows) :
      rows = s.functions :=
    Snapshot.answers_iff.1 answer
  have parameters : s.Answers .functionColumns
      { schema := "shop", parent := "add_1", withSystem := true } [result, a, b] := by
    refine ⟨s.functionColumns, [result, a, b], .functionColumns, ?_, ?_⟩
    · rw [List.filter_eq_self.2 (by decide)]
      exact .of_pairwise_lt (List.reverse_perm [b, a, result]) (by simp [result, a, b])
    · simp [Kind.firsts, Kind.SameKey, result, a, b]
  have none_there : s.Answers .functionColumns
      { schema := "shop", parent := "add_2", withSystem := true } [] := by
    refine ⟨s.functionColumns, [], .functionColumns, ?_, rfl⟩
    rw [List.filter_eq_nil_iff.2 (by decide)]
    exact .of_pairwise_lt .nil .nil
  have listed (arguments : Function → String) :
      ((s.functions.filter fun f =>
          false = true ∨ f.schema ∉ ({} : Config).systemSchemas.names).map fun f =>
        { f with argTypes := arguments f }) =
      [{ one with argTypes := arguments one }, { two with argTypes := arguments two }] := by
    rw [List.filter_cons_of_pos (by decide), List.filter_cons_of_neg (by decide),
      List.filter_cons_of_pos (by decide)]
    rfl
  obtain ⟨-, -, lists⟩ := run_listFunctions s .all .none {} "" "" false false .table [] {}
  obtain ⟨rows, arguments, answer, shown, ends, written, asked, -⟩ := lists rfl
  obtain rfl := stored rows answer
  have first : arguments one = "a int, OUT b int" := by
    obtain ⟨_, answered, -, text⟩ := shown one
    obtain rfl := answered.unique parameters
    exact text.trans (by decide +kernel)
  have second : arguments two = "" := by
    obtain ⟨_, answered, -, text⟩ := shown two
    obtain rfl := answered.unique none_there
    exact text
  obtain ⟨-, -, keeps⟩ := run_listFunctions s .all (.ofList [.functionColumns]) {} "" "" false false
    .table [] {}
  obtain ⟨rows, kept, answer', shown', ends', written', -⟩ := keeps rfl
  obtain rfl := stored rows answer'
  have first' : kept one = "" := shown' one
  have second' : kept two = "text" := shown' two
  obtain ⟨-, fails, -⟩ :=
    run_listFunctions s .all (.ofList [.functions]) {} "" "" false false .table [] {}
  refine ⟨(written (ends rfl)).trans ?_, ?_, (written' (ends' rfl)).trans ?_, (fails rfl).1⟩
  · rw [listed, ← congr (congrArg listing first) second]
    exact String.empty_append
  · rw [asked]
    decide +kernel
  · rw [listed, ← congr (congrArg listing first') second']
    exact String.empty_append

end Describer

end CatalogReport
