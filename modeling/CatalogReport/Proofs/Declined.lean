import CatalogReport.Proofs.ProperCommands
import CatalogReport.Proofs.Served

/-!
# Declined is the same as not offered

Two readers of one snapshot: the first declines some of the kinds that it offers, the second does
not offer them. Parts of a command are alike when they are the same once the readers have answered
(`Alike`), and every command is, as long as the columns of indexes are not declined. The queries of
the two runs differ, since only the first reader is asked for what it declines.
-/

namespace CatalogReport

/-! ## Alike dialogues -/

/-- The dialogues are the same once answered, the first by a reader that declines kinds. -/
def Alike {α : Type} (s : Snapshot) (declined : Capabilities) (x y : Dialogue α) : Prop :=
  x.answered (s.answer declined) = y.answered (s.answer .none)

section

variable {α β : Type} {s : Snapshot} {declined : Capabilities}

theorem alike_done (value : α) : Alike s declined (.done value) (.done value) :=
  rfl

theorem alike_fail (failure : Failure) :
    Alike s declined (.fail failure : Dialogue α) (.fail failure) :=
  rfl

theorem alike_put (document : Document) : Alike s declined (.put document) (.put document) := by
  unfold Alike Dialogue.put
  simp only [Dialogue.answered, Dialogue.hand.injEq, true_and]
  funext reply
  cases reply <;> rfl

theorem Alike.bind {x y : Dialogue α} {f g : α → Dialogue β} (h : Alike s declined x y)
    (hf : ∀ value, Alike s declined (f value) (g value)) :
    Alike s declined (x >>= f) (y >>= g) := by
  unfold Alike at *
  rw [Dialogue.answered_bind, Dialogue.answered_bind, h]
  exact congrArg _ (funext hf)

theorem Alike.within {x y : Dialogue α} (h : Alike s declined x y) (context : String) :
    Alike s declined (x.within context) (y.within context) := by
  unfold Alike at *
  rw [Dialogue.answered_within, Dialogue.answered_within, h]

end

/-! ## The describer without what is declined -/

namespace Describer

section

variable (d : Describer) (s : Snapshot) (declined : Capabilities)

def without : Describer :=
  d.offering (d.offers.diff declined)

theorem serves_without (k : Kind) : (d.without declined).serves .none k = d.serves declined k := by
  simp [serves, without, offering, Capabilities.diff, Capabilities.none]

/-- Kinds that are served are the kinds on offer when nothing is declined. -/
theorem has_without (k : Kind) : (d.without declined).offers.has k = d.serves declined k :=
  rfl

theorem served_without (k : Kind) (filter : Filter) :
    (d.without declined).served s .none k filter = d.served s declined k filter := by
  unfold served
  rw [serves_without]

end

/-! ## Parts of commands -/

variable (d : Describer) {s : Snapshot} {declined : Capabilities}

theorem alike_optional (k : Kind) (filter : Filter) :
    Alike s declined (d.optional k filter) ((d.without declined).optional k filter) := by
  unfold Alike
  rw [answered_optional, answered_optional, served_without]

theorem alike_primary (command : String) (k : Kind) (filter : Filter) (context : String) :
    Alike s declined (d.primary command k filter context)
      ((d.without declined).primary command k filter context) := by
  unfold Alike
  rw [answered_primary, answered_primary, serves_without]
  rfl

theorem writes_alike : Writes d (d.offers.diff declined) fun _ x y => Alike s declined x y where
  done := alike_done
  bind := Alike.bind
  within := Alike.within
  optional := fun k filter => (d.alike_optional k filter).within
  primary := d.alike_primary
  put := alike_put

/-! ## Parts that look at what is on offer -/

/-- Statistics that are declined are missed only after the rows of the table were counted. -/
theorem alike_showStats (pattern : String) (verbose : Bool) (k : Nat) :
    Alike s declined (d.showStats pattern verbose k)
      ((d.without declined).showStats pattern verbose k) := by
  by_cases offered : d.offers.has .columnStats = true
  · by_cases served : d.serves declined .columnStats = true
    · refine d.writes_alike.showStats pattern verbose k ?_
      show Alike s declined (d.require _ _) ((d.without declined).require _ _)
      rw [d.require_of_offered _ offered, (d.without declined).require_of_offered _ served]
      exact alike_done ()
    · obtain ⟨rows, counted⟩ := (d.asks_quietly s declined).rowsOfFirst pattern
      have missed := d.answered_primary s declined "\\ss" .columnStats (statsOf pattern verbose)
        "failed to get column stats"
      rw [if_neg served] at missed
      unfold showStats
      rw [d.require_of_offered _ offered, (d.without declined).require_of_not_offered _ served]
      unfold Alike
      rw [Dialogue.answered_bind_of_done rfl, Dialogue.answered_bind_of_done counted,
        Dialogue.answered_bind_of_fail missed]
      rfl
  · have unserved : ¬d.serves declined .columnStats = true := by
      simp [serves, offered]
    refine d.writes_alike.showStats pattern verbose k ?_
    show Alike s declined (d.require _ _) ((d.without declined).require _ _)
    rw [d.require_of_not_offered _ offered, (d.without declined).require_of_not_offered _ unserved]
    exact alike_fail _

theorem answered_describeTable (verbose : Bool) (t : Table)
    (h : d.serves declined .columns = false) :
    (d.describeTable verbose t).answered (s.answer declined) = .done false := by
  unfold describeTable
  rw [Dialogue.answered_bind, Dialogue.answered_within, answered_optional, served, h]
  rfl

/-- With declined columns every table is asked about in vain. -/
theorem alike_describeTables (filter : Filter) (verbose showSystem : Bool) :
    Alike s declined (d.describeTables filter verbose showSystem)
      ((d.without declined).describeTables filter verbose showSystem) := by
  by_cases served : d.serves declined .tables && d.serves declined .columns
  · have offered : d.offers.has .tables && d.offers.has .columns := by
      simp only [serves, Bool.and_eq_true] at served ⊢
      exact ⟨served.1.1, served.2.1⟩
    exact d.writes_alike.describeListedTables filter verbose showSystem offered served
  · unfold describeTables
    rw [has_without, has_without, if_neg served]
    split
    · -- Only the first reader is asked: for tables in vain, or for the columns of every table.
      have listed : ((d.optional .tables filter).within "failed to list tables").answered
          (s.answer declined) = .done (d.served s declined .tables filter) := by
        rw [Dialogue.answered_within, answered_optional]
        rfl
      unfold Alike
      rw [Dialogue.answered_bind_of_done listed, Describer.served]
      by_cases tables : d.serves declined .tables = true
      · have columns : d.serves declined .columns = false := by simpa [tables] using served
        have passed : ∀ t : Table, ((d.describeTable verbose t).within
            ("failed to describe " ++ t.type ++ " " ++ t.schema ++ "." ++ t.name)).answered
              (s.answer declined) = .done false := by
          intro t
          rw [Dialogue.answered_within, d.answered_describeTable verbose t columns]
          rfl
        rw [if_pos tables]
        dsimp only
        rw [Dialogue.answered_bind_of_done (Dialogue.answered_mapM_of_done passed _)]
        simp [Dialogue.answered]
      · rw [if_neg tables]
        rfl
    · exact alike_done false

/-- An index whose columns are declined would count as described, so they must not be. -/
theorem alike_describeIndexes (filter : Filter) (name : String) (showSystem : Bool)
    (h : declined.has .indexColumns = false) :
    Alike s declined (d.describeIndexes filter name showSystem)
      ((d.without declined).describeIndexes filter name showSystem) := by
  by_cases offered : d.offers.has .indexes && d.offers.has .indexColumns
  · by_cases served : d.serves declined .indexes = true
    · have both : d.serves declined .indexes && d.serves declined .indexColumns := by
        simp only [serves, Bool.and_eq_true] at offered served ⊢
        exact ⟨served, offered.2, by rw [h]; rfl⟩
      exact d.writes_alike.describeListedIndexes filter name showSystem offered both
    · -- Only the first reader is asked, and it declines.
      have missed := d.answered_optional s declined .indexes filter
      rw [Describer.served, if_neg served] at missed
      unfold describeIndexes
      rw [has_without, has_without, if_pos offered, if_neg (by simp [served])]
      unfold Alike
      rw [Dialogue.answered_bind, Dialogue.answered_within, missed]
      rfl
  · have unserved : ¬(d.serves declined .indexes && d.serves declined .indexColumns) = true := by
      simp only [serves, Bool.and_eq_true] at offered ⊢
      exact fun both => offered ⟨both.1.1, both.2.1⟩
    unfold describeIndexes
    rw [has_without, has_without, if_neg offered, if_neg unserved]
    exact alike_done false

end Describer

theorem MetaCommand.alike_dialogue (c : MetaCommand) (d : Describer) {s : Snapshot}
    {declined : Capabilities} (overridden : ¬c.Overridden d.config)
    (indexColumns : declined.has .indexColumns = false) :
    Alike s declined (c.dialogue d) (c.dialogue (d.without declined)) :=
  d.writes_alike.dialogue c overridden d.alike_showStats d.alike_describeTables
    fun filter name showSystem => d.alike_describeIndexes filter name showSystem indexColumns

/-! ## Runs of commands -/

namespace MetaCommand

def runOn {σ : Type} (c : MetaCommand) (r : Reader σ) (config : Config) (encoder : Encoder)
    (state : σ) (sink : Sink) : Except Failure Unit × σ × Sink :=
  (c.dialogue (.ofReader r config)).run r encoder state sink

theorem runOn_proper (c : MetaCommand) (s : Snapshot) (offers declined : Capabilities)
    (config : Config) (encoder : Encoder) (tally : Tally) (sink : Sink)
    (overridden : ¬c.Overridden config) :
    (∃ asked, (c.runOn (s.reader offers declined) config encoder tally sink).2.1 = asked ++ tally ∧
      ∀ k ∈ asked, offers.has k = true) ∧
    (c.runOn (s.reader offers declined) config encoder tally sink).1 ≠ .error .notSupported :=
  (c.proper_dialogue (.ofReader (s.reader offers declined) config) overridden).run s offers declined
    encoder tally sink

/-- Whether kinds are declined or not offered makes no difference to the outcome of a command, to
its failure and to what it writes; in both runs only kinds on offer are asked for, and
`notSupported` does not come out. -/
theorem runOn_declined (c : MetaCommand) (s : Snapshot) (offers declined : Capabilities)
    (config : Config) (encoder : Encoder) (tally tally' : Tally) (sink : Sink)
    (overridden : ¬c.Overridden config) (indexColumns : declined.has .indexColumns = false) :
    let declines := c.runOn (s.reader offers declined) config encoder tally sink
    let lacks := c.runOn (s.reader (offers.diff declined) .none) config encoder tally' sink
    declines.1 = lacks.1 ∧ declines.2.2 = lacks.2.2 ∧
      (∃ asked, declines.2.1 = asked ++ tally ∧ ∀ k ∈ asked, offers.has k = true) ∧
      (∃ asked, lacks.2.1 = asked ++ tally' ∧ ∀ k ∈ asked, (offers.diff declined).has k = true) ∧
      declines.1 ≠ .error .notSupported ∧ lacks.1 ≠ .error .notSupported := by
  intro declines lacks
  have alike := c.alike_dialogue (.ofReader (s.reader offers declined) config) (s := s) overridden
    indexColumns
  have same := Dialogue.run_congr (s.steady_reader offers declined)
    (s.steady_reader (offers.diff declined) .none) alike encoder tally tally' sink
  have left := c.runOn_proper s offers declined config encoder tally sink overridden
  have right := c.runOn_proper s (offers.diff declined) .none config encoder tally' sink overridden
  exact ⟨same.1, same.2, left.1, right.1, left.2, right.2⟩

/-- Describing a table whose columns and triggers are declined. -/
theorem runOn_declined_columns :
    let s : Snapshot := { tables := [{ name := "t" }], sequences := [{ name := "t" }] }
    let declined : Capabilities := .ofList [.columns, .triggers]
    let c : MetaCommand := .describeRelations "t" false false
    ¬c.Overridden {} ∧ declined.has .indexColumns = false ∧
      (c.runOn (s.reader .all declined) {} .table [] {}).2.2 =
        (c.runOn (s.reader (.diff .all declined) .none) {} .table [] {}).2.2 := by
  intro s declined c
  have overridden : ¬c.Overridden {} := by simp [Overridden, c]
  exact ⟨overridden, by decide,
    (runOn_declined c s .all declined {} .table [] [] {} overridden (by decide)).2.1⟩

end MetaCommand

end CatalogReport
