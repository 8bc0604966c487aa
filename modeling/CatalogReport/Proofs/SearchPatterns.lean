import Mathlib.Data.List.Forall2
import Mathlib.Data.List.TakeWhile
import CatalogReport.Proofs.Selection

/-!
# What a search pattern finds

A text is cut into runs, one for each character of a pattern, and each run is what its character
stands for (`Glob`). In a search pattern a star stands for any run, as a percent sign does; the
matcher of the filters knows the percent sign only and meets no star, since they are respelled when
a pattern is parsed. So the reader of a snapshot finds a table by a pattern when both parts of the
pattern, cut at its first point, stand for what they name.
-/

namespace CatalogReport

/-! ## Respelled patterns -/

def searchWild : List Char := ['*', '%']

namespace Text.Like

/-- A star is respelled as a percent sign and every other character is left alone. -/
theorem takes_ofChar_expanded_iff (c : Char) (run : List Char) :
    (Step.ofChar (if c == '*' then '%' else c)).Takes run ↔ Stands searchWild c run := by
  by_cases star : c = '*'
  · subst star
    simp [Step.ofChar, Step.Takes, Stands, searchWild]
  · have wild : c ∈ searchWild ↔ c ∈ likeWild := by simp [searchWild, likeWild, star]
    simp only [beq_iff_eq, star, if_false, takes_ofChar_iff, Stands, wild]

theorem isMatch_expand_iff {part text : String} :
    isMatch (Pattern.expand part.toList) text = true ↔ Glob searchWild part text := by
  unfold isMatch stepsOf Pattern.expand Glob
  rw [String.toList_ofList, List.map_map, matchesOf_iff,
    ← matches_map_iff takes_ofChar_expanded_iff]
  rfl

end Text.Like

/-! ## The parts of a pattern -/

namespace Pattern

/-- The parts of a search pattern: what stands before its first point and what after it, or nothing
and all of it when it has no point. -/
def Parts (pattern schema name : String) : Prop :=
  ('.' ∉ pattern.toList ∧ schema = "" ∧ name = pattern) ∨
    ('.' ∉ schema.toList ∧ pattern = schema ++ "." ++ name)

theorem expand_eq_empty_iff {part : String} : expand part.toList = "" ↔ part = "" := by
  rw [← String.toList_inj, ← String.toList_inj]
  simp [expand]

theorem takeWhile_before_point {before after : List Char} (h : '.' ∉ before) :
    (before ++ '.' :: after).takeWhile (· != '.') = before := by
  rw [List.takeWhile_append_of_pos fun c hc => by simpa using ne_of_mem_of_not_mem hc h]
  simp

theorem dropWhile_before_point {before after : List Char} (h : '.' ∉ before) :
    (before ++ '.' :: after).dropWhile (· != '.') = '.' :: after := by
  rw [List.dropWhile_append_of_pos fun c hc => by simpa using ne_of_mem_of_not_mem hc h]
  simp

theorem dropWhile_of_no_point {cs : List Char} (h : '.' ∉ cs) :
    cs.dropWhile (· != '.') = [] := by
  rw [List.dropWhile_eq_nil_iff]
  exact fun c hc => by simpa using ne_of_mem_of_not_mem hc h

theorem parts_iff_of_no_point {pattern schema name : String} (h : '.' ∉ pattern.toList) :
    Parts pattern schema name ↔ schema = "" ∧ name = pattern := by
  constructor
  · rintro (⟨-, parts⟩ | ⟨-, rfl⟩)
    · exact parts
    · simp at h
  · exact fun parts => .inl ⟨h, parts⟩

theorem parts_iff_of_point {before after : List Char} (h : '.' ∉ before)
    {pattern schema name : String} (e : pattern.toList = before ++ '.' :: after) :
    Parts pattern schema name ↔ schema = String.ofList before ∧ name = String.ofList after := by
  constructor
  · rintro (⟨none, -⟩ | ⟨first, rfl⟩)
    · simp [e] at none
    · have cut : schema.toList ++ '.' :: name.toList = before ++ '.' :: after := by
        simpa using e
      have front := congrArg (List.takeWhile (· != '.')) cut
      have back := congrArg (List.dropWhile (· != '.')) cut
      rw [takeWhile_before_point first, takeWhile_before_point h] at front
      rw [dropWhile_before_point first, dropWhile_before_point h] at back
      simp only [← front, ← (List.cons.inj back).2, String.ofList_toList, and_self]
  · rintro ⟨rfl, rfl⟩
    refine .inr ⟨by simpa using h, ?_⟩
    rw [← String.toList_inj, e]
    simp

/-- A pattern has one schema and one name, and these are what parsing respells. -/
theorem parse_eq (pattern : String) :
    ∃ schema name,
      (∀ schema' name', Parts pattern schema' name' ↔ schema' = schema ∧ name' = name) ∧
      parse pattern = ⟨expand schema.toList, expand name.toList⟩ := by
  unfold parse parseOf
  by_cases point : '.' ∈ pattern.toList
  · obtain ⟨before, after, e, first⟩ := List.eq_append_cons_of_mem point
    refine ⟨String.ofList before, String.ofList after, fun _ _ => parts_iff_of_point first e, ?_⟩
    rw [e, dropWhile_before_point first, takeWhile_before_point first, String.toList_ofList,
      String.toList_ofList]
  · refine ⟨"", pattern, fun _ _ => parts_iff_of_no_point point, ?_⟩
    rw [dropWhile_of_no_point point]
    rfl

end Pattern

/-! ## Tables found by a pattern -/

theorem Filter.like_accepts_expand_iff {part text : String} :
    Text.Like.accepts (Pattern.expand part.toList) text = true ↔
      (part ≠ "" → Glob searchWild part text) := by
  rw [Text.Like.accepts, Bool.or_eq_true, String.isEmpty_iff, Pattern.expand_eq_empty_iff,
    Text.Like.isMatch_expand_iff]
  exact Decidable.or_iff_not_imp_left

theorem Filter.accepts_table_iff {schema name : String} {row : Table} :
    (Filter.ofPattern
        ⟨Pattern.expand schema.toList, Pattern.expand name.toList⟩).accepts .tables row
        = true ↔
      (schema ≠ "" → Glob searchWild schema row.schema) ∧
        (name ≠ "" → Glob searchWild name row.name) := by
  have catalog : Text.Like.accepts "" row.catalog = true := rfl
  simp [accepts, Attribute.all, Kind.governed, Kind.typeOf, pattern, ofPattern, acceptsType,
    NameSet.isEmpty, NameSet.empty, catalog, like_accepts_expand_iff]

namespace Entity

variable {α : Type} [Entity α]

theorem exists_mem_distinctFrom {seen : List (List String)} {rows : List α} {row : α}
    (h : row ∈ rows) (fresh : key row ∉ seen) :
    ∃ kept ∈ distinctFrom seen rows, key kept = key row := by
  induction rows generalizing seen with
  | nil => cases h
  | cons first rest ih =>
    unfold distinctFrom
    by_cases known : key first ∈ seen
    · rw [if_pos (by simpa using known)]
      rcases List.mem_cons.1 h with rfl | h
      · exact absurd known fresh
      · exact ih h fresh
    · rw [if_neg (by simpa using known)]
      by_cases same : key first = key row
      · exact ⟨first, List.mem_cons_self, same⟩
      · rcases List.mem_cons.1 h with rfl | h
        · exact absurd rfl same
        · have unseen : key row ∉ key first :: seen := by simp [Ne.symm same, fresh]
          obtain ⟨kept, mem, e⟩ := ih h unseen
          exact ⟨kept, List.mem_cons_of_mem _ mem, e⟩

end Entity

namespace Snapshot

/-- The tables that a filter without types selects have the names of those that it accepts. -/
theorem exists_select_table_iff (s : Snapshot) (f : Filter) (schema name : String) :
    (∃ row ∈ s.select .tables f, row.schema = schema ∧ row.name = name) ↔
      ∃ row ∈ s.tables, f.accepts .tables row = true ∧ row.schema = schema ∧ row.name = name := by
  show (∃ row ∈ Entity.distinctFrom [] (s.tables.filter (f.accepts .tables)), _) ↔ _
  constructor
  · rintro ⟨row, mem, named⟩
    obtain ⟨stored, accepted⟩ := List.mem_filter.1 (Entity.mem_of_mem_distinctFrom mem).1
    exact ⟨row, stored, accepted, named⟩
  · rintro ⟨row, stored, accepted, rfl, rfl⟩
    obtain ⟨kept, mem, key⟩ :=
      Entity.exists_mem_distinctFrom (List.mem_filter.2 ⟨stored, accepted⟩) List.not_mem_nil
    -- The key of a table is its catalog, its schema and its name.
    have names : [kept.catalog, kept.schema, kept.name] = [row.catalog, row.schema, row.name] := key
    simp only [List.cons.injEq] at names
    exact ⟨kept, mem, names.2.1, names.2.2.1⟩

end Snapshot

/-- Every search pattern has one schema part and one name part. A snapshot is asked for its tables
by the pattern: one of that schema and name is found just when the snapshot has one and each part
that is not empty stands for its attribute, case and all, from the first character to the last. The
matcher agrees with the same relation on all patterns, as they are typed and as they are respelled
for it. -/
theorem Pattern.finds_iff :
    (∀ pattern, ∃ schema name,
      (∀ schema' name', Parts pattern schema' name' ↔ schema' = schema ∧ name' = name) ∧
      ∀ (s : Snapshot) (offers : Capabilities) (tally : Tally), ∃ rows,
        ((s.reader offers .none).ask .tables (.ofPattern (parse pattern)) tally).1 = .ok rows ∧
        ∀ rowSchema rowName, (∃ row ∈ rows, row.schema = rowSchema ∧ row.name = rowName) ↔
          (∃ row ∈ s.tables, row.schema = rowSchema ∧ row.name = rowName) ∧
            (schema ≠ "" → Glob searchWild schema rowSchema) ∧
            (name ≠ "" → Glob searchWild name rowName)) ∧
    ∀ pattern text,
      (Text.Like.isMatch (expand pattern.toList) text = true ↔ Glob searchWild pattern text) ∧
      (Text.Like.isMatch pattern text = true ↔ Glob likeWild pattern text) := by
  refine ⟨fun pattern => ?_, fun pattern text =>
    ⟨Text.Like.isMatch_expand_iff, Text.Like.isMatch_iff_glob⟩⟩
  obtain ⟨schema, name, parts, parsed⟩ := parse_eq pattern
  refine ⟨schema, name, parts, fun s offers tally => ⟨_, rfl, fun rowSchema rowName => ?_⟩⟩
  rw [parsed, Snapshot.exists_select_table_iff]
  constructor
  · rintro ⟨row, stored, accepted, rfl, rfl⟩
    exact ⟨⟨row, stored, rfl, rfl⟩, Filter.accepts_table_iff.1 accepted⟩
  · rintro ⟨⟨row, stored, rfl, rfl⟩, stand⟩
    exact ⟨row, stored, Filter.accepts_table_iff.2 stand, rfl, rfl⟩

end CatalogReport
