import CatalogReport.Order.NameSet
import CatalogReport.Proofs.FloatRange
import CatalogReport.Proofs.JsonCodec
import CatalogReport.Report.Encoder

/-!
# Reports in JSON are read as their rows

`Cell.Decodes` says which JSON value stands for a cell, `RowDecodes` which members stand for a row:
one member for each header that has a cell, with the cell at the last place of the header. Whatever
the grid, its text in either style is one JSON text and a line break, and both styles are read as
the same record.
-/

namespace CatalogReport

/-! ## Maps made from entries -/

namespace SortedMap

variable {ν : Type}

theorem keys_put (key : String) (value : ν) (map : SortedMap String ν) :
    (put key value map).map Prod.fst = NameSet.insertInto key (map.map Prod.fst) := by
  induction map with
  | nil => rfl
  | cons entry rest ih =>
    obtain ⟨k, v⟩ := entry
    simp only [put, List.map_cons, NameSet.insertInto]
    split
    · rename_i same
      subst same
      simp
    · split
      · rfl
      · simp [ih]

theorem keys_foldl_put (entries : List (String × ν)) {map : SortedMap String ν}
    (h : (map.map Prod.fst).Pairwise (· < ·)) :
    ((entries.foldl (fun map entry => put entry.1 entry.2 map) map).map Prod.fst).Pairwise
      (· < ·) := by
  induction entries generalizing map with
  | nil => exact h
  | cons entry rest ih => exact ih (keys_put entry.1 entry.2 map ▸ NameSet.insertInto_sorted h)

theorem nodup_of_ascending {keys : List String} (h : keys.Pairwise (· < ·)) : keys.Nodup := by
  refine h.imp fun {a b} less e => ?_
  subst e
  exact String.lt_irrefl a less

theorem nodup_keys_ofList (entries : List (String × ν)) :
    ((ofList entries).map Prod.fst).Nodup := by
  have none : (([] : SortedMap String ν).map Prod.fst).Pairwise (· < ·) := .nil
  exact nodup_of_ascending (keys_foldl_put entries none)

theorem lookup_ofList (entries : List (String × ν)) (key : String) :
    (ofList entries).lookup key = entries.reverse.lookup key := by
  induction entries using List.reverseRecOn with
  | nil => rfl
  | append_singleton entries entry ih =>
    obtain ⟨k, v⟩ := entry
    rw [ofList, List.foldl_append, List.foldl_cons, List.foldl_nil, lookup_put, List.reverse_append]
    change (if key = k then some v else (ofList entries).lookup key) = _
    rw [ih, List.reverse_singleton, List.singleton_append, lookup_cons_ite]

theorem lookup_of_mem {map : SortedMap String ν} (h : (map.map Prod.fst).Nodup) {key : String}
    {value : ν} (hm : (key, value) ∈ map) : map.lookup key = some value := by
  induction map with
  | nil => cases hm
  | cons entry rest ih =>
    obtain ⟨k, v⟩ := entry
    rw [List.map_cons, List.nodup_cons] at h
    rw [lookup_cons_ite]
    rcases List.mem_cons.1 hm with e | later
    · cases e
      rw [if_pos rfl]
    · have other : key ≠ k := by
        rintro rfl
        exact h.1 (List.mem_map.2 ⟨_, later, rfl⟩)
      rw [if_neg other, ih h.2 later]

theorem mem_keys_of_lookup {map : SortedMap String ν} {key : String} {value : ν}
    (h : map.lookup key = some value) : key ∈ map.map Prod.fst := by
  induction map with
  | nil => cases h
  | cons entry rest ih =>
    obtain ⟨k, v⟩ := entry
    rw [lookup_cons_ite] at h
    split at h
    · rename_i e
      simp [e]
    · simp [ih h]

theorem last_of_lookup_reverse {entries : List (String × ν)} {key : String} {value : ν}
    (h : entries.reverse.lookup key = some value) :
    ∃ i : Nat, entries[i]? = some (key, value) ∧
      ∀ (j : Nat) v, i < j → entries[j]? ≠ some (key, v) := by
  induction entries using List.reverseRecOn with
  | nil => cases h
  | append_singleton entries entry ih =>
    obtain ⟨k, v⟩ := entry
    rw [List.reverse_append, List.reverse_singleton, List.singleton_append,
      lookup_cons_ite (entries.reverse : SortedMap String ν)] at h
    split at h
    · rename_i e
      cases h
      refine ⟨entries.length, by simp [e], fun j v later => ?_⟩
      rw [List.getElem?_eq_none (by simp; omega)]
      simp
    · rename_i other
      obtain ⟨i, found, last⟩ := ih h
      have inside : i < entries.length := (List.getElem?_eq_some_iff.1 found).1
      refine ⟨i, by rw [List.getElem?_append_left inside, found], fun j v later => ?_⟩
      rcases Nat.lt_or_ge j entries.length with early | late
      · rw [List.getElem?_append_left early]
        exact last j v later
      · intro hit
        rw [List.getElem?_append_right late, List.getElem?_singleton] at hit
        split at hit
        · cases hit
          exact other rfl
        · cases hit

theorem lookup_reverse_isSome {entries : List (String × ν)} {key : String} {value : ν}
    (h : (key, value) ∈ entries) : (entries.reverse.lookup key).isSome := by
  rw [List.lookup_isSome_iff]
  exact ⟨_, by simpa using h, by simp⟩

end SortedMap

/-! ## What values are read as -/

namespace Json

def Reads (j k : Json) : Prop :=
  Draft.toJson j.draft = .ok k

theorem reads_list {items : List Json} {f : Json → Json} (h : ∀ j ∈ items, j.Reads (f j)) :
    (list items).Reads (.list (items.map f)) := by
  have read : Draft.itemsToJson (items.map draft) = .ok (items.map f) := by
    induction items with
    | nil => rfl
    | cons item rest ih =>
      have first : Draft.toJson item.draft = .ok (f item) := h item List.mem_cons_self
      have later := ih fun j hj => h j (List.mem_cons_of_mem _ hj)
      simp only [List.map_cons, Draft.itemsToJson, first, later]
      rfl
  simp only [Reads, draft, itemDrafts_eq_map, Draft.toJson, read]
  rfl

theorem reads_record {members : List (String × Json)} {f : Json → Json}
    (h : ∀ m ∈ members, m.2.Reads (f m.2)) :
    (record members).Reads (.record (members.map fun m => (m.1, f m.2))) := by
  have read : Draft.membersToJson (members.map fun m => (some m.1, m.2.draft)) =
      .ok (members.map fun m => (m.1, f m.2)) := by
    induction members with
    | nil => rfl
    | cons m rest ih =>
      have first : Draft.toJson m.2.draft = .ok (f m.2) := h m List.mem_cons_self
      have later := ih fun n hn => h n (List.mem_cons_of_mem _ hn)
      simp only [List.map_cons, Draft.membersToJson, first, later]
      rfl
  simp only [Reads, draft, memberDrafts_eq_map, Draft.toJson, read]
  rfl

/-- What the text of a value is read as, null if it cannot be. -/
def decoded (j : Json) : Json :=
  match Draft.toJson j.draft with
  | .ok k => k
  | .error _ => .null

theorem Reads.decoded_eq {j k : Json} (h : j.Reads k) : j.decoded = k := by
  rw [decoded, h]

end Json

/-! ## Cells and rows -/

/-- The JSON value stands for the cell. A float that is a number becomes the one that is read from
its shortest digits. -/
def Cell.Decodes : Cell → Json → Prop
  | .null, j => j = .null
  | .flag b, j => j = .flag b
  | .int n, j => j = .number (.whole n.toInt)
  | .float x, j =>
    if (Decimal.Binary.ofFloat x).isFinite then
      ∃ y, j = .number (.float y) ∧ Codec.float.parse ((Json.ofFloat x).write .compact) = .ok y
    else j = .null
  | .text s, j => j = .text s

theorem Cell.exists_decodes (cell : Cell) : ∃ j, cell.toJson.Reads j ∧ cell.Decodes j := by
  cases cell with
  | null => exact ⟨_, rfl, rfl⟩
  | flag b => exact ⟨_, rfl, rfl⟩
  | text s => exact ⟨_, rfl, rfl⟩
  | int n =>
    refine ⟨_, ?_, rfl⟩
    simp only [Json.Reads, toJson, Json.ofInt, Json.draft, Json.numberChars, Codec.scanNumber_int64]
    rfl
  | float x =>
    have read := Json.draft_ofFloat x
    split at read
    · rename_i finite
      obtain ⟨y, hy⟩ := read
      refine ⟨.number (.float y), by simp only [Json.Reads, toJson, hy]; rfl, ?_⟩
      simp only [Decodes, if_pos finite]
      refine ⟨y, rfl, ?_⟩
      rw [Codec.parse_write _ (Json.legible_ofFloat x), hy]
      rfl
    · rename_i infinite
      refine ⟨.null, by simp only [Json.Reads, toJson, read]; rfl, ?_⟩
      simp only [Decodes, if_neg infinite]

theorem Cell.reads_decoded (cell : Cell) : cell.toJson.Reads cell.toJson.decoded := by
  obtain ⟨j, reads, -⟩ := cell.exists_decodes
  rwa [reads.decoded_eq]

theorem Cell.decodes_decoded (cell : Cell) : cell.Decodes cell.toJson.decoded := by
  obtain ⟨j, reads, decodes⟩ := cell.exists_decodes
  rwa [reads.decoded_eq]

theorem Cell.legible_toJson (cell : Cell) : cell.toJson.Legible := by
  cases cell with
  | int n => exact Codec.legible_int64 n
  | float x => exact Json.legible_ofFloat x
  | _ => trivial

namespace Encoder

/-- The members stand for a row under its headers: every header with a cell has one member, which
stands for the cell at the last place of the header. -/
structure RowDecodes (headers : List String) (row : List Cell) (members : List (String × Json)) :
    Prop where
  nodup : (members.map Prod.fst).Nodup
  covered : ∀ (i : Nat) header cell, headers[i]? = some header → row[i]? = some cell →
    header ∈ members.map Prod.fst
  last : ∀ header value, (header, value) ∈ members → ∃ (i : Nat) (cell : Cell),
    headers[i]? = some header ∧ row[i]? = some cell ∧ cell.Decodes value ∧
      ∀ j : Nat, i < j → headers[j]? = some header → row[j]? = none

theorem getElem?_entries {headers : List String} {row : List Cell} {i : Nat} {header : String}
    {value : Json} : (headers.zip (row.map Cell.toJson))[i]? = some (header, value) ↔
      headers[i]? = some header ∧ ∃ cell, row[i]? = some cell ∧ cell.toJson = value := by
  simp [List.getElem?_zip_eq_some]

def rowMembers (headers : List String) (row : List Cell) : List (String × Json) :=
  (SortedMap.ofList (headers.zip (row.map Cell.toJson))).map fun m => (m.1, m.2.decoded)

theorem last_of_mem {headers : List String} {row : List Cell} {header : String} {value : Json}
    (h : (header, value) ∈ SortedMap.ofList (headers.zip (row.map Cell.toJson))) :
    ∃ (i : Nat) (cell : Cell), headers[i]? = some header ∧ row[i]? = some cell ∧
      cell.toJson = value ∧ ∀ j : Nat, i < j → headers[j]? = some header → row[j]? = none := by
  have found := SortedMap.lookup_of_mem (SortedMap.nodup_keys_ofList _) h
  rw [SortedMap.lookup_ofList] at found
  obtain ⟨i, here, last⟩ := SortedMap.last_of_lookup_reverse found
  obtain ⟨hheader, cell, hcell, rfl⟩ := getElem?_entries.1 here
  refine ⟨i, cell, hheader, hcell, rfl, fun j later again => ?_⟩
  by_contra other
  obtain ⟨cell', hcell'⟩ := Option.ne_none_iff_exists'.1 other
  exact last j cell'.toJson later (getElem?_entries.2 ⟨again, cell', hcell', rfl⟩)

theorem rowDecodes_rowMembers (headers : List String) (row : List Cell) :
    RowDecodes headers row (rowMembers headers row) where
  nodup := by
    simpa [rowMembers, Function.comp_def] using SortedMap.nodup_keys_ofList _
  covered i header cell hheader hcell := by
    have entry := List.mem_of_getElem? (getElem?_entries.2 ⟨hheader, cell, hcell, rfl⟩)
    obtain ⟨value, found⟩ := Option.isSome_iff_exists.1 (SortedMap.lookup_reverse_isSome entry)
    rw [← SortedMap.lookup_ofList] at found
    simpa [rowMembers, Function.comp_def] using SortedMap.mem_keys_of_lookup found
  last header value h := by
    obtain ⟨⟨k, j⟩, member, e⟩ := List.mem_map.1 h
    cases e
    obtain ⟨i, cell, hheader, hcell, rfl, last⟩ := last_of_mem member
    exact ⟨i, cell, hheader, hcell, cell.decodes_decoded, last⟩

theorem reads_rowJson (headers : List String) (row : List Cell) :
    (rowJson headers row).Reads (.record (rowMembers headers row)) := by
  refine Json.reads_record fun m hm => ?_
  obtain ⟨i, cell, -, -, e, -⟩ := last_of_mem hm
  rw [← e]
  exact cell.reads_decoded

theorem legible_rowJson (headers : List String) (row : List Cell) :
    (rowJson headers row).Legible := by
  refine Json.legibleMembers_iff.2 fun m hm => ?_
  obtain ⟨i, cell, -, -, e, -⟩ := last_of_mem hm
  rw [← e]
  exact cell.legible_toJson

/-! ## Documents -/

def titleJson (o : Options) : Json :=
  (o.title.map .text).getD .null

def gridMembers (grid : Grid) (o : Options) : List (String × Json) :=
  [("rows", .list (grid.rows.map fun row => .record (rowMembers grid.headers row))),
    ("title", titleJson o)]

theorem gridJson_eq (grid : Grid) (o : Options) :
    gridJson grid o =
      .record [("rows", .list (grid.rows.map (rowJson grid.headers))), ("title", titleJson o)] := by
  have apart : "rows" ≠ "title" := by decide
  have before : "rows" < "title" := by decide
  simp only [gridJson, Json.sortedRecord, SortedMap.ofList, List.foldl_cons, List.foldl_nil,
    SortedMap.put, if_neg apart, if_pos before]
  unfold titleJson
  cases o.title <;> rfl

theorem legible_titleJson (o : Options) : (titleJson o).Legible := by
  unfold titleJson
  cases o.title <;> trivial

theorem reads_titleJson (o : Options) : (titleJson o).Reads (titleJson o) := by
  unfold titleJson
  cases o.title <;> rfl

theorem legible_gridJson (grid : Grid) (o : Options) : (gridJson grid o).Legible := by
  rw [gridJson_eq, Json.Legible, Json.legibleMembers_iff]
  refine List.forall_mem_cons.2 ⟨Json.legibleItems_iff.2 fun j hj => ?_, ?_⟩
  · obtain ⟨row, -, rfl⟩ := List.mem_map.1 hj
    exact legible_rowJson grid.headers row
  · simpa using legible_titleJson o

theorem reads_gridJson (grid : Grid) (o : Options) :
    (gridJson grid o).Reads (.record (gridMembers grid o)) := by
  have decoded (row : List Cell) : (rowJson grid.headers row).decoded =
      .record (rowMembers grid.headers row) := (reads_rowJson grid.headers row).decoded_eq
  have rows : (Json.list (grid.rows.map (rowJson grid.headers))).Reads
      (.list (grid.rows.map fun row => .record (rowMembers grid.headers row))) := by
    have items : ∀ j ∈ grid.rows.map (rowJson grid.headers), j.Reads j.decoded := by
      intro j hj
      obtain ⟨row, -, rfl⟩ := List.mem_map.1 hj
      rw [decoded]
      exact reads_rowJson grid.headers row
    simpa only [List.map_map, Function.comp_def, decoded] using Json.reads_list items
  have title := reads_titleJson o
  rw [gridJson_eq]
  have members : ∀ m ∈ [("rows", Json.list (grid.rows.map (rowJson grid.headers))),
      ("title", titleJson o)], m.2.Reads m.2.decoded := by
    simpa [rows.decoded_eq, title.decoded_eq] using And.intro rows title
  simpa only [gridMembers, List.map_cons, List.map_nil, rows.decoded_eq, title.decoded_eq] using
    Json.reads_record members

theorem legible_linesJson (texts : List String) : (linesJson texts).Legible := by
  refine Json.legibleMembers_iff.2 fun m hm => ?_
  obtain rfl := List.mem_singleton.1 hm
  exact Codec.legible_texts texts

theorem reads_linesJson (texts : List String) : (linesJson texts).Reads (linesJson texts) := by
  have items : (Json.list (texts.map Json.text)).Reads (.list (texts.map Json.text)) := by
    have each : ∀ j ∈ texts.map Json.text, j.Reads (id j) := by
      intro j hj
      obtain ⟨s, -, rfl⟩ := List.mem_map.1 hj
      rfl
    have read := Json.reads_list each
    rwa [List.map_id] at read
  have members : ∀ m ∈ [("messages", Json.list (texts.map Json.text))], m.2.Reads (id m.2) := by
    simpa using items
  exact Json.reads_record members

/-- The text is one record in JSON, from its first character to its last, and is read as `j`. -/
def Spells (text : String) (j : Json) : Prop :=
  (∃ body, text = "\x7b" ++ body ++ "\x7d") ∧ Codec.json.parse text = .ok j

theorem spells_write {members : List (String × Json)} {j : Json} (style : Json.Style)
    (nonempty : members ≠ []) (legible : (Json.record members).Legible)
    (reads : (Json.record members).Reads j) : Spells ((Json.record members).write style) j := by
  refine ⟨?_, by rw [Codec.parse_write _ legible]; exact reads⟩
  obtain ⟨⟨key, value⟩, rest, rfl⟩ := List.exists_cons_of_ne_nil nonempty
  refine ⟨String.ofList (style.break 1 ++ Json.textChars key ++ style.afterKey ++
    value.chars style 1 ++ Json.membersChars style 1 rest ++ style.break 0), ?_⟩
  apply String.toList_injective
  simp [Json.write, Json.chars]

/-- The text of a grid is the same record in either style. -/
theorem exists_spells_grid (grid : Grid) (o : Options) (style : Json.Style) :
    ∃ text, encode (.json style) (.table grid o) = text ++ "\n" ∧
      Spells text (.record (gridMembers grid o)) := by
  have legible := legible_gridJson grid o
  have reads := reads_gridJson grid o
  rw [gridJson_eq] at legible reads
  refine ⟨(gridJson grid o).write style, rfl, ?_⟩
  rw [gridJson_eq]
  exact spells_write style (by simp) legible reads

theorem forall₂_rowDecodes (grid : Grid) : List.Forall₂ (RowDecodes grid.headers) grid.rows
    (grid.rows.map (rowMembers grid.headers)) :=
  List.forall₂_map_right_iff.2
    (List.forall₂_same.2 fun row _ => rowDecodes_rowMembers grid.headers row)

/-- A table in JSON is one text and a line break. In either style it is read as its title and its
rows in order, and lines are read as themselves. -/
theorem json_decodes (grid : Grid) (o : Options) (texts : List String) :
    (∃ rows, List.Forall₂ (RowDecodes grid.headers) grid.rows rows ∧
      ∀ style, ∃ text, encode (.json style) (.table grid o) = text ++ "\n" ∧
        Spells text (.record [("rows", .list (rows.map .record)),
          ("title", (o.title.map .text).getD .null)])) ∧
      ∀ style, ∃ text, encode (.json style) (.lines texts) = text ++ "\n" ∧
        Spells text (.record [("messages", .list (texts.map .text))]) := by
  refine ⟨⟨_, forall₂_rowDecodes grid, fun style => ?_⟩, fun style => ?_⟩
  · rw [List.map_map]
    exact exists_spells_grid grid o style
  · exact ⟨_, rfl, spells_write style (by simp) (legible_linesJson texts) (reads_linesJson texts)⟩

end Encoder

end CatalogReport
