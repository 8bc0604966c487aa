import CatalogReport.Proofs.FloatText

/-!
# Codecs read back what they write

Every codec writes legible values (`Codec.Legible`), so parsing what it wrote is reading the draft
of it (`parse_write`). `codec.Restores a` says that this gives `a` again. A structure is restored
when its fields, read one after the other into the empty structure, fill it (`Fills`).

The other direction is `codec.Yields P`: whatever the text, a value that was read has the property
`P`.
-/

namespace CatalogReport

namespace Codec

variable {α β : Type}

def Legible (codec : Codec α) : Prop :=
  ∀ a, (codec.write a).Legible

/-- The codec reads `a` back from what it writes for it. -/
def Restores (codec : Codec α) (a : α) : Prop :=
  codec.read (codec.write a).draft = .ok a

theorem parse_write (codec : Codec α) {j : Json} (h : j.Legible) (style : Json.Style) :
    codec.parse (j.write style) = codec.read j.draft := by
  simp only [parse, Json.write, String.toList_ofList, Draft.scan_chars style h]
  cases codec.read j.draft <;> rfl

/-! ## Single values -/

@[simp]
theorem legible_text : text.Legible :=
  fun _ => trivial

@[simp]
theorem restores_text (s : String) : text.Restores s :=
  rfl

@[simp]
theorem legible_flag : flag.Legible :=
  fun _ => trivial

@[simp]
theorem restores_flag (b : Bool) : flag.Restores b :=
  rfl

theorem scanNumber_int32 (n : Int32) :
    Draft.scanNumber (Json.wholeChars n.toInt) = (.number (.whole n.toInt), some []) :=
  Draft.scanNumber_wholeChars (Int.le_trans (by decide) n.minValue_le_toInt)
    (Int.lt_trans n.toInt_lt (by decide))

@[simp]
theorem legible_int32 : int32.Legible := fun n => by
  simp [int32, Json.ofInt, Json.Legible, Json.numberChars, scanNumber_int32]

@[simp]
theorem restores_int32 (n : Int32) : int32.Restores n := by
  have range : Int32.minValue.toInt ≤ n.toInt ∧ n.toInt ≤ Int32.maxValue.toInt :=
    ⟨n.minValue_le_toInt, n.toInt_le⟩
  simp only [Restores, int32, Json.ofInt, Json.draft, Json.numberChars, scanNumber_int32,
    if_pos range, Int32.ofInt_toInt]

theorem scanNumber_int64 (n : Int64) :
    Draft.scanNumber (Json.wholeChars n.toInt) = (.number (.whole n.toInt), some []) :=
  Draft.scanNumber_wholeChars (Int.le_trans (by decide) n.minValue_le_toInt)
    (Int.lt_trans n.toInt_lt (by decide))

@[simp]
theorem legible_int64 : int64.Legible := fun n => by
  simp [int64, Json.ofInt, Json.Legible, Json.numberChars, scanNumber_int64]

@[simp]
theorem restores_int64 (n : Int64) : int64.Restores n := by
  have range : Int64.minValue.toInt ≤ n.toInt ∧ n.toInt ≤ Int64.maxValue.toInt :=
    ⟨n.minValue_le_toInt, n.toInt_le⟩
  simp only [Restores, int64, Json.ofInt, Json.draft, Json.numberChars, scanNumber_int64,
    if_pos range, Int64.ofInt_toInt]

@[simp]
theorem legible_float : float.Legible :=
  Json.legible_ofFloat

/-- The float is read as itself from its own text. -/
def Rereads (x : Float) : Prop :=
  float.parse ((Json.ofFloat x).write .compact) = .ok x

theorem restores_float {x : Float} (h : Rereads x) : float.Restores x := by
  rwa [Rereads, parse_write float (Json.legible_ofFloat x)] at h

/-! ## Lists and other views -/

theorem legible_list {item : Codec α} (h : item.Legible) : (list item).Legible := by
  intro values
  refine Json.legibleItems_iff.2 fun j hj => ?_
  obtain ⟨v, -, rfl⟩ := List.mem_map.1 hj
  exact h v

theorem readItems_write {item : Codec α} {values : List α} (h : ∀ v ∈ values, item.Restores v) :
    readItems item.read (values.map fun v => (item.write v).draft) = .ok values := by
  induction values with
  | nil => rfl
  | cons v values ih =>
    have first : item.read (item.write v).draft = .ok v := h v List.mem_cons_self
    have later := ih fun w hw => h w (List.mem_cons_of_mem _ hw)
    simp only [List.map_cons, readItems, first, later]
    rfl

theorem restores_list {item : Codec α} {values : List α} (h : ∀ v ∈ values, item.Restores v) :
    (list item).Restores values := by
  have items := readItems_write h
  simp only [Restores, list, Json.draft, Json.itemDrafts_eq_map, List.map_map, Function.comp_def,
    items]
  rfl

@[simp]
theorem legible_texts : (list text).Legible :=
  legible_list legible_text

@[simp]
theorem restores_texts (values : List String) : (list text).Restores values :=
  restores_list fun v _ => restores_text v

theorem legible_imap {codec : Codec α} (make : α → β) (view : β → α) (h : codec.Legible) :
    (codec.imap make view).Legible :=
  fun b => h (view b)

theorem restores_imap {codec : Codec α} {make : α → β} {view : β → α} {b : β}
    (h : codec.Restores (view b)) (hb : make (view b) = b) :
    (codec.imap make view).Restores b := by
  unfold Restores at h ⊢
  simp only [imap, h, Except.map, hb]

/-! ## Structures -/

@[simp]
theorem legible_of {key : String} {codec : Codec β} {get : α → β} {set : β → α → α}
    (h : codec.Legible) (a : α) : ((Field.of key codec get set).write a).Legible :=
  h (get a)

theorem legible_ofFields {fields : List (Field α)} (empty : α)
    (h : ∀ field ∈ fields, ∀ a, (field.write a).Legible) : (ofFields fields empty).Legible := by
  intro a
  refine Json.legibleMembers_iff.2 fun m hm => ?_
  obtain ⟨field, hfield, rfl⟩ := List.mem_map.1 hm
  exact h field hfield a

/-- The fields, read one after the other from what they write for `a`, turn `b` into `a`. -/
def Fills (a : α) : List (Field α) → α → Prop
  | [], b => b = a
  | field :: rest, b => ∃ c, field.read (field.write a).draft b = .ok c ∧ Fills a rest c

@[simp]
theorem fills_nil {a b : α} : Fills a [] b ↔ b = a :=
  Iff.rfl

@[simp]
theorem fills_of {key : String} {codec : Codec β} {get : α → β} {set : β → α → α}
    {rest : List (Field α)} {a b : α} (h : codec.Restores (get a)) :
    Fills a (.of key codec get set :: rest) b ↔ Fills a rest (set (get a) b) := by
  unfold Restores at h
  simp [Fills, Field.of, h, Except.map]

theorem Fills.of {key : String} {codec : Codec β} {get : α → β} {set : β → α → α}
    {rest : List (Field α)} {a b : α} (h : codec.Restores (get a))
    (later : Fills a rest (set (get a) b)) : Fills a (.of key codec get set :: rest) b :=
  (fills_of h).2 later

theorem find?_key {fields : List (Field α)} (keys : (fields.map (·.key)).Nodup) {field : Field α}
    (h : field ∈ fields) : fields.find? (fun f => f.key == field.key) = some field := by
  induction fields with
  | nil => cases h
  | cons first rest ih =>
    rw [List.map_cons, List.nodup_cons] at keys
    rcases List.mem_cons.1 h with rfl | h
    · simp
    · have other : first.key ≠ field.key := fun e => keys.1 (e ▸ List.mem_map_of_mem h)
      simp [other, ih keys.2 h]

/-- The induction runs over the fields that are still to come; none of their keys was seen. -/
theorem Fills.readMembers {fields rest : List (Field α)} {a b : α} (h : Fills a rest b)
    (keys : (fields.map (·.key)).Nodup) (sub : ∀ field ∈ rest, field ∈ fields)
    (fresh : (rest.map (·.key)).Nodup) (seen : List String)
    (unseen : ∀ field ∈ rest, field.key ∉ seen) :
    Field.readMembers fields seen b
      (rest.map fun field => (some field.key, (field.write a).draft)) = .ok a := by
  induction rest generalizing b seen with
  | nil => rw [h]; rfl
  | cons field rest ih =>
    obtain ⟨c, read, later⟩ := h
    rw [List.map_cons, List.nodup_cons] at fresh
    have found := find?_key keys (sub field List.mem_cons_self)
    have new : seen.contains field.key = false := by
      simpa using unseen field List.mem_cons_self
    have next := ih later (fun f hf => sub f (List.mem_cons_of_mem _ hf)) fresh.2
      (field.key :: seen) fun f hf => by
        have other : f.key ≠ field.key := fun e => fresh.1 (e ▸ List.mem_map_of_mem hf)
        simp [other, unseen f (List.mem_cons_of_mem _ hf)]
    simp only [List.map_cons, Field.readMembers, found, new, read]
    exact next

theorem restores_ofFields {fields : List (Field α)} {empty a : α}
    (keys : (fields.map (·.key)).Nodup) (h : Fills a fields empty) :
    (ofFields fields empty).Restores a := by
  have members := h.readMembers keys (fun _ hf => hf) keys [] (by simp)
  simp only [Restores, ofFields, Json.draft, Json.memberDrafts_eq_map, List.map_map,
    Function.comp_def, members]
  rfl

/-! ## What a result came from -/

theorem ok_of_bind {ε : Type} {x : Except ε α} {f : α → Except ε β} {b : β}
    (h : x >>= f = .ok b) : ∃ a, x = .ok a ∧ f a = .ok b := by
  cases x with
  | error e => cases h
  | ok a => exact ⟨a, rfl, h⟩

theorem ok_of_map {ε : Type} {x : Except ε α} {f : α → β} {b : β}
    (h : x.map f = .ok b) : ∃ a, x = .ok a ∧ f a = b := by
  cases x with
  | error e => cases h
  | ok a => exact ⟨a, rfl, Except.ok.inj h⟩

theorem ok_of_mapError {ε ε' : Type} {x : Except ε α} {f : ε → ε'} {a : α}
    (h : x.mapError f = .ok a) : x = .ok a := by
  cases x with
  | error e => cases h
  | ok b => cases h; rfl

/-! ## Properties of what is read -/

/-- Every value that the codec reads has the property. -/
def Yields (codec : Codec α) (P : α → Prop) : Prop :=
  ∀ d a, codec.read d = .ok a → P a

theorem Yields.parse {codec : Codec α} {P : α → Prop} (h : codec.Yields P) {s : String} {a : α}
    (hp : codec.parse s = .ok a) : P a := by
  unfold Codec.parse at hp
  obtain ⟨b, hr, hp⟩ := ok_of_bind hp
  split at hp
  · cases hp
    exact h _ _ hr
  · cases hp

theorem stopped_eq_ok {stop : Option Break} {a b : α} (h : Draft.stopped stop a = .ok b) :
    a = b := by
  cases stop with
  | none => exact Except.ok.inj h
  | some place => cases h

theorem yields_imap {codec : Codec α} {make : α → β} {view : β → α} {P : β → Prop}
    (h : ∀ a, P (make a)) : (codec.imap make view).Yields P := by
  intro d b hb
  obtain ⟨a, -, rfl⟩ := ok_of_map hb
  exact h a

theorem readItems_forall {item : Codec α} {P : α → Prop} (h : item.Yields P) {drafts : List Draft}
    {values : List α} (hv : readItems item.read drafts = .ok values) : ∀ v ∈ values, P v := by
  induction drafts generalizing values with
  | nil => cases hv; simp
  | cons d drafts ih =>
    unfold readItems at hv
    obtain ⟨v, hd, hv⟩ := ok_of_bind hv
    obtain ⟨rest, hr, hv⟩ := ok_of_bind hv
    cases hv
    exact List.forall_mem_cons.2 ⟨h d v hd, ih hr⟩

theorem yields_list {item : Codec α} {P : α → Prop} (h : item.Yields P) :
    (list item).Yields fun values => ∀ v ∈ values, P v := by
  intro d values hv
  cases d with
  | list items stop =>
    obtain ⟨read, hr, hv⟩ := ok_of_bind hv
    rw [← stopped_eq_ok hv]
    exact readItems_forall h hr
  | _ => cases hv

/-- Reading the field into a structure with the property gives one with the property. -/
def Keeps (P : α → Prop) (field : Field α) : Prop :=
  ∀ d a b, field.read d a = .ok b → P a → P b

theorem keeps_of {key : String} {codec : Codec β} {get : α → β} {set : β → α → α}
    {P : α → Prop} {Q : β → Prop} (h : codec.Yields Q) (hs : ∀ v a, Q v → P a → P (set v a)) :
    Keeps P (.of key codec get set) := by
  intro d a b hb ha
  obtain ⟨v, hr, rfl⟩ := ok_of_map hb
  exact hs v a (h d v hr) ha

theorem keeps_other {key : String} {codec : Codec β} {get : α → β} {set : β → α → α}
    {P : α → Prop} (hs : ∀ v a, P a → P (set v a)) : Keeps P (.of key codec get set) :=
  keeps_of (fun _ _ _ => trivial) fun v a (_ : True) => hs v a

theorem readMembers_keeps {fields : List (Field α)} {P : α → Prop}
    (h : ∀ field ∈ fields, Keeps P field) {members : List (Option String × Draft)}
    {seen : List String} {a b : α} (hb : Field.readMembers fields seen a members = .ok b)
    (ha : P a) : P b := by
  induction members generalizing seen a with
  | nil => cases hb; exact ha
  | cons member members ih =>
    obtain ⟨key, value⟩ := member
    cases key with
    | none => cases hb
    | some key =>
      unfold Field.readMembers at hb
      split at hb
      · rename_i field found
        split at hb
        · cases hb
        · obtain ⟨c, hr, hb⟩ := ok_of_bind hb
          exact ih hb (h field (List.mem_of_find?_eq_some found) _ _ _ hr ha)
      · split at hb
        · cases hb
        · exact ih hb ha

theorem readInOrder_keeps {fields : List (Field α)} {P : α → Prop}
    (h : ∀ field ∈ fields, Keeps P field) {stop : Option Break} {items : List Draft} {a b : α}
    (hb : Field.readInOrder fields stop a items = .ok b) (ha : P a) : P b := by
  induction items generalizing fields a with
  | nil =>
    unfold Field.readInOrder at hb
    exact stopped_eq_ok hb ▸ ha
  | cons item items ih =>
    cases fields with
    | nil => cases hb
    | cons field fields =>
      obtain ⟨first, later⟩ := List.forall_mem_cons.1 h
      unfold Field.readInOrder at hb
      obtain ⟨c, hr, hb⟩ := ok_of_bind hb
      exact ih later hb (first _ _ _ hr ha)

theorem yields_ofFields {fields : List (Field α)} {empty : α} {P : α → Prop}
    (h : ∀ field ∈ fields, Keeps P field) (hempty : P empty) :
    (ofFields fields empty).Yields P := by
  intro d a ha
  cases d with
  | record members stop =>
    obtain ⟨b, hr, ha⟩ := ok_of_bind ha
    rw [← stopped_eq_ok ha]
    exact readMembers_keeps h hr hempty
  | list items stop => exact readInOrder_keeps h ha hempty
  | _ => cases ha

end Codec

end CatalogReport
