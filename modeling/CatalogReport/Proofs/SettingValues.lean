import Mathlib.Data.List.Perm.Basic
import Mathlib.Logic.Relation
import CatalogReport.Proofs.JsonRows
import CatalogReport.Proofs.Words
import CatalogReport.Shell.Session

/-!
# Settings of options

A setting gives a value to a key (`Assigns`), and options follow a list of such pairs when each of
them has the value of the last pair with its key (`Options.Follows`). A pair is either set, in one
of five ways, or refused for its value (`Options.set_cases`); what one pair changes is what one more
pair demands (`Follows.set`), so settings are accepted exactly if each has a key and a value that
suits it, and then the options follow them. In options that are set in place a pair that is refused
leaves no trace (`Options.assign_cases`).
-/

namespace CatalogReport

/-! ## Maps -/

theorem SortedMap.eq_of_lookup {ν : Type} {map map' : SortedMap String ν}
    (ascending : (map.map Prod.fst).Pairwise (· < ·))
    (ascending' : (map'.map Prod.fst).Pairwise (· < ·))
    (same : ∀ key, map.lookup key = map'.lookup key) : map = map' := by
  have mem_iff {m : SortedMap String ν} (h : (m.map Prod.fst).Pairwise (· < ·))
      (entry : String × ν) :
      entry ∈ m ↔ m.lookup entry.1 = some entry.2 := by
    refine ⟨lookup_of_mem (nodup_of_ascending h), fun found => ?_⟩
    obtain ⟨front, back, e, -⟩ := List.lookup_eq_some_iff.1 found
    simp [e]
  have perm : map.Perm map' := by
    rw [List.perm_ext_iff_of_nodup (.of_map _ (nodup_of_ascending ascending))
      (.of_map _ (nodup_of_ascending ascending'))]
    intro entry
    rw [mem_iff ascending, mem_iff ascending', same]
  refine perm.eq_of_pairwise ?_ (List.pairwise_map.1 ascending) (List.pairwise_map.1 ascending')
  exact fun a b _ _ less more => absurd more (String.lt_asymm less)

/-! ## Pairs -/

/-- The setting gives the value to the key: the value stands after the first equals sign, and before
it the key, perhaps between blanks. -/
def Assigns (setting key value : String) : Prop :=
  ∃ before, setting = before ++ "=" ++ value ∧ '=' ∉ before.toList ∧
    (∃ c ∈ before.toList, Text.isBlank c = false) ∧ key = Text.trim before

theorem ne_equals_of_mem {cs : List Char} (plain : '=' ∉ cs) : ∀ c ∈ cs, (c != '=') = true := by
  intro c hc
  rw [bne_iff_ne]
  rintro rfl
  exact plain hc

/-- The key of a text that is cut at its first equals sign. -/
theorem settingOf?_cut {before value : String} (plain : '=' ∉ before.toList) :
    settingOf? (before ++ "=" ++ value) =
      if Text.trimOf before.toList = [] then none else some (Text.trim before, value) := by
  have cut : (before ++ "=" ++ value).toList = before.toList ++ '=' :: value.toList := by
    simp [String.toList_append]
  have others := ne_equals_of_mem plain
  unfold settingOf?
  simp only [cut, List.dropWhile_append_of_pos others, List.takeWhile_append_of_pos others]
  simp [Text.trim, List.isEmpty_iff]

theorem settingOf?_of_not_mem {setting : String} (plain : '=' ∉ setting.toList) :
    settingOf? setting = none := by
  have passed : setting.toList.dropWhile (· != '=') = [] :=
    List.dropWhile_eq_nil_iff.2 (ne_equals_of_mem plain)
  unfold settingOf?
  simp only [passed]

theorem settingOf?_eq_some_iff {setting key value : String} :
    settingOf? setting = some (key, value) ↔ Assigns setting key value := by
  constructor
  · intro h
    by_cases equals : '=' ∈ setting.toList
    · obtain ⟨before, rest, e, plain⟩ := List.eq_append_cons_of_mem equals
      have cut : setting = String.ofList before ++ "=" ++ String.ofList rest := by
        rw [← String.toList_inj, e]
        simp [String.toList_append]
      have first : '=' ∉ (String.ofList before).toList := by simpa using plain
      rw [cut, settingOf?_cut first] at h
      split at h
      · cases h
      · rename_i nonempty
        cases h
        refine ⟨_, cut, first, ?_, rfl⟩
        simpa [Text.trimOf_eq_nil_iff] using nonempty
    · rw [settingOf?_of_not_mem equals] at h
      cases h
  · rintro ⟨before, rfl, plain, ⟨c, hc, solid⟩, rfl⟩
    have nonempty : Text.trimOf before.toList ≠ [] := by
      intro empty
      simpa [solid] using Text.trimOf_eq_nil_iff.1 empty c hc
    rw [settingOf?_cut plain, if_neg nonempty]

/-- The value of the last pair with this key. -/
def lastValue (pairs : List (String × String)) (key : String) : Option String :=
  pairs.reverse.lookup key

theorem lastValue_append (pairs later : List (String × String)) (key : String) :
    lastValue (pairs ++ later) key = (lastValue later key).or (lastValue pairs key) := by
  rw [lastValue, List.reverse_append, List.lookup_append]
  rfl

theorem lastValue_concat (pairs : List (String × String)) (key value other : String) :
    lastValue (pairs ++ [(key, value)]) other =
      if other = key then some value else lastValue pairs other := by
  rw [lastValue, List.reverse_append]
  exact SortedMap.lookup_cons_ite ..

theorem lastValue_swap (front back : List (String × String)) {p q : String × String}
    (apart : p.1 ≠ q.1) (key : String) :
    lastValue (front ++ p :: q :: back) key = lastValue (front ++ q :: p :: back) key := by
  obtain ⟨k, v⟩ := p
  obtain ⟨k', v'⟩ := q
  rw [List.append_cons, List.append_cons (front ++ _), lastValue_append, lastValue_concat,
    lastValue_concat, List.append_cons, List.append_cons (front ++ _), lastValue_append,
    lastValue_concat, lastValue_concat]
  by_cases same : key = k
  · subst same
    simp [apart]
  · simp [same]

/-! ## Values -/

def toggleWords : Bool → List String
  | true => ["on", "true", "yes", "1"]
  | false => ["off", "false", "no", "0"]

theorem toggle?_eq_some_iff {word : String} {state : Bool} :
    toggle? word = some state ↔ word.map Char.toLower ∈ toggleWords state := by
  have apart : ∀ word ∈ toggleWords true, word ∉ toggleWords false := by decide
  have opened : toggle? word =
      if word.map Char.toLower ∈ toggleWords true then some true
      else if word.map Char.toLower ∈ toggleWords false then some false else none := by
    simp only [toggle?, List.contains_iff_mem]
    rfl
  rw [opened]
  cases state with
  | true => split <;> simp_all
  | false =>
    split
    · rename_i on
      simpa using apart _ on
    · split <;> simp_all

def Border.names : Border → List String
  | .plain => ["0", "plain", "none"]
  | .psql => ["1", "psql"]
  | .rounded => ["2", "rounded", "box"]

theorem Border.ofName?_eq_some_iff {name : String} {border : Border} :
    Border.ofName? name = some border ↔ name ∈ border.names := by
  have named : ∀ border : Border, ∀ name ∈ border.names, Border.ofName? name = some border := by
    intro border
    cases border <;> decide
  refine ⟨fun h => ?_, named border name⟩
  simp only [Border.ofName?, List.contains_iff_mem] at h
  split at h
  · cases h
    assumption
  split at h
  · cases h
    assumption
  split at h
  · cases h
    assumption
  · cases h

namespace Options

/-- The keys that stand for an option of their own. -/
def namedKeys : List String := ["title", "footer", "null", "border"]

/-- Whether the option of this key takes the value. -/
def Suits (key value : String) : Prop :=
  (key = "footer" → ∃ footer, value.map Char.toLower ∈ toggleWords footer) ∧
    (key = "border" → ∃ border : Border, value ∈ border.names)

instance (key value : String) : Decidable (Suits key value) :=
  decidable_of_iff
    ((key = "footer" → (toggle? value).isSome) ∧ (key = "border" → (Border.ofName? value).isSome))
    (by simp only [Suits, Option.isSome_iff_exists, toggle?_eq_some_iff,
      Border.ofName?_eq_some_iff])

/-- The later options are the earlier ones with the value at the key. -/
inductive Sets (o : Options) : String → String → Options → Prop where
  | title (value : String) :
    Sets o "title" value { o with title := if value.isEmpty then none else some value }
  | footer (value : String) (footer : Bool) (word : value.map Char.toLower ∈ toggleWords footer) :
    Sets o "footer" value { o with footer := footer }
  | null (value : String) : Sets o "null" value { o with nullText := value }
  | border (value : String) (border : Border) (name : value ∈ border.names) :
    Sets o "border" value { o with border := border }
  | extra (key value : String) (other : key ∉ namedKeys) :
    Sets o key value { o with extra := o.extra.put key value }

/-- A value that suits its key is set; any other is refused. -/
theorem set_cases (o : Options) (key value : String) :
    (Suits key value ∧ ∃ later, o.set key value = .ok later ∧ o.Sets key value later) ∨
      ¬Suits key value ∧ o.set key value = .error (.invalidOption key value) := by
  by_cases title : key = "title"
  · subst title
    exact .inl ⟨⟨by simp, by simp⟩, _, rfl, .title value⟩
  by_cases footer : key = "footer"
  · subst footer
    cases found : toggle? value with
    | some footer =>
      have word := toggle?_eq_some_iff.1 found
      refine .inl ⟨⟨fun _ => ⟨footer, word⟩, by simp⟩, _, ?_, .footer value footer word⟩
      simp [Options.set, found]
    | none =>
      refine .inr ⟨fun suits => ?_, by simp [Options.set, found]⟩
      obtain ⟨footer, word⟩ := suits.1 rfl
      rw [toggle?_eq_some_iff.2 word] at found
      cases found
  by_cases null : key = "null"
  · subst null
    exact .inl ⟨⟨by simp, by simp⟩, _, rfl, .null value⟩
  by_cases border : key = "border"
  · subst border
    cases found : Border.ofName? value with
    | some border =>
      have name := Border.ofName?_eq_some_iff.1 found
      refine .inl ⟨⟨by simp, fun _ => ⟨border, name⟩⟩, _, ?_, .border value border name⟩
      simp [Options.set, found]
    | none =>
      refine .inr ⟨fun suits => ?_, by simp [Options.set, found]⟩
      obtain ⟨border, name⟩ := suits.2 rfl
      rw [Border.ofName?_eq_some_iff.2 name] at found
      cases found
  · have other : key ∉ namedKeys := by simp [namedKeys, title, footer, null, border]
    refine .inl ⟨⟨(absurd · footer), (absurd · border)⟩, _, ?_, .extra key value other⟩
    simp [Options.set, title, footer, null, border]

/-- Options that have the value of the last pair with their key. -/
structure Follows (pairs : List (String × String)) (o : Options) : Prop where
  title : o.title = (lastValue pairs "title").filter (· ≠ "")
  footer : match lastValue pairs "footer" with
    | none => o.footer = true
    | some word => word.map Char.toLower ∈ toggleWords o.footer
  nullText : o.nullText = (lastValue pairs "null").getD ""
  border : match lastValue pairs "border" with
    | none => o.border = .psql
    | some name => name ∈ o.border.names
  ascending : (o.extra.map Prod.fst).Pairwise (· < ·)
  extra (key : String) :
    o.extra.lookup key = if key ∈ namedKeys then none else lastValue pairs key

variable {pairs pairs' : List (String × String)} {o o' later : Options} {key value : String}

/-- The pair of an option is not kept among the other keys. -/
theorem Follows.extra_of_named (follows : Follows pairs o) (named : key ∈ namedKeys)
    (value other : String) :
    o.extra.lookup other =
      if other ∈ namedKeys then none else lastValue (pairs ++ [(key, value)]) other := by
  rw [follows.extra, lastValue_concat]
  by_cases same : other = key <;> simp [same, named]

/-- One more pair. -/
theorem Follows.set (follows : Follows pairs o) (sets : o.Sets key value later) :
    Follows (pairs ++ [(key, value)]) later := by
  cases sets with
  | title value =>
    constructor
    case title => by_cases empty : value = "" <;> simp [lastValue_concat, Option.filter, empty]
    case footer => simpa [lastValue_concat] using follows.footer
    case nullText => simpa [lastValue_concat] using follows.nullText
    case border => simpa [lastValue_concat] using follows.border
    case ascending => exact follows.ascending
    case extra => exact follows.extra_of_named (by decide) value
  | footer value footer word =>
    constructor
    case title => simpa [lastValue_concat] using follows.title
    case footer => simpa [lastValue_concat] using word
    case nullText => simpa [lastValue_concat] using follows.nullText
    case border => simpa [lastValue_concat] using follows.border
    case ascending => exact follows.ascending
    case extra => exact follows.extra_of_named (by decide) value
  | null value =>
    constructor
    case title => simpa [lastValue_concat] using follows.title
    case footer => simpa [lastValue_concat] using follows.footer
    case nullText => simp [lastValue_concat]
    case border => simpa [lastValue_concat] using follows.border
    case ascending => exact follows.ascending
    case extra => exact follows.extra_of_named (by decide) value
  | border value border name =>
    constructor
    case title => simpa [lastValue_concat] using follows.title
    case footer => simpa [lastValue_concat] using follows.footer
    case nullText => simpa [lastValue_concat] using follows.nullText
    case border => simpa [lastValue_concat] using name
    case ascending => exact follows.ascending
    case extra => exact follows.extra_of_named (by decide) value
  | extra _ _ other =>
    have apart {k : String} (named : k ∈ namedKeys) :
        lastValue (pairs ++ [(key, value)]) k = lastValue pairs k := by
      rw [lastValue_concat, if_neg]
      rintro rfl
      exact other named
    constructor
    case title => rw [apart (by decide), follows.title]
    case footer => rw [apart (by decide)]; exact follows.footer
    case nullText => rw [apart (by decide), follows.nullText]
    case border => rw [apart (by decide)]; exact follows.border
    case ascending =>
      exact SortedMap.keys_put key value o.extra ▸ NameSet.insertInto_sorted follows.ascending
    case extra =>
      intro k
      rw [SortedMap.lookup_put, follows.extra, lastValue_concat]
      by_cases same : k = key <;> simp [same, other]

theorem Follows.unique (follows : Follows pairs o) (follows' : Follows pairs o') : o = o' := by
  have title : o.title = o'.title := follows.title.trans follows'.title.symm
  have footer : o.footer = o'.footer := by
    have h := follows.footer
    have h' := follows'.footer
    cases found : lastValue pairs "footer" with
    | none =>
      rw [found] at h h'
      exact h.trans h'.symm
    | some word =>
      rw [found] at h h'
      exact Option.some.inj ((toggle?_eq_some_iff.2 h).symm.trans (toggle?_eq_some_iff.2 h'))
  have nullText : o.nullText = o'.nullText := follows.nullText.trans follows'.nullText.symm
  have border : o.border = o'.border := by
    have h := follows.border
    have h' := follows'.border
    cases found : lastValue pairs "border" with
    | none =>
      rw [found] at h h'
      exact h.trans h'.symm
    | some name =>
      rw [found] at h h'
      exact Option.some.inj
        ((Border.ofName?_eq_some_iff.2 h).symm.trans (Border.ofName?_eq_some_iff.2 h'))
  have extra : o.extra = o'.extra :=
    SortedMap.eq_of_lookup follows.ascending follows'.ascending fun key =>
      (follows.extra key).trans (follows'.extra key).symm
  cases o
  cases o'
  simp_all

/-- Only the last value of each key counts. -/
theorem Follows.congr (same : ∀ key, lastValue pairs key = lastValue pairs' key)
    (follows : Follows pairs o) :
    Follows pairs' o where
  title := same _ ▸ follows.title
  footer := same _ ▸ follows.footer
  nullText := same _ ▸ follows.nullText
  border := same _ ▸ follows.border
  ascending := follows.ascending
  extra key := same key ▸ follows.extra key

theorem follows_nil : Follows [] {} where
  title := rfl
  footer := rfl
  nullText := rfl
  border := rfl
  ascending := .nil
  extra _ := (ite_self none).symm

/-! ## Runs of pairs -/

theorem setAll_cons (o : Options) (pair : String × String) (rest : List (String × String)) :
    o.setAll (pair :: rest) = o.set pair.1 pair.2 >>= fun o => o.setAll rest :=
  rfl

theorem Follows.setAll {more : List (String × String)} (follows : Follows pairs o)
    (h : o.setAll more = .ok later) : Follows (pairs ++ more) later := by
  induction more generalizing pairs o with
  | nil =>
    cases h
    rwa [List.append_nil]
  | cons pair more ih =>
    rw [setAll_cons] at h
    rcases o.set_cases pair.1 pair.2 with ⟨-, next, set, sets⟩ | ⟨-, refused⟩
    · rw [set] at h
      rw [List.append_cons]
      exact ih (follows.set sets) h
    · rw [refused] at h
      cases h

theorem setAll_ok_iff (o : Options) (pairs : List (String × String)) :
    (∃ later, o.setAll pairs = .ok later) ↔ ∀ pair ∈ pairs, Suits pair.1 pair.2 := by
  induction pairs generalizing o with
  | nil => simp [Options.setAll]
  | cons pair rest ih =>
    rw [setAll_cons, List.forall_mem_cons]
    rcases o.set_cases pair.1 pair.2 with ⟨suits, next, set, -⟩ | ⟨unsuited, refused⟩
    · rw [set, and_iff_right suits]
      exact ih next
    · rw [refused, iff_false_right (fun h => unsuited h.1)]
      rintro ⟨later, h⟩
      cases h

theorem ofPairs_eq_ok_iff :
    ofPairs pairs = .ok o ↔ (∀ pair ∈ pairs, Suits pair.1 pair.2) ∧ Follows pairs o := by
  constructor
  · intro h
    exact ⟨(setAll_ok_iff _ pairs).1 ⟨o, h⟩, follows_nil.setAll h⟩
  · rintro ⟨suits, follows⟩
    obtain ⟨later, h⟩ := (setAll_ok_iff {} pairs).2 suits
    have same : later = o := (follows_nil.setAll h).unique follows
    exact same ▸ h

/-! ## Settings -/

/-- The pairs that the settings give, one after the other. -/
def AssignAll (settings : List String) (pairs : List (String × String)) : Prop :=
  List.Forall₂ (fun setting pair => Assigns setting pair.1 pair.2) settings pairs

theorem settingsOf_eq_ok_iff {settings : List String} :
    settingsOf settings = .ok pairs ↔ AssignAll settings pairs := by
  unfold AssignAll
  induction settings generalizing pairs with
  | nil => simp [settingsOf, eq_comm]
  | cons setting rest ih =>
    rw [List.forall₂_cons_left_iff]
    unfold settingsOf
    cases given : settingOf? setting with
    | none =>
      refine iff_of_false (by simp) ?_
      rintro ⟨pair, -, assigns, -⟩
      rw [settingOf?_eq_some_iff.2 assigns] at given
      cases given
    | some pair =>
      have only (other : String × String) : Assigns setting other.1 other.2 ↔ other = pair := by
        rw [← settingOf?_eq_some_iff, given, Option.some_inj, eq_comm]
      simp only [only, ← ih]
      cases settingsOf rest with
      | error e => simp [bind, Except.bind]
      | ok later => simp [bind, Except.bind, eq_comm]

def ofSettings (settings : List String) : Except SetupError Options := do
  let pairs ← settingsOf settings
  (ofPairs pairs).mapError .badOption

theorem ofSettings_eq_ok_iff {settings : List String} :
    ofSettings settings = .ok o ↔
      ∃ pairs, AssignAll settings pairs ∧ (∀ pair ∈ pairs, Suits pair.1 pair.2) ∧
        Follows pairs o := by
  simp only [← settingsOf_eq_ok_iff, ← ofPairs_eq_ok_iff]
  unfold ofSettings
  cases settingsOf settings with
  | error e => simp [bind, Except.bind]
  | ok pairs =>
    change (ofPairs pairs).mapError SetupError.badOption = .ok o ↔ _
    cases set : ofPairs pairs <;> simp [set, Except.mapError]

theorem assignAll_suiting_iff {settings : List String} :
    (∃ pairs, AssignAll settings pairs ∧ ∀ pair ∈ pairs, Suits pair.1 pair.2) ↔
      ∀ setting ∈ settings, ∃ key value, Assigns setting key value ∧ Suits key value := by
  unfold AssignAll
  induction settings with
  | nil => simp
  | cons setting rest ih =>
    rw [List.forall_mem_cons, ← ih]
    constructor
    · rintro ⟨_, whole, suits⟩
      obtain ⟨pair, pairs, assigns, given, rfl⟩ := List.forall₂_cons_left_iff.1 whole
      rw [List.forall_mem_cons] at suits
      exact ⟨⟨pair.1, pair.2, assigns, suits.1⟩, pairs, given, suits.2⟩
    · rintro ⟨⟨key, value, assigns, suits⟩, pairs, given, suits'⟩
      exact ⟨(key, value) :: pairs, .cons assigns given, List.forall_mem_cons.2 ⟨suits, suits'⟩⟩

theorem ofSettings_ok_iff (settings : List String) :
    (∃ o, ofSettings settings = .ok o) ↔
      ∀ setting ∈ settings, ∃ key value, Assigns setting key value ∧ Suits key value := by
  rw [← assignAll_suiting_iff]
  constructor
  · rintro ⟨o, h⟩
    obtain ⟨pairs, given, suits, -⟩ := ofSettings_eq_ok_iff.1 h
    exact ⟨pairs, given, suits⟩
  · rintro ⟨pairs, given, suits⟩
    obtain ⟨o, h⟩ := (setAll_ok_iff {} pairs).2 suits
    exact ⟨o, ofSettings_eq_ok_iff.2 ⟨pairs, given, ofPairs_eq_ok_iff.1 h⟩⟩

theorem ofSettings_of_ofArguments {a : Arguments} {files : Files} {session : Session}
    (h : Session.ofArguments a files = .ok session) :
    ofSettings a.settings = .ok session.options := by
  unfold Session.ofArguments at h
  obtain ⟨command, -, h⟩ := Codec.ok_of_bind h
  obtain ⟨pairs, given, h⟩ := Codec.ok_of_bind h
  obtain ⟨o, set, h⟩ := Codec.ok_of_bind h
  obtain ⟨catalog, -, h⟩ := Codec.ok_of_bind h
  cases h
  rw [ofSettings, given]
  exact set

/-! ## Order -/

/-- Two neighbours change places that do not give a value to the same key. -/
inductive Swaps : List String → List String → Prop where
  | swap (front back : List String) {first second : String}
    (apart : ∀ key value value', Assigns first key value → ¬Assigns second key value') :
    Swaps (front ++ first :: second :: back) (front ++ second :: first :: back)

theorem Swaps.symm {settings settings' : List String} (swaps : Swaps settings settings') :
    Swaps settings' settings := by
  cases swaps with
  | swap front back apart =>
    exact .swap front back fun key value value' a b => apart key value' value b a

theorem assignAll_append {front back : List String} (given : AssignAll (front ++ back) pairs) :
    ∃ before after, pairs = before ++ after ∧ AssignAll front before ∧ AssignAll back after := by
  have flipped := given.flip
  refine ⟨pairs.take front.length, pairs.drop front.length, (List.take_append_drop ..).symm, ?_, ?_⟩
  · exact (List.forall₂_take_append _ _ _ flipped).flip
  · exact (List.forall₂_drop_append _ _ _ flipped).flip

theorem Swaps.ofSettings {settings settings' : List String} (swaps : Swaps settings settings')
    (h : ofSettings settings = .ok o) : ofSettings settings' = .ok o := by
  obtain ⟨pairs, given, suits, follows⟩ := ofSettings_eq_ok_iff.1 h
  cases swaps with
  | swap front back apart =>
    obtain ⟨before, _, rfl, givenFront, givenPairs⟩ := assignAll_append given
    obtain ⟨p, _, first, givenSecond, rfl⟩ := List.forall₂_cons_left_iff.1 givenPairs
    obtain ⟨q, after, second, givenBack, rfl⟩ := List.forall₂_cons_left_iff.1 givenSecond
    have keys : p.1 ≠ q.1 := fun same => apart p.1 p.2 q.2 first (same ▸ second)
    have swapped : (before ++ p :: q :: after).Perm (before ++ q :: p :: after) :=
      .append_left _ (.swap ..)
    refine ofSettings_eq_ok_iff.2 ⟨before ++ q :: p :: after, ?_, fun pair hm => ?_, ?_⟩
    · exact List.rel_append givenFront (.cons second (.cons first givenBack))
    · exact suits pair (swapped.mem_iff.2 hm)
    · exact follows.congr (lastValue_swap before after keys)

theorem ofSettings_reordered {settings settings' : List String}
    (swaps : Relation.ReflTransGen Swaps settings settings') (o : Options) :
    ofSettings settings' = .ok o ↔ ofSettings settings = .ok o := by
  induction swaps with
  | refl => rfl
  | tail _ last ih =>
    exact ⟨fun h => ih.1 (last.symm.ofSettings h), fun h => last.ofSettings (ih.2 h)⟩

/-! ## In place -/

def assign (key value : String) : ExceptT Failure (StateM Options) Unit :=
  if key = "title" then
    modify fun o => { o with title := if value.isEmpty then none else some value }
  else if key = "footer" then
    match toggle? value with
    | some footer => modify fun o => { o with footer := footer }
    | none => throw (.invalidOption key value)
  else if key = "null" then modify fun o => { o with nullText := value }
  else if key = "border" then
    match Border.ofName? value with
    | some border => modify fun o => { o with border := border }
    | none => throw (.invalidOption key value)
  else modify fun o => { o with extra := o.extra.put key value }

theorem assign_run (key value : String) (o : Options) :
    (assign key value).run.run o =
      match o.set key value with
      | .ok later => (.ok (), later)
      | .error failure => (.error failure, o) := by
  unfold assign Options.set
  split
  · rfl
  split
  · cases toggle? value <;> rfl
  split
  · rfl
  split
  · cases Border.ofName? value <;> rfl
  · rfl

/-- A value that suits its key is set in place; any other leaves the options as they were. -/
theorem assign_cases (o : Options) (key value : String) :
    (Suits key value ∧ ∃ later, o.set key value = .ok later ∧ o.Sets key value later ∧
        (assign key value).run.run o = (.ok (), later)) ∨
      ¬Suits key value ∧ o.set key value = .error (.invalidOption key value) ∧
        (assign key value).run.run o = (.error (.invalidOption key value), o) := by
  rw [assign_run]
  rcases o.set_cases key value with ⟨suits, later, set, sets⟩ | ⟨unsuited, refused⟩
  · rw [set]
    exact .inl ⟨suits, later, rfl, sets, rfl⟩
  · rw [refused]
    exact .inr ⟨unsuited, rfl, rfl⟩

/-- What becomes of options in which pairs are set in place one after the other, some of them in
vain. -/
def after (o : Options) (history : List (String × String)) : Options :=
  history.foldl (fun o pair => ((assign pair.1 pair.2).run.run o).2) o

/-- Of the pairs that were tried, those that were refused do not count. -/
theorem follows_after (history : List (String × String)) :
    Follows (history.filter fun pair => Suits pair.1 pair.2) (({} : Options).after history) := by
  induction history using List.reverseRecOn with
  | nil => exact follows_nil
  | append_singleton history pair ih =>
    have last : ({} : Options).after (history ++ [pair]) =
        ((assign pair.1 pair.2).run.run (({} : Options).after history)).2 := List.foldl_concat ..
    rw [last, List.filter_append]
    rcases (({} : Options).after history).assign_cases pair.1 pair.2 with
      ⟨suits, later, -, sets, run⟩ | ⟨unsuited, -, run⟩
    · rw [run]
      simpa [suits] using ih.set sets
    · rw [run]
      simpa [unsuited] using ih

/-! ## Last values -/

/-- Settings are taken together or not at all, and of those with one key the last counts: they are
accepted exactly if each of them gives a suiting value to a key, then every option follows them, the
order of different keys does not matter, and a session has these options. In place a value that does
not suit leaves the options as they were, whatever was set or refused before. -/
theorem ofSettings_lastWins (settings : List String) :
    ((∃ o, ofSettings settings = .ok o) ↔
      ∀ setting ∈ settings, ∃ key value, Assigns setting key value ∧ Suits key value) ∧
    (∀ o, ofSettings settings = .ok o → ∃ pairs, AssignAll settings pairs ∧ Follows pairs o) ∧
    (∀ settings', Relation.ReflTransGen Swaps settings settings' →
      ∀ o, ofSettings settings' = .ok o ↔ ofSettings settings = .ok o) ∧
    (∀ a files session, a.settings = settings → Session.ofArguments a files = .ok session →
      ofSettings settings = .ok session.options) ∧
    (∀ history, Follows (history.filter fun pair => Suits pair.1 pair.2)
      (({} : Options).after history)) ∧
    ∀ (start : Options) (history : List (String × String)) (key value : String),
      let o := start.after history
      (Suits key value ∧ ∃ later, o.set key value = .ok later ∧ o.Sets key value later ∧
          (assign key value).run.run o = (.ok (), later)) ∨
        ¬Suits key value ∧ o.set key value = .error (.invalidOption key value) ∧
          (assign key value).run.run o = (.error (.invalidOption key value), o) := by
  refine ⟨ofSettings_ok_iff settings, fun o h => ?_,
    fun settings' swaps => ofSettings_reordered swaps, ?_,
    follows_after, fun start history => (start.after history).assign_cases⟩
  · obtain ⟨pairs, given, -, follows⟩ := ofSettings_eq_ok_iff.1 h
    exact ⟨pairs, given, follows⟩
  · rintro a files session rfl
    exact ofSettings_of_ofArguments

example : ofSettings ["k=a", " footer =OFF", "title=", "border=box", "k =b=c"] =
    .ok { footer := false, border := .rounded, extra := [("k", "b=c")] } := by
  decide +kernel

end Options

end CatalogReport
