import CatalogReport.Json.Codec

/-!
# Written JSON is scanned as what it spells

`Json.draft` is the draft of a written value: whatever the style and the depth, scanning the text of
a legible value gives its draft and leaves what follows the text (`scanValue_chars`). A value is
legible when the text of every number in it is a numeral (`Json.Legible`); whole numbers of 64 bits
are (`scanNumber_wholeChars`), a float may or may not be.
-/

namespace CatalogReport

namespace Draft

/-! ## Texts -/

theorem unitOf?_hexPair : ∀ n < 0x20,
    unitOf? '0' '0' (Nat.digitChar (n / 16)) (Nat.digitChar (n % 16)) = some n := by
  decide

theorem ofUnit_toNat {c : Char} (h : c.toNat < 0x20) : Piece.ofUnit c.toNat = .char c := by
  have high : isHighHalf c.toNat = false := by simp [isHighHalf]; omega
  have low : isLowHalf c.toNat = false := by simp [isLowHalf]; omega
  simp [Piece.ofUnit, high, low]

/-- The escapes of one letter; the control characters without one come after them. -/
theorem scanPieces_escape (done : List Piece) (c : Char) (rest : List Char) :
    scanPieces done (Json.escape c ++ rest) = scanPieces (.char c :: done) rest := by
  by_cases h1 : c = '"'
  · subst h1; simp [Json.escape, scanPieces, unescape?]
  by_cases h2 : c = '\\'
  · subst h2; simp [Json.escape, scanPieces, unescape?]
  by_cases h3 : c = '\n'
  · subst h3; simp [Json.escape, scanPieces, unescape?]
  by_cases h4 : c = '\r'
  · subst h4; simp [Json.escape, scanPieces, unescape?]
  by_cases h5 : c = '\t'
  · subst h5; simp [Json.escape, scanPieces, unescape?]
  by_cases h6 : c = '\x08'
  · subst h6; simp [Json.escape, scanPieces, unescape?]
  by_cases h7 : c = '\x0c'
  · subst h7; simp [Json.escape, scanPieces, unescape?]
  by_cases control : c.toNat < 0x20
  · have hex := unitOf?_hexPair c.toNat control
    simp [Json.escape, h1, h2, h3, h4, h5, h6, h7, control, Json.hexPair, scanPieces, hex,
      ofUnit_toNat control]
  · simp [Json.escape, h1, h2, h3, h4, h5, h6, h7, control, scanPieces]

theorem scanPieces_flatMap_escape (cs : List Char) (done : List Piece) (rest : List Char) :
    scanPieces done (cs.flatMap Json.escape ++ '"' :: rest) =
      (done.reverse ++ cs.map .char, .closed rest) := by
  induction cs generalizing done with
  | nil => simp [scanPieces]
  | cons c cs ih =>
    rw [List.flatMap_cons, List.append_assoc, scanPieces_escape, ih]
    simp

theorem joinPieces_map_char (closed : Bool) (cs done : List Char) :
    joinPieces closed done (cs.map .char) = some (done.reverse ++ cs) := by
  induction cs generalizing done with
  | nil => simp [joinPieces]
  | cons c cs ih => simp [joinPieces, ih]

theorem scanText_textChars (s : String) (rest : List Char) :
    scanText (s.toList.flatMap Json.escape ++ '"' :: rest) = .ok (some s, rest) := by
  unfold scanText
  rw [scanPieces_flatMap_escape]
  simp [joinPieces_map_char]

/-! ## Numerals -/

/-- Nothing in front of these characters can be a numeral that goes on in them. -/
def Terminates (rest : List Char) : Prop :=
  ∀ c ∈ rest.head?, c.isDigit = false ∧ c ≠ '.' ∧ c ≠ 'e' ∧ c ≠ 'E'

theorem terminates_nil : Terminates [] := by
  simp [Terminates]

theorem takeWhile_digits_append {rest : List Char} (h : Terminates rest) (cs : List Char) :
    (cs ++ rest).takeWhile Char.isDigit = cs.takeWhile Char.isDigit := by
  induction cs with
  | nil => cases rest <;> simp_all [Terminates]
  | cons c cs ih => by_cases hc : c.isDigit <;> simp [hc, ih]

theorem dropWhile_digits_append {rest : List Char} (h : Terminates rest) (cs : List Char) :
    (cs ++ rest).dropWhile Char.isDigit = cs.dropWhile Char.isDigit ++ rest := by
  induction cs with
  | nil => cases rest <;> simp_all [Terminates]
  | cons c cs ih => by_cases hc : c.isDigit <;> simp [hc, ih]

theorem breakNumeral_snd (cs : List Char) : (breakNumeral cs).2 = none := by
  cases cs <;> rfl

theorem exponentSign_append {cs : List Char} (h : cs ≠ []) (rest : List Char) :
    exponentSign (cs ++ rest) = ((exponentSign cs).1, (exponentSign cs).2 ++ rest) := by
  obtain ⟨c, cs, rfl⟩ := List.exists_cons_of_ne_nil h
  rw [List.cons_append]
  by_cases minus : c = '-'
  · subst minus; rfl
  by_cases plus : c = '+'
  · subst plus; rfl
  simp [exponentSign, minus, plus]

/-- A numeral that ends its text also ends where something else follows. -/
theorem scanExponent_append {negative : Bool} {whole places : List Nat} {cs rest : List Char}
    (h : (scanExponent negative whole places cs).2 = some []) (hrest : Terminates rest) :
    scanExponent negative whole places (cs ++ rest) =
      ((scanExponent negative whole places cs).1, some rest) := by
  cases cs with
  | nil =>
    cases rest with
    | nil => rfl
    | cons c rest =>
      have hc := hrest c rfl
      simp [scanExponent, hc.2.2.1, hc.2.2.2]
  | cons c cs =>
    by_cases he : c == 'e' || c == 'E'
    · simp only [scanExponent, List.cons_append, he, if_true] at h ⊢
      cases hd : (exponentSign cs).2.takeWhile Char.isDigit with
      | nil => simp [hd, breakNumeral_snd] at h
      | cons d ds =>
        have hne : cs ≠ [] := by rintro rfl; simp [exponentSign] at hd
        simp only [hd, Option.some.injEq] at h
        rw [exponentSign_append hne]
        simp only [takeWhile_digits_append hrest, dropWhile_digits_append hrest, hd, h,
          List.nil_append]
    · simp [scanExponent, he] at h

theorem scanUnsigned_append {negative : Bool} {cs rest : List Char}
    (h : (scanUnsigned negative cs).2 = some []) (hrest : Terminates rest) :
    scanUnsigned negative (cs ++ rest) = ((scanUnsigned negative cs).1, some rest) := by
  unfold scanUnsigned at h ⊢
  rw [takeWhile_digits_append hrest, dropWhile_digits_append hrest]
  split at h
  · simp [breakNumeral_snd] at h
  · simp [breakAt] at h
  · rename_i tail htail hwhole hzero
    rw [htail, List.cons_append]
    simp only [takeWhile_digits_append hrest, dropWhile_digits_append hrest]
    cases hp : tail.takeWhile Char.isDigit with
    | nil => simp [hp, breakNumeral_snd] at h
    | cons p places =>
      simp only [hp] at h ⊢
      exact scanExponent_append h hrest
  · rename_i hwhole hzero hpoint
    -- No point follows the whole part, neither in the numeral nor at the start of the rest.
    have hpoint' : ∀ tail, cs.dropWhile Char.isDigit ++ rest = '.' :: tail → False := by
      intro tail e
      cases hd : cs.dropWhile Char.isDigit with
      | nil =>
        rw [hd, List.nil_append] at e
        exact (hrest '.' (by simp [e])).2.1 rfl
      | cons c tail' =>
        rw [hd, List.cons_append] at e
        exact hpoint tail' (by rw [hd]; simp_all)
    simp only [scanExponent_append h hrest]

theorem scanNumber_append {cs rest : List Char} (h : (scanNumber cs).2 = some [])
    (hrest : Terminates rest) : scanNumber (cs ++ rest) = ((scanNumber cs).1, some rest) := by
  cases cs with
  | nil => simp [scanNumber, scanUnsigned, breakNumeral_snd] at h
  | cons c cs =>
    by_cases minus : c = '-'
    · subst minus
      exact scanUnsigned_append h hrest
    · have e (cs : List Char) : scanNumber (c :: cs) = scanUnsigned false (c :: cs) := by
        simp [scanNumber, minus]
      rw [e] at h ⊢
      rw [List.cons_append, e]
      exact scanUnsigned_append h hrest

/-- A numeral begins with a sign or a digit. -/
theorem head_of_scanNumber {cs rest : List Char} (h : (scanNumber cs).2 = some rest) :
    ∃ c cs', cs = c :: cs' ∧ (c == '-' || c.isDigit) = true := by
  cases cs with
  | nil => simp [scanNumber, scanUnsigned, breakNumeral_snd] at h
  | cons c cs =>
    refine ⟨c, cs, rfl, ?_⟩
    by_cases minus : c = '-'
    · simp [minus]
    by_cases digit : c.isDigit
    · simp [digit]
    · simp [scanNumber, scanUnsigned, minus, digit, breakNumeral_snd] at h

/-! ## Parts of a numeral -/

def IsDigits (cs : List Char) : Prop :=
  cs ≠ [] ∧ ∀ c ∈ cs, c.isDigit = true

/-- The characters are the whole part of a numeral: more than one digit do not begin with zero. -/
def IsWhole (cs : List Char) : Prop :=
  IsDigits cs ∧ ∀ c rest, cs ≠ '0' :: c :: rest

theorem IsDigits.takeWhile_append {cs : List Char} (h : IsDigits cs) (rest : List Char)
    (hrest : ∀ c ∈ rest.head?, c.isDigit = false) :
    (cs ++ rest).takeWhile Char.isDigit = cs := by
  rw [List.takeWhile_append_of_pos h.2]
  cases rest <;> simp_all

theorem IsDigits.dropWhile_append {cs : List Char} (h : IsDigits cs) (rest : List Char)
    (hrest : ∀ c ∈ rest.head?, c.isDigit = false) :
    (cs ++ rest).dropWhile Char.isDigit = rest := by
  rw [List.dropWhile_append_of_pos h.2]
  cases rest <;> simp_all

theorem scanUnsigned_whole (negative : Bool) {whole : List Char} (h : IsWhole whole)
    (rest : List Char) (hrest : ∀ c ∈ rest.head?, c.isDigit = false ∧ c ≠ '.') :
    scanUnsigned negative (whole ++ rest) = scanExponent negative (digitsOf whole) [] rest := by
  have digit : ∀ c ∈ rest.head?, c.isDigit = false := fun c hc => (hrest c hc).1
  unfold scanUnsigned
  rw [h.1.takeWhile_append rest digit, h.1.dropWhile_append rest digit]
  split
  · exact absurd rfl h.1.1
  · exact absurd rfl (h.2 _ _)
  · exact absurd rfl (hrest '.' rfl).2
  · rfl

theorem scanUnsigned_places (negative : Bool) {whole places : List Char} (h : IsWhole whole)
    (hp : IsDigits places) (rest : List Char) (hrest : ∀ c ∈ rest.head?, c.isDigit = false) :
    scanUnsigned negative (whole ++ '.' :: (places ++ rest)) =
      scanExponent negative (digitsOf whole) (digitsOf places) rest := by
  have point : ∀ c ∈ ('.' :: (places ++ rest)).head?, c.isDigit = false := by simp
  have taken := hp.takeWhile_append rest hrest
  have dropped := hp.dropWhile_append rest hrest
  unfold scanUnsigned
  rw [h.1.takeWhile_append _ point, h.1.dropWhile_append _ point]
  split
  · exact absurd rfl h.1.1
  · exact absurd rfl (h.2 _ _)
  · rename_i e
    cases e
    rw [taken, dropped]
    split
    · exact absurd rfl hp.1
    · rfl
  · rename_i other
    exact absurd rfl (other _)

/-! ## Whole numbers -/

theorem head?_toDigits {n : Nat} (h : 0 < n) : (Nat.toDigits 10 n).head? ≠ some '0' := by
  induction n using Nat.strongRecOn with
  | ind n ih =>
    rw [Nat.toDigits_eq_if (by decide)]
    split
    · rename_i small
      exact (by decide : ∀ m < 10, 0 < m → [m.digitChar].head? ≠ some '0') n small h
    · have front := ih (n / 10) (by omega) (by omega)
      obtain ⟨c, cs, e⟩ := List.exists_cons_of_ne_nil (Nat.toDigits_ne_nil (n := n / 10) (b := 10))
      simpa [e] using front

theorem natOf_digitsOf (cs : List Char) : natOf (digitsOf cs) = Nat.ofDigitChars 10 cs 0 := by
  unfold natOf digitsOf
  rw [Nat.ofDigitChars_eq_foldl, List.foldl_map]
  simp only [Nat.mul_comm]

theorem natOf_digitsOf_toDigits (n : Nat) : natOf (digitsOf (Nat.toDigits 10 n)) = n := by
  rw [natOf_digitsOf, Nat.ofDigitChars_ten_toDigits]

theorem isDigits_toDigits (n : Nat) : IsDigits (Nat.toDigits 10 n) :=
  ⟨Nat.toDigits_ne_nil, fun _ h => Nat.isDigit_of_mem_toDigits (by decide) (by decide) h⟩

theorem isWhole_toDigits (n : Nat) : IsWhole (Nat.toDigits 10 n) := by
  refine ⟨isDigits_toDigits n, fun c cs e => ?_⟩
  rcases Nat.eq_zero_or_pos n with rfl | hn
  · simp at e
  · exact head?_toDigits hn (by simp [e])

theorem scanExponent_signed (negative : Bool) (whole places : List Nat) (exponent : Int) :
    scanExponent negative whole places
        ('e' :: (if exponent < 0 then '-' else '+') :: Nat.toDigits 10 exponent.natAbs) =
      (Numeral.draft ⟨negative, whole, places, some exponent⟩, some []) := by
  have digits := isDigits_toDigits exponent.natAbs
  have taken := digits.takeWhile_append [] (by simp)
  have dropped := digits.dropWhile_append [] (by simp)
  have value := natOf_digitsOf_toDigits exponent.natAbs
  rw [List.append_nil] at taken dropped
  obtain ⟨d, ds, e⟩ := List.exists_cons_of_ne_nil digits.1
  rw [e] at taken dropped value ⊢
  by_cases below : exponent < 0
  · have restored : -(exponent.natAbs : Int) = exponent := by omega
    generalize exponent.natAbs = size at value restored
    simp [scanExponent, exponentSign, below, taken, dropped, value, restored]
  · have restored : (exponent.natAbs : Int) = exponent := by omega
    generalize exponent.natAbs = size at value restored
    simp [scanExponent, exponentSign, below, taken, dropped, value, restored]

theorem scanUnsigned_toDigits (negative : Bool) (n : Nat) :
    scanUnsigned negative (Nat.toDigits 10 n) =
      (Numeral.draft ⟨negative, digitsOf (Nat.toDigits 10 n), [], none⟩, some []) := by
  have plain := scanUnsigned_whole negative (isWhole_toDigits n) [] (by simp)
  rwa [List.append_nil] at plain

theorem draft_positive {n : Nat} (h : n < UInt64.size) :
    Numeral.draft ⟨false, digitsOf (Nat.toDigits 10 n), [], none⟩ = .number (.whole n) := by
  simp [Numeral.draft, Numeral.whole?, natOf_digitsOf_toDigits, h]

theorem draft_negative {n : Nat} (hpos : n ≠ 0) (h : n ≤ 0x8000000000000000) :
    Numeral.draft ⟨true, digitsOf (Nat.toDigits 10 n), [], none⟩ = .number (.whole (-n)) := by
  simp [Numeral.draft, Numeral.whole?, natOf_digitsOf_toDigits, hpos, h]

theorem scanNumber_wholeChars {n : Int} (low : -0x8000000000000000 ≤ n)
    (high : n < UInt64.size) : scanNumber (Json.wholeChars n) = (.number (.whole n), some []) := by
  obtain ⟨m, hm⟩ : ∃ m, n.natAbs = m := ⟨_, rfl⟩
  have unsigned (negative : Bool) := scanUnsigned_toDigits negative m
  unfold Json.wholeChars
  rw [hm]
  by_cases negative : n < 0
  · have value : n = -(m : Int) := by omega
    have draft := draft_negative (n := m) (by omega) (by omega)
    rw [if_pos negative, value, ← draft]
    exact unsigned true
  · have value : n = (m : Int) := by omega
    have draft := draft_positive (n := m) (by omega)
    obtain ⟨c, cs, e⟩ := List.exists_cons_of_ne_nil (Nat.toDigits_ne_nil (n := m) (b := 10))
    have digit : c.isDigit = true := (isDigits_toDigits m).2 c (by simp [e])
    have hc : c ≠ '-' := by rintro rfl; simp at digit
    rw [if_neg negative, value, ← draft, List.nil_append, ← unsigned false, e]
    simp [scanNumber, hc]

end Draft

/-! ## Drafts of written values -/

namespace Json

mutual

def draft : Json → Draft
  | .null => .null
  | .flag value => .flag value
  | .number n => (Draft.scanNumber (numberChars n)).1
  | .text s => .text s
  | .list items => .list (itemDrafts items) none
  | .record members => .record (memberDrafts members) none

def itemDrafts : List Json → List Draft
  | [] => []
  | item :: rest => item.draft :: itemDrafts rest

def memberDrafts : List (String × Json) → List (Option String × Draft)
  | [] => []
  | (key, value) :: rest => (some key, value.draft) :: memberDrafts rest

end

mutual

def Legible : Json → Prop
  | .number n => (Draft.scanNumber (numberChars n)).2 = some []
  | .list items => LegibleItems items
  | .record members => LegibleMembers members
  | _ => True

def LegibleItems : List Json → Prop
  | [] => True
  | item :: rest => item.Legible ∧ LegibleItems rest

def LegibleMembers : List (String × Json) → Prop
  | [] => True
  | (_, value) :: rest => value.Legible ∧ LegibleMembers rest

end

/-- Induction on a value through its items and members. -/
theorem induct {P : Json → Prop} (null : P .null) (flag : ∀ value, P (.flag value))
    (number : ∀ n, P (.number n)) (text : ∀ s, P (.text s))
    (list : ∀ items : List Json, (∀ item ∈ items, P item) → P (.list items))
    (record : ∀ members : List (String × Json), (∀ m ∈ members, P m.2) → P (.record members))
    (j : Json) : P j :=
  @Json.rec P (fun items => ∀ item ∈ items, P item) (fun members => ∀ m ∈ members, P m.2)
    (fun m => P m.2) null flag number text list record
    (by simp) (fun _ _ first later => by simpa using ⟨first, later⟩)
    (by simp) (fun _ _ first later => List.forall_mem_cons.2 ⟨first, later⟩)
    (fun _ _ value => value) j

theorem itemDrafts_eq_map (items : List Json) : itemDrafts items = items.map draft := by
  induction items with
  | nil => rfl
  | cons item rest ih => simp [itemDrafts, ih]

theorem memberDrafts_eq_map (members : List (String × Json)) :
    memberDrafts members = members.map fun m => (some m.1, m.2.draft) := by
  induction members with
  | nil => rfl
  | cons member rest ih => simp [memberDrafts, ih]

theorem legibleItems_iff {items : List Json} :
    LegibleItems items ↔ ∀ item ∈ items, item.Legible := by
  induction items with
  | nil => simp [LegibleItems]
  | cons item rest ih => simp [LegibleItems, ih]

theorem legibleMembers_iff {members : List (String × Json)} :
    LegibleMembers members ↔ ∀ m ∈ members, m.2.Legible := by
  induction members with
  | nil => simp [LegibleMembers]
  | cons member rest ih => simp [LegibleMembers, ih]

end Json

namespace Draft

open Json (chars itemsChars membersChars textChars)

theorem skipBlanks_cons {c : Char} (h : isBlank c = false) (cs : List Char) :
    skipBlanks (c :: cs) = c :: cs := by
  simp [skipBlanks, h]

theorem skipBlanks_break (style : Json.Style) (depth : Nat) (cs : List Char) :
    skipBlanks (style.break depth ++ cs) = skipBlanks cs := by
  cases style with
  | compact => rfl
  | indented =>
    have blanks : ∀ c ∈ '\n' :: List.replicate (2 * depth) ' ', isBlank c = true := by
      simp [isBlank]
    exact List.dropWhile_append_of_pos blanks

theorem terminates_break (style : Json.Style) (depth : Nat) {c : Char} (rest : List Char)
    (h : c = ',' ∨ c = ']' ∨ c = '\x7d') : Terminates (style.break depth ++ c :: rest) := by
  cases style <;> rcases h with rfl | rfl | rfl <;>
    simp [Terminates, Json.Style.break]

/-- The text of a value begins neither with a blank nor with the end of a list. -/
theorem head_of_chars (style : Json.Style) (depth : Nat) {j : Json} (h : j.Legible) :
    ∃ c cs, chars style depth j = c :: cs ∧ isBlank c = false ∧ c ≠ ']' := by
  cases j with
  | null => exact ⟨_, _, rfl, by decide, by decide⟩
  | flag value => cases value <;> exact ⟨_, _, rfl, by decide, by decide⟩
  | number n =>
    obtain ⟨c, cs, e, hc⟩ := head_of_scanNumber h
    refine ⟨c, cs, e, ?_, ?_⟩
    · simp only [isBlank]
      by_cases blank : c = ' ' ∨ c = '\n' ∨ c = '\t' ∨ c = '\r'
      · rcases blank with rfl | rfl | rfl | rfl <;> simp at hc
      · simp_all
    · rintro rfl
      simp at hc
  | text s => exact ⟨_, _, rfl, by decide, by decide⟩
  | list items => cases items <;> exact ⟨_, _, rfl, by decide, by decide⟩
  | record members =>
    rcases members with _ | ⟨⟨key, value⟩, rest⟩ <;> exact ⟨_, _, rfl, by decide, by decide⟩

/-! ## Scanning written values -/

/-- A value is scanned as its draft wherever it stands; the length of its text is fuel enough. -/
def Scans (style : Json.Style) (depth : Nat) (j : Json) : Prop :=
  ∀ (fuel : Nat) (rest : List Char), Terminates rest → (chars style depth j).length ≤ fuel →
    scanValue fuel (chars style depth j ++ rest) = (j.draft, some rest)

theorem scanValue_break (style : Json.Style) (depth fuel : Nat) (cs : List Char) :
    scanValue fuel (style.break depth ++ cs) = scanValue fuel cs := by
  cases fuel with
  | zero => rfl
  | succ fuel => simp only [scanValue, skipBlanks_break]

theorem scanItems_break (style : Json.Style) (depth fuel : Nat) (cs : List Char) :
    scanItems fuel (style.break depth ++ cs) = scanItems fuel cs := by
  cases fuel with
  | zero => rfl
  | succ fuel => simp only [scanItems, scanValue_break]

theorem scanMembers_break (style : Json.Style) (depth fuel : Nat) (cs : List Char) :
    scanMembers fuel (style.break depth ++ cs) = scanMembers fuel cs := by
  cases fuel with
  | zero => rfl
  | succ fuel => simp only [scanMembers, skipBlanks_break]

theorem scanItems_chars {style : Json.Style} {depth : Nat} (outer : Nat) {item : Json}
    {items : List Json}
    (h : ∀ j ∈ item :: items, Scans style depth j) (fuel : Nat) (rest : List Char)
    (hfuel : (chars style depth item ++ itemsChars style depth items).length < fuel) :
    scanItems fuel (chars style depth item ++ itemsChars style depth items ++
        (style.break outer ++ ']' :: rest)) =
      ((item.draft :: Json.itemDrafts items, none), some rest) := by
  -- On the items after the first: a comma costs one step, and it is part of the text that is left.
  induction items generalizing item fuel with
  | nil =>
    obtain ⟨fuel, rfl⟩ : ∃ f, fuel = f + 1 := ⟨fuel - 1, by omega⟩
    have first := h item List.mem_cons_self fuel _
      (terminates_break style outer rest (.inr (.inl rfl)))
      (by simp [itemsChars] at hfuel; omega)
    simp only [itemsChars, List.append_nil, scanItems, first, skipBlanks_break]
    rw [skipBlanks_cons (by decide)]
    rfl
  | cons next items ih =>
    obtain ⟨fuel, rfl⟩ : ∃ f, fuel = f + 1 := ⟨fuel - 1, by omega⟩
    simp only [itemsChars, List.length_append, List.length_cons] at hfuel
    have first := h item List.mem_cons_self fuel
      (',' :: (style.break depth ++ (chars style depth next ++ itemsChars style depth items ++
        (style.break outer ++ ']' :: rest))))
      (terminates_break .compact 0 _ (.inl rfl)) (by omega)
    have later := ih (fun j hj => h j (List.mem_cons_of_mem _ hj)) fuel
      (by simp only [List.length_append]; omega)
    simp only [itemsChars, List.append_assoc, List.cons_append] at first later ⊢
    simp only [scanItems, first]
    rw [skipBlanks_cons (by decide)]
    simp only [scanItems_break, later, Json.itemDrafts]

/-- A member is its key and its value, and the members after it. -/
theorem scanMembers_key (style : Json.Style) (fuel : Nat) (key : String) (cs : List Char) :
    scanMembers (fuel + 1) (textChars key ++ (style.afterKey ++ cs)) =
      match scanValue fuel cs with
      | (value, none) => (([(some key, value)], none), none)
      | (value, some rest) =>
        match skipBlanks rest with
        | ',' :: rest =>
          let ((members, stop), rest) := scanMembers fuel rest
          (((some key, value) :: members, stop), rest)
        | '\x7d' :: rest => (([(some key, value)], none), some rest)
        | rest => (([(some key, value)], some (separatorFault rest).break), none) := by
  have after : ∃ blanks, skipBlanks (style.afterKey ++ cs) = ':' :: (blanks ++ cs) ∧
      scanValue fuel (blanks ++ cs) = scanValue fuel cs := by
    cases style with
    | compact => exact ⟨[], rfl, rfl⟩
    | indented => exact ⟨[' '], rfl, by cases fuel <;> rfl⟩
  obtain ⟨blanks, colon, value⟩ := after
  simp only [scanMembers, textChars, List.cons_append, List.append_assoc]
  rw [skipBlanks_cons (by decide)]
  simp only [List.nil_append, scanText_textChars, colon]
  exact value ▸ rfl

theorem scanMembers_chars {style : Json.Style} {depth : Nat} (outer : Nat) {key : String}
    {value : Json}
    {members : List (String × Json)} (h : ∀ m ∈ (key, value) :: members, Scans style depth m.2)
    (fuel : Nat) (rest : List Char)
    (hfuel : (chars style depth value ++ membersChars style depth members).length < fuel) :
    scanMembers fuel (textChars key ++ style.afterKey ++ chars style depth value ++
        membersChars style depth members ++ (style.break outer ++ '\x7d' :: rest)) =
      (((some key, value.draft) :: Json.memberDrafts members, none), some rest) := by
  induction members generalizing key value fuel with
  | nil =>
    obtain ⟨fuel, rfl⟩ : ∃ f, fuel = f + 1 := ⟨fuel - 1, by omega⟩
    have here : Scans style depth value := h (key, value) List.mem_cons_self
    have first := here fuel _
      (terminates_break style outer rest (.inr (.inr rfl)))
      (by simp [membersChars] at hfuel; omega)
    simp only [scanMembers_key, membersChars, List.append_nil, List.append_assoc, first,
      skipBlanks_break]
    rw [skipBlanks_cons (by decide)]
    rfl
  | cons next members ih =>
    obtain ⟨fuel, rfl⟩ : ∃ f, fuel = f + 1 := ⟨fuel - 1, by omega⟩
    obtain ⟨nextKey, nextValue⟩ := next
    simp only [membersChars, List.length_append, List.length_cons] at hfuel
    have here : Scans style depth value := h (key, value) List.mem_cons_self
    have first := here fuel
      (',' :: (style.break depth ++ (textChars nextKey ++ style.afterKey ++
        chars style depth nextValue ++ membersChars style depth members ++
        (style.break outer ++ '\x7d' :: rest))))
      (terminates_break .compact 0 _ (.inl rfl)) (by omega)
    have later := ih (fun m hm => h m (List.mem_cons_of_mem _ hm)) fuel
      (by simp only [List.length_append]; omega)
    simp only [membersChars, List.append_assoc, List.cons_append] at first later ⊢
    simp only [scanMembers_key, first]
    rw [skipBlanks_cons (by decide)]
    simp only [scanMembers_break, later, Json.memberDrafts]

/-- The text of a value is not empty, so there is fuel for its first step. -/
theorem scans_of_succ {style : Json.Style} {depth : Nat} {j : Json} (h : j.Legible)
    (step : ∀ (fuel : Nat) (rest : List Char), Terminates rest →
      (chars style depth j).length ≤ fuel + 1 →
      scanValue (fuel + 1) (chars style depth j ++ rest) = (j.draft, some rest)) :
    Scans style depth j := by
  intro fuel rest hrest hfuel
  obtain ⟨c, cs, e, -⟩ := head_of_chars style depth h
  have positive : 0 < (chars style depth j).length := by simp [e]
  obtain ⟨fuel, rfl⟩ : ∃ f, fuel = f + 1 := ⟨fuel - 1, by omega⟩
  exact step fuel rest hrest hfuel

theorem scans_number {style : Json.Style} {depth : Nat} {n : Number} (h : (Json.number n).Legible) :
    Scans style depth (.number n) := by
  refine scans_of_succ h fun fuel rest hrest _ => ?_
  obtain ⟨c, cs, e, hc⟩ := head_of_scanNumber h
  obtain ⟨c', cs', e', blank, -⟩ := head_of_chars style depth h
  obtain ⟨rfl, rfl⟩ : c' = c ∧ cs' = cs := by simpa [chars, e] using e'.symm
  have numeral := scanNumber_append h hrest
  rw [e, List.cons_append] at numeral
  have other : c' ≠ '"' ∧ c' ≠ '[' ∧ c' ≠ '\x7b' ∧ c' ≠ 'n' ∧ c' ≠ 't' ∧ c' ≠ 'f' := by
    refine ⟨?_, ?_, ?_, ?_, ?_, ?_⟩ <;> rintro rfl <;> simp at hc
  simp only [chars, e, List.cons_append, scanValue]
  rw [skipBlanks_cons blank]
  simp [other, hc, numeral, Json.draft, e]

theorem scans_list {style : Json.Style} {depth : Nat} {items : List Json}
    (h : (Json.list items).Legible) (each : ∀ j ∈ items, Scans style (depth + 1) j) :
    Scans style depth (.list items) := by
  cases items with
  | nil =>
    refine scans_of_succ h fun fuel rest _ _ => ?_
    simp [chars, scanValue, skipBlanks, isBlank, Json.draft, Json.itemDrafts]
  | cons item items =>
    have legible := Json.legibleItems_iff.1 h item List.mem_cons_self
    refine scans_of_succ h fun fuel rest _ hfuel => ?_
    simp only [chars, List.length_append, List.length_cons] at hfuel
    have parts := scanItems_chars depth each fuel rest
      (by simp only [List.length_append]; omega)
    -- The first item tells a list with items from an empty one.
    obtain ⟨c, cs, e, blank, hc⟩ := head_of_chars style (depth + 1) legible
    simp only [chars, List.append_assoc, List.cons_append, List.nil_append, e] at parts ⊢
    simp only [scanValue]
    rw [skipBlanks_cons (by decide)]
    simp only [skipBlanks_break, skipBlanks_cons blank]
    simp [hc, parts, Json.draft, Json.itemDrafts]

theorem scans_record {style : Json.Style} {depth : Nat} {members : List (String × Json)}
    (h : (Json.record members).Legible) (each : ∀ m ∈ members, Scans style (depth + 1) m.2) :
    Scans style depth (.record members) := by
  cases members with
  | nil =>
    refine scans_of_succ h fun fuel rest _ _ => ?_
    simp [chars, scanValue, skipBlanks, isBlank, Json.draft, Json.memberDrafts]
  | cons member members =>
    obtain ⟨key, value⟩ := member
    refine scans_of_succ h fun fuel rest _ hfuel => ?_
    simp only [chars, List.length_append, List.length_cons] at hfuel
    have parts := scanMembers_chars depth each fuel rest
      (by simp only [List.length_append]; omega)
    simp only [chars, List.append_assoc, List.cons_append, List.nil_append] at parts ⊢
    simp only [scanValue]
    rw [skipBlanks_cons (by decide)]
    -- Only the quote that the first key begins with matters here.
    simp only [skipBlanks_break, textChars, List.cons_append] at parts ⊢
    rw [skipBlanks_cons (by decide)]
    generalize _ ++ (style.afterKey ++ _) = tail at parts ⊢
    simp [parts, Json.draft, Json.memberDrafts]

/-- The text of a legible value is scanned as its draft, in every style and at every depth. -/
theorem scanValue_chars (style : Json.Style) (depth : Nat) {j : Json} (h : j.Legible) :
    Scans style depth j := by
  induction j using Json.induct generalizing depth with
  | null =>
    refine scans_of_succ h fun fuel rest _ _ => ?_
    simp [chars, scanValue, skipBlanks, isBlank, scanWord, Json.draft]
  | flag value =>
    refine scans_of_succ h fun fuel rest _ _ => ?_
    cases value <;> simp [chars, scanValue, skipBlanks, isBlank, scanWord, Json.draft]
  | number n => exact scans_number h
  | text s =>
    refine scans_of_succ h fun fuel rest _ _ => ?_
    simp [chars, scanValue, skipBlanks, isBlank, Json.draft, textChars, scanText_textChars]
  | list items ih =>
    have legible := Json.legibleItems_iff.1 h
    exact scans_list h fun j hj => ih j hj (depth + 1) (legible j hj)
  | record members ih =>
    have legible := Json.legibleMembers_iff.1 h
    exact scans_record h fun m hm => ih m hm (depth + 1) (legible m hm)

/-- The whole text of a legible value is its draft. -/
theorem scan_chars (style : Json.Style) {j : Json} (h : j.Legible) :
    scan (j.chars style 0) = (j.draft, some []) := by
  have scanned := scanValue_chars style 0 h (2 * (j.chars style 0).length + 2) [] terminates_nil
    (by omega)
  rwa [List.append_nil] at scanned

end Draft

end CatalogReport
