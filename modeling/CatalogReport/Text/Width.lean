import CatalogReport.Text.WidthTable

/-!
# The terminal cells a line takes

`width` counts the cells of one line: marks take none, East Asian wide characters and emoji take
two, everything else, controls included, takes one. Some sequences are drawn as one and so take
fewer or more cells than their characters: characters with a variation selector, emoji with a skin
tone or joiners between them, and the ligatures of a few scripts. What a character takes depends on
what follows it, so a line is measured from its end to its start, and `Ahead` is what is remembered
of the characters already measured.
-/

namespace CatalogReport.Text

/-- The cells of a character that stands alone. -/
def charWidth (c : Char) : Nat :=
  let n := c.toNat
  if n < 0xA1 then 1
  else if n == 0x17D8 then 3
  else if zeroWidth.holds c then 0
  else if doubleWidth.holds c then 2
  else 1

/-- Whether the code point of `c` lies between `lo` and `hi`. -/
def within (lo hi : Nat) (c : Char) : Bool :=
  lo ≤ c.toNat && c.toNat ≤ hi

/-! ## Classes of characters -/

def isJoiner (c : Char) : Bool :=
  c.toNat == 0x200D

/-- The skin tone modifiers. -/
def isSkinTone (c : Char) : Bool :=
  within 0x1F3FB 0x1F3FF c

/-- The letters that make up flags in pairs. -/
def isFlagLetter (c : Char) : Bool :=
  within 0x1F1E6 0x1F1FF c

def isTagDigit (c : Char) : Bool :=
  within 0xE0030 0xE0039 c

def isTagLetter (c : Char) : Bool :=
  within 0xE0061 0xE007A c

/-- The quotation marks that a variation selector makes wide. -/
def isQuotationMark (c : Char) : Bool :=
  within 0x2018 0x2019 c || within 0x201C 0x201D c

/-- The marks that do not come between the parts of a ligature. -/
def isInvisibleMark (c : Char) : Bool :=
  c.toNat == 0x34F || within 0x17B4 0x17B5 c || within 0x180B 0x180D c || c.toNat == 0x180F ||
    isJoiner c || within 0xFE00 0xFE0F c || within 0xE0100 0xE01EF c

/-- The marks that an Arabic letter joins across. -/
def isTransparentMark (c : Char) : Bool :=
  charWidth c == 0 && !opaqueMark.holds c

/-- The Arabic letters shaped like lam. -/
def isLam (c : Char) : Bool :=
  c.toNat == 0x644 || within 0x6B5 0x6B8 c || c.toNat == 0x76A || c.toNat == 0x8A6 ||
    c.toNat == 0x8C7

/-- The Arabic letters shaped like alef. -/
def isAlef (c : Char) : Bool :=
  within 0x622 0x623 c || c.toNat == 0x625 || c.toNat == 0x627 || within 0x671 0x673 c ||
    c.toNat == 0x675 || within 0x773 0x774 c || within 0x870 0x882 c

/-- The Khmer letters that are written below the letter before them. -/
def isSubscriptKhmer (c : Char) : Bool :=
  within 0x1780 0x1782 c || within 0x1784 0x1787 c || within 0x1789 0x178C c ||
    within 0x178E 0x1793 c || within 0x1795 0x1798 c || within 0x179B 0x179D c ||
    c.toNat == 0x17A0 || c.toNat == 0x17A2 || c.toNat == 0x17A7 || within 0x17AB 0x17AC c ||
    c.toNat == 0x17AF

def isTifinagh (c : Char) : Bool :=
  within 0x2D31 0x2D65 c || c.toNat == 0x2D6F

/-! ## What lies ahead -/

/-- The end of a ligature, which the characters before it may complete. -/
inductive Ligature where
  /-- A Hebrew lamed. -/
  | lamed
  /-- A Buginese ya. -/
  | ya
  /-- The same with a joiner and the vowel i before it. -/
  | vowelYa
  /-- A Tifinagh consonant. -/
  | consonant
  /-- The same with the consonant joiner before it. -/
  | joinedConsonant
  /-- A Lisu tone letter that comes second. -/
  | tone
  /-- An Old Turkic letter orkhon i. -/
  | orkhonI
  /-- A Khmer letter that can be written below another. -/
  | subscript
  deriving DecidableEq, Repr

/-- What the characters that follow begin with, as far as it matters to the one before them. -/
inductive Follower where
  /-- Nothing of interest. -/
  | plain
  | skinTone
  /-- One letter of a flag. -/
  | flagLetter
  /-- Letters of flags. -/
  | flags
  | emoji
  /-- A joiner before an emoji. -/
  | joined
  /-- The frame of a key before a joiner and an emoji. -/
  | joinedKey
  /-- One letter of a flag before a joiner and an emoji. -/
  | joinedFlagLetter
  /-- Letters of flags before a joiner and an emoji. -/
  | joinedFlags (paired : Bool)
  /-- The end of a tag before a joiner and an emoji, and so many letters and then digits before
  it. -/
  | joinedTag (letters digits : Nat)
  /-- An Arabic alef. -/
  | alef
  | ligature (l : Ligature) (joined : Bool)
  /-- The Kirat Rai vowel sign e. -/
  | vowelE
  /-- The Kirat Rai vowel sign ai. -/
  | vowelAi
  deriving DecidableEq, Repr

/-- The variation selectors that change what a character takes. -/
inductive Selector where
  | text
  | emoji
  /-- The one that makes a quotation mark wide. -/
  | wide
  deriving DecidableEq, Repr

/-- What follows a character: a selector, and what stands behind it. -/
structure Ahead where
  follower : Follower := .plain
  selector : Option Selector := none
  deriving DecidableEq, Repr

namespace Follower

/-- Whether a selector leaves what follows it as it is. -/
def outlastsSelector : Follower → Bool
  | .alef | .ligature .. => true
  | _ => false

/-- Whether an emoji with a selector is drawn into what follows it. -/
def absorbsEmoji : Follower → Bool
  | .joined | .joinedKey => true
  | _ => false

/-- What is left of a follower when the character before its selector does not heed it. -/
def remaining (f : Follower) : Follower :=
  if f.outlastsSelector then f else .plain

/-- What a character is to the one before it. -/
def ofChar (c : Char) : Follower :=
  if c.toNat < 0xA1 then .plain
  else if c.toNat == 0x5DC then .ligature .lamed false
  else if isAlef c then .alef
  else if isSubscriptKhmer c then .ligature .subscript true
  else if c.toNat == 0x1A10 then .ligature .ya false
  else if isTifinagh c then .ligature .consonant false
  else if within 0xA4FC 0xA4FD c then .ligature .tone true
  else if c.toNat == 0x10C03 then .ligature .orkhonI false
  else if c.toNat == 0x16D67 then .vowelE
  else if c.toNat == 0x16D68 then .vowelAi
  else if isFlagLetter c then .flagLetter
  else if isSkinTone c then .skinTone
  else if emojiByDefault.holds c then .emoji
  else .plain

end Follower

/-! ## Measuring -/

/-- The cells that a character adds and what it leaves to the one before it, in a ligature. -/
def ligate (l : Ligature) (joined : Bool) (c : Char) : Option (Int × Follower) :=
  match l with
  | .lamed => if joined && c.toNat == 0x5D0 then some (0, .plain) else none
  | .ya => if joined && c.toNat == 0x1A17 then some (0, .ligature .vowelYa true) else none
  | .vowelYa => if c.toNat == 0x1A15 then some (0, .plain) else none
  | .consonant =>
    if c.toNat == 0x2D7F then some (1, .ligature .joinedConsonant true)
    else if joined && isTifinagh c then some (0, .plain)
    else none
  | .joinedConsonant => if isTifinagh c then some (-1, .plain) else none
  | .tone => if within 0xA4F8 0xA4FB c then some (0, .plain) else none
  | .orkhonI => if joined && c.toNat == 0x10C32 then some (0, .plain) else none
  | .subscript => if c.toNat == 0x17D2 then some (-1, .plain) else none

/-- The same before a joiner and an emoji. -/
def joinEmoji (c : Char) : Option (Int × Follower) :=
  if c.toNat == 0x20E3 then some (0, .joinedKey)
  else if isFlagLetter c then some (1, .joinedFlagLetter)
  else if isSkinTone c then some (0, .skinTone)
  else if c.toNat == 0xE007F then some (0, .joinedTag 0 0)
  else if emojiByDefault.holds c then some (0, .emoji)
  else none

/-- The same before a tag. A region is named by at least three letters, or by three digits and at
most four letters behind them; a black flag completes it. -/
def joinTag (letters digits : Nat) (c : Char) : Option (Int × Follower) :=
  if isTagLetter c && digits == 0 && letters < 6 then some (0, .joinedTag (letters + 1) 0)
  else if isTagDigit c && letters ≤ 4 && digits < 3 then some (0, .joinedTag letters (digits + 1))
  else if c.toNat == 0x1F3F4 && (digits == 3 || (digits == 0 && 3 ≤ letters)) then some (0, .emoji)
  else none

/-- The cells that a character adds and what it leaves to the one before it, where both depend on
what follows; nothing where the character is drawn as if it stood alone. -/
def combine (c : Char) (f : Follower) : Option (Int × Follower) :=
  match f with
  | .plain => none
  | .skinTone =>
    if emojiModifierBase.holds c then some (0, .emoji)
    else if isJoiner c then some (0, .joined)
    else none
  | .flagLetter => if isFlagLetter c then some (1, .flags) else none
  | .flags =>
    if isFlagLetter c then some (1, .flags) else if isJoiner c then some (0, .joined) else none
  | .emoji => if isJoiner c then some (0, .joined) else none
  | .joined => joinEmoji c
  | .joinedKey => none
  | .joinedFlagLetter => if isFlagLetter c then some (-1, .joinedFlags true) else none
  | .joinedFlags paired =>
    if isFlagLetter c then
      some (if paired then (3, .joinedFlags false) else (-1, .joinedFlags true))
    else if isJoiner c then some (0, .joined)
    else none
  | .joinedTag letters digits => joinTag letters digits c
  | .alef =>
    if isLam c then some (0, .plain) else if isTransparentMark c then some (0, .alef) else none
  | .ligature l joined =>
    if isJoiner c then some (0, .ligature l true)
    else if isInvisibleMark c then some (0, .ligature l joined)
    else ligate l joined c
  | .vowelE =>
    if c.toNat == 0x16D63 || c.toNat == 0x16D69 then some (0, .plain)
    else if c.toNat == 0x16D67 then some (0, .vowelAi)
    else if c.toNat == 0x16D68 then some (1, .vowelE)
    else none
  | .vowelAi => if c.toNat == 0x16D63 then some (0, .plain) else none

/-- The selector that a character is. -/
def Selector.ofChar? (c : Char) : Option Selector :=
  match c.toNat with
  | 0xFE01 => some .wide
  | 0xFE0E => some .text
  | 0xFE0F => some .emoji
  | _ => none

/-- The cells of a character whose look a selector decides. -/
def Selector.select (s : Selector) (f : Follower) (c : Char) : Option (Int × Follower) :=
  match s with
  | .emoji =>
    if emojiOnRequest.holds c then some (if f.absorbsEmoji then 0 else 2, .emoji) else none
  | .text => if textOnRequest.holds c then some (1, .plain) else none
  | .wide => if isQuotationMark c then some (2, .plain) else none

/-- What a selector leaves to the character before it. -/
def Ahead.behind (s : Selector) (f : Follower) : Ahead where
  follower := if f.outlastsSelector || (s = .emoji && f.absorbsEmoji) then f else .plain
  selector := some s

/-- The cells that a character adds, and what is ahead of the one before it. -/
def Ahead.step (c : Char) (a : Ahead) : Int × Ahead :=
  match a.selector.bind fun s => s.select a.follower c with
  | some (cells, f) => (cells, ⟨f, none⟩)
  | none =>
    let f := if a.selector.isSome then a.follower.remaining else a.follower
    match Selector.ofChar? c with
    | some s => (0, .behind s f)
    | none =>
      match if c.toNat < 0xA1 then none else combine c f with
      | some (cells, f) => (cells, ⟨f, none⟩)
      | none => (charWidth c, ⟨.ofChar c, none⟩)

/-- The cells of a line and what is ahead of a character before it. -/
def measure (line : List Char) : Int × Ahead :=
  line.foldr
    (fun c (cells, a) =>
      let (more, a) := a.step c
      (cells + more, a))
    (0, {})

/-- The terminal cells a line takes. -/
def width (line : List Char) : Nat :=
  (measure line).1.toNat

end CatalogReport.Text
