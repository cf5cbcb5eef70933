import SlotAsm.Text.CharClasses

/-!
How many columns a text takes when characters that are drawn as one are counted as one. A text is
read from its end, because what a character adds depends on what follows it: `Following` says what
that is. An emoji takes two columns together with its selector, its skin tone and the emoji joined
to it by `U+200D`; the ligatures of Arabic, Hebrew, Buginese, Tifinagh, Lisu, Old Turkic and Khmer
take what one letter takes. `clusterColumns` counts a text, and `placeAll_blank_cons` says that a
blank takes one column and that nothing after it matters to what is before it.
-/

namespace SlotAsm.Text

/-- The joiner `U+200D`, which draws the characters around it as one. -/
def joiner : Nat := 0x200D

/-- What follows a character, as far as the character's width depends on it. -/
inductive Following
  /-- Nothing that matters. -/
  | other
  /-- An emoji. -/
  | emoji
  /-- A skin tone. -/
  | skinTone
  /-- One of the letters that make up flags, in pairs. -/
  | flagLetter
  /-- At least two letters of flags. -/
  | flagLetters
  /-- A joiner and an emoji. -/
  | joined
  /-- The frame of a keycap, a joiner and an emoji. -/
  | joinedKeycap
  /-- One letter of a flag, a joiner and an emoji. -/
  | joinedFlagLetter
  /-- At least two letters of flags, an even number of them or not, a joiner and an emoji. -/
  | joinedFlagLetters (even : Bool)
  /-- The tag that ends the name of a region, a joiner and an emoji. -/
  | tagEnd
  /-- The given number of tag letters, from one to six, before the end tag. -/
  | tagLetters (count : Nat)
  /-- The given number of tag digits, from one to three, before tag letters or the end tag. -/
  | tagDigits (count : Nat)
  /-- An Arabic alef. -/
  | alef
  /-- A Hebrew lamed, with a joiner before it or not. -/
  | lamed (joined : Bool)
  /-- A Buginese ya, with a joiner before it or not. -/
  | ya (joined : Bool)
  /-- The Buginese vowel sign i, a joiner and ya. -/
  | vowelSignYa
  /-- A consonant of Tifinagh, with a joiner before it or not. -/
  | tifinagh (joined : Bool)
  /-- The joiner of Tifinagh and a consonant. -/
  | tifinaghJoiner
  /-- A tone letter of Lisu that closes a pair. -/
  | toneLetter
  /-- The Old Turkic letter i, with a joiner before it or not. -/
  | turkicI (joined : Bool)
  /-- A Khmer letter that can be put below another one. -/
  | khmerLetter
  deriving DecidableEq, Repr

namespace Following

/-- Whether marks without a column, the joiner among them, may stand before what follows without
breaking a ligature. -/
def allowsMarks : Following → Bool
  | lamed _ | ya _ | vowelSignYa | tifinagh _ | tifinaghJoiner | toneLetter | turkicI _
  | khmerLetter => true
  | _ => false

/-- Whether what follows is the later part of a ligature. -/
def isLigaturePart (following : Following) : Bool :=
  following = alef || following.allowsMarks

/-- Whether an emoji before what follows is drawn as one with it. -/
def isJoined (following : Following) : Bool :=
  following = joined || following = joinedKeycap

/-- What follows after a joiner is put before the later part of a ligature. -/
def withJoiner : Following → Following
  | lamed _ => lamed true
  | ya _ => ya true
  | tifinagh _ => tifinagh true
  | turkicI _ => turkicI true
  | following => following

/-- What a single character is to the character before it. -/
def ofCodePoint (n : Nat) : Following :=
  if n = 0x5DC then lamed false
  else if inRanges alefRanges n then alef
  else if inRanges khmerSubscriptRanges n then khmerLetter
  else if n = 0x1A10 then ya false
  else if inRanges tifinaghRanges n then tifinagh false
  else if n = 0xA4FC ∨ n = 0xA4FD then toneLetter
  else if n = 0x10C03 then turkicI false
  else if 0x1F1E6 ≤ n ∧ n ≤ 0x1F1FF then flagLetter
  else if 0x1F3FB ≤ n ∧ n ≤ 0x1F3FF then skinTone
  else if inRanges emojiRanges n then emoji
  else other

end Following

/-- The columns that a single character takes. -/
def codePointColumns (n : Nat) : Nat :=
  if n ≤ 0xA0 then 1
  else if n = 0x17D8 then 3
  else if 0x1F3FB ≤ n ∧ n ≤ 0x1F3FF then 2
  else if inRanges zeroWidthRanges n then 0
  else if inRanges wideRanges n then 2
  else if inRanges emojiRanges n then 2
  else 1

/-- The columns that a character adds as the earlier part of a ligature with what follows, and what
it is to the character before it. -/
def ligature? (n : Nat) : Following → Option (Int × Following)
  | .alef =>
    if inRanges lamRanges n then some (0, .other)
    else if codePointColumns n = 0 ∧ !inRanges ligatureBreakRanges n then some (0, .alef)
    else none
  | .lamed true => if n = 0x5D0 then some (0, .other) else none
  | .ya true => if n = 0x1A17 then some (0, .vowelSignYa) else none
  | .vowelSignYa => if n = 0x1A15 then some (0, .other) else none
  | .tifinagh joined =>
    if n = 0x2D7F then some (1, .tifinaghJoiner)
    else if joined ∧ inRanges tifinaghRanges n then some (0, .other)
    else none
  | .tifinaghJoiner => if inRanges tifinaghRanges n then some (-1, .other) else none
  | .toneLetter => if 0xA4F8 ≤ n ∧ n ≤ 0xA4FB then some (0, .other) else none
  | .turkicI true => if n = 0x10C32 then some (0, .other) else none
  | .khmerLetter => if n = 0x17D2 then some (-1, .other) else none
  | _ => none

/-- The columns that a letter of a flag adds before what follows, if that makes a difference to it
or to the characters before it. -/
def flagLetter? : Following → Option (Int × Following)
  | .flagLetter | .flagLetters => some (1, .flagLetters)
  | .joined => some (1, .joinedFlagLetter)
  | .joinedFlagLetter | .joinedFlagLetters false => some (-1, .joinedFlagLetters true)
  | .joinedFlagLetters true => some (3, .joinedFlagLetters false)
  | _ => none

/-- What a tag is before what follows, if the tags may name the region of a flag. -/
def tag? (n : Nat) : Following → Option Following
  | .joined => if n = 0xE007F then some .tagEnd else none
  | .tagEnd =>
    if 0xE0061 ≤ n ∧ n ≤ 0xE007A then some (.tagLetters 1)
    else if 0xE0030 ≤ n ∧ n ≤ 0xE0039 then some (.tagDigits 1)
    else none
  | .tagLetters count =>
    if 0xE0061 ≤ n ∧ n ≤ 0xE007A ∧ count < 6 then some (.tagLetters (count + 1))
    else if 0xE0030 ≤ n ∧ n ≤ 0xE0039 ∧ count < 5 then some (.tagDigits 1)
    else if n = 0x1F3F4 ∧ 3 ≤ count then some .emoji
    else none
  | .tagDigits count =>
    if 0xE0030 ≤ n ∧ n ≤ 0xE0039 ∧ count < 3 then some (.tagDigits (count + 1))
    else if n = 0x1F3F4 ∧ count = 3 then some .emoji
    else none
  | _ => none

/-- The columns that a character adds as the earlier part of an emoji with what follows, and what it
is to the character before it. -/
def emojiPart? (n : Nat) (following : Following) : Option (Int × Following) :=
  if 0x1F1E6 ≤ n ∧ n ≤ 0x1F1FF then
    flagLetter? following
  else
    match following with
    | .skinTone =>
      if inRanges skinToneBaseRanges n then some (0, .emoji)
      else if n = joiner then some (0, .joined)
      else none
    | .emoji | .flagLetters | .joinedFlagLetters _ =>
      if n = joiner then some (0, .joined) else none
    | .joined =>
      if n = 0x20E3 then some (0, .joinedKeycap)
      else if 0x1F3FB ≤ n ∧ n ≤ 0x1F3FF then some (0, .skinTone)
      else if inRanges emojiRanges n then some (0, .emoji)
      else (tag? n following).map fun after => (0, after)
    | _ => (tag? n following).map fun after => (0, after)

/-- The style that a selector asks of the character before it. -/
inductive Style
  | unspecified
  | text
  | emoji
  deriving DecidableEq, Repr

/-- What is after a place in a text: what follows, and the style selector directly before that. -/
structure Context where
  following : Following
  style : Style
  deriving DecidableEq, Repr

namespace Context

/-- The end of a text. -/
def start : Context := ⟨.other, .unspecified⟩

/-- What follows a character that the style selector does not act on. The selector hides what
follows it, except the later part of a ligature. -/
def unstyled (context : Context) : Following :=
  if context.style = .unspecified ∨ context.following.isLigaturePart then context.following
  else .other

/-- The context before the selector `U+FE0F`. -/
def withEmojiStyle (following : Following) : Context :=
  if following.isLigaturePart ∨ following.isJoined then ⟨following, .emoji⟩ else ⟨.other, .emoji⟩

/-- The context before the selector `U+FE0E`. -/
def withTextStyle (following : Following) : Context :=
  if following.isLigaturePart then ⟨following, .text⟩ else ⟨.other, .text⟩

end Context

/-- The columns that a character adds when no selector acts on it, and the context before it. -/
def placeUnstyled (n : Nat) (following : Following) : Int × Context :=
  if n = 0xFE0F then (0, Context.withEmojiStyle following)
  else if n = 0xFE0E then (0, Context.withTextStyle following)
  else if following.allowsMarks ∧ n = joiner then (0, ⟨following.withJoiner, .unspecified⟩)
  else if following.allowsMarks ∧ inRanges ligatureMarkRanges n then (0, ⟨following, .unspecified⟩)
  else
    match (ligature? n following).or (emojiPart? n following) with
    | some (columns, before) => (columns, ⟨before, .unspecified⟩)
    | none => (codePointColumns n, ⟨Following.ofCodePoint n, .unspecified⟩)

/-- The columns that a character adds before a context, and the context before the character. -/
def place (c : Char) (context : Context) : Int × Context :=
  if context.style = .emoji ∧ inRanges emojiStyleRanges c.toNat then
    (if context.following.isJoined then 0 else 2, ⟨.emoji, .unspecified⟩)
  else if c.toNat ≤ 0xA0 then
    (1, .start)
  else if context.style = .text ∧ inRanges textStyleRanges c.toNat then
    (1, .start)
  else
    placeUnstyled c.toNat context.unstyled

/-- The columns of a text and the context before it. -/
def placeAll : List Char → Int × Context
  | [] => (0, .start)
  | c :: rest =>
    let (columns, context) := placeAll rest
    let (added, before) := place c context
    (columns + added, before)

/-- The columns that a text takes. -/
def clusterColumns (text : List Char) : Nat :=
  (placeAll text).1.toNat

/-- A character up to `U+00A0` that can be no emoji takes one column and separates what is before it
from what is after it. -/
theorem place_of_le {c : Char} (low : c.toNat ≤ 0xA0)
    (notEmoji : inRanges emojiStyleRanges c.toNat = false) (context : Context) :
    place c context = (1, .start) := by
  simp [place, low, notEmoji]

/-- A blank of ASCII takes one column and separates what is before it from what is after it. -/
theorem placeAll_blank_cons (rest : List Char) :
    placeAll (' ' :: rest) = ((placeAll rest).1 + 1, .start) := by
  simp only [placeAll]
  rw [place_of_le (by decide) (by decide)]

end SlotAsm.Text
