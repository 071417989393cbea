/-
How many columns a text takes.

Mostly each character takes its own columns. Some characters that stand together take fewer:
pictures that are joined into one, a picture and its skin tone, and letters that are drawn as one. A
selector says whether the character before it is shown as a picture or as plain text. A text is read
from its end, and `Following` keeps of what has been read as much as bears on the character in front
of it.
-/
import PageScript.Text.Columns

namespace PageScript.Text

-- ======== following

/-- What follows a place in a text. -/
inductive Context where
  | nothing
  | lineFeed
  | tone
  | flagLetter
  | flagLetters
  | picture
  /-- A joiner and a picture. -/
  | joinedPicture
  /-- A keycap, a joiner and a picture. -/
  | joinedKeycap
  /-- Letters of flags, a joiner and a picture; `even` says that the letters make whole flags. -/
  | joinedFlag (even : Bool)
  /-- The last tags of a flag, a joiner and a picture. -/
  | joinedTags (letters digits : Nat)
  /-- An Arabic alef. -/
  | alef
  /-- A Hebrew lamed. -/
  | lamed (joined : Bool)
  /-- A Buginese ya. -/
  | ya (joined : Bool)
  /-- A Buginese vowel sign i, a joiner and a ya. -/
  | vowelYa
  /-- A Tifinagh consonant. -/
  | consonant (joined : Bool)
  /-- The Tifinagh joiner of consonants and a consonant. -/
  | linkedConsonant
  /-- A Lisu tone that joins one before it. -/
  | tail
  /-- An Orkhon i. -/
  | orkhon (joined : Bool)
  /-- A Khmer letter that can be written below another one. -/
  | subscript
  /-- A Kirat Rai vowel sign e. -/
  | vowelE
  /-- A Kirat Rai vowel sign ai. -/
  | vowelAi
  deriving Repr, DecidableEq, Inhabited

/-- What a selector asks for. -/
inductive Selector where
  | picture
  | text
  /-- Punctuation as wide as an ideograph. -/
  | broad
  deriving Repr, DecidableEq, Inhabited

/-- What follows a place in a text, and what the selectors that stand directly there ask for. -/
structure Following where
  context : Context := .nothing
  picture : Bool := false
  text : Bool := false
  broad : Bool := false
  deriving Repr, DecidableEq, Inhabited

namespace Context

/-- Whether letters are drawn as one here even with selectors between them. -/
def isLigature : Context → Bool
  | .alef | .lamed _ | .ya _ | .vowelYa | .consonant _ | .linkedConsonant | .tail | .orkhon _
  | .subscript => true
  | _ => false

/-- Whether letters are drawn as one here even with marks between them that do not show. -/
def isTransparent : Context → Bool
  | .lamed _ | .ya _ | .vowelYa | .consonant _ | .linkedConsonant | .tail | .orkhon _
  | .subscript => true
  | _ => false

/-- Whether a joiner and a picture follow, with nothing else in front but a keycap. -/
def isJoined : Context → Bool
  | .joinedPicture | .joinedKeycap => true
  | _ => false

def join : Context → Context
  | .lamed _ => .lamed true
  | .ya _ => .ya true
  | .consonant _ => .consonant true
  | .orkhon _ => .orkhon true
  | context => context

end Context

namespace Following

/-- What follows in front of a selector. Letters that are drawn as one keep together over it, and
so do pictures over a selector of pictures. -/
def select (next : Following) (selector : Selector) : Following :=
  let kept := if next.context.isLigature then next else {}
  match selector with
  | .picture =>
    { kept with
      context := if next.context.isJoined then next.context else kept.context, picture := true }
  | .text => { kept with text := true }
  | .broad => { kept with broad := true }

/-- What follows, when a selector of pictures has nothing to select. -/
def unselect (next : Following) : Following :=
  if next.context.isLigature then { next with picture := false } else {}

end Following

-- ======== characters

def inRanges (ranges : List (Nat × Nat)) (n : Nat) : Bool :=
  ranges.any fun r => r.1 ≤ n && n ≤ r.2

/-- Whether a character can be written below another one in Khmer. -/
def isSubscript (n : Nat) : Bool :=
  inRanges [(0x1780, 0x1782), (0x1784, 0x1787), (0x1789, 0x178C), (0x178E, 0x1793),
    (0x1795, 0x1798), (0x179B, 0x179D), (0x17A0, 0x17A0), (0x17A2, 0x17A2), (0x17A7, 0x17A7),
    (0x17AB, 0x17AC), (0x17AF, 0x17AF)] n

def isAlef (n : Nat) : Bool :=
  inRanges [(0x622, 0x623), (0x625, 0x625), (0x627, 0x627), (0x671, 0x673), (0x675, 0x675),
    (0x773, 0x774), (0x870, 0x882)] n

def isLam (n : Nat) : Bool :=
  inRanges [(0x644, 0x644), (0x6B5, 0x6B8), (0x76A, 0x76A), (0x8A6, 0x8A6), (0x8C7, 0x8C7)] n

def isConsonant (n : Nat) : Bool :=
  inRanges [(0x2D31, 0x2D65), (0x2D6F, 0x2D6F)] n

/-- Whether a character is a quotation mark that a selector can make broad or slim. -/
def isQuotation (n : Nat) : Bool :=
  inRanges [(0x2018, 0x2019), (0x201C, 0x201D)] n

def isInvisibleMark (n : Nat) : Bool :=
  inRanges [(0x34F, 0x34F), (0x17B4, 0x17B5), (0x180B, 0x180D), (0x180F, 0x180F),
    (0x200D, 0x200D), (0xFE00, 0xFE0F), (0xE0100, 0xE01EF)] n

def contextOf (c : Char) : Context :=
  let n := c.toNat
  if n = 0x0A then .lineFeed
  else if n = 0x5DC then .lamed false
  else if isAlef n then .alef
  else if isSubscript n then .subscript
  else if n = 0x1A10 then .ya false
  else if isConsonant n then .consonant false
  else if n = 0xA4FC ∨ n = 0xA4FD then .tail
  else if n = 0x10C03 then .orkhon false
  else if n = 0x16D67 then .vowelE
  else if n = 0x16D68 then .vowelAi
  else if isFlagLetter c then .flagLetter
  else if isTone c then .tone
  else if isPicture c then .picture
  else .nothing

def selectorOf? (n : Nat) : Option Selector :=
  if n = 0xFE0F then some .picture
  else if n = 0xFE0E then some .text
  else if n = 0xFE01 then some .broad
  else none

-- ======== steps

/-- The columns of a picture that belongs to a larger one, as far as it does. -/
def pictureStep? (c : Char) : Context → Option (Int × Context)
  | .tone =>
    if takesTone c then some (0, .picture) else joiner
  | .flagLetter => if isFlagLetter c then some (1, .flagLetters) else none
  | .flagLetters => if isFlagLetter c then some (1, .flagLetters) else joiner
  | .picture => joiner
  | .joinedPicture =>
    if c.toNat = 0x20E3 then some (0, .joinedKeycap)
    else if isFlagLetter c then some (1, .joinedFlag false)
    else if isTone c then some (0, .tone)
    else if c.toNat = 0xE007F then some (0, .joinedTags 0 0)
    else if isPicture c then some (0, .picture)
    else none
  | .joinedFlag false => if isFlagLetter c then some (-1, .joinedFlag true) else none
  | .joinedFlag true => if isFlagLetter c then some (3, .joinedFlag false) else joiner
  | .joinedTags letters digits =>
    if 0xE0061 ≤ c.toNat ∧ c.toNat ≤ 0xE007A ∧ digits = 0 ∧ letters < 6 then
      some (0, .joinedTags (letters + 1) 0)
    else if 0xE0030 ≤ c.toNat ∧ c.toNat ≤ 0xE0039 ∧ letters ≤ 4 ∧ digits < 3 then
      some (0, .joinedTags letters (digits + 1))
    else if c.toNat = 0x1F3F4 ∧ (digits = 3 ∨ (digits = 0 ∧ 3 ≤ letters)) then some (0, .picture)
    else none
  | _ => none
where
  /-- A joiner in front of a picture. -/
  joiner : Option (Int × Context) :=
    if c.toNat = 0x200D then some (0, .joinedPicture) else none

/-- The columns of a letter that is drawn as one with what follows, as far as it is. -/
def letterStep? (c : Char) (context : Context) : Option (Int × Context) :=
  let n := c.toNat
  match context with
  | .alef =>
    if isLam n then some (0, .nothing) else if isLinking c then some (0, .alef) else none
  | .lamed true => if n = 0x5D0 then some (0, .nothing) else none
  | .subscript => if n = 0x17D2 then some (-1, .nothing) else none
  | .ya true => if n = 0x1A17 then some (0, .vowelYa) else none
  | .vowelYa => if n = 0x1A15 then some (0, .nothing) else none
  | .consonant joined =>
    if n = 0x2D7F then some (1, .linkedConsonant)
    else if joined ∧ isConsonant n then some (0, .nothing)
    else none
  | .linkedConsonant => if isConsonant n then some (-1, .nothing) else none
  | .tail => if 0xA4F8 ≤ n ∧ n ≤ 0xA4FB then some (0, .nothing) else none
  | .orkhon true => if n = 0x10C32 then some (0, .nothing) else none
  | .vowelE =>
    if n = 0x16D63 ∨ n = 0x16D69 then some (0, .nothing)
    else if n = 0x16D67 then some (0, .vowelAi)
    else if n = 0x16D68 then some (1, .vowelE)
    else none
  | .vowelAi => if n = 0x16D63 then some (0, .nothing) else none
  | _ => none

def unselectedStep (c : Char) (context : Context) : Int × Following :=
  let n := c.toNat
  if context = .lineFeed ∧ n = 0x0D then (0, {})
  else if n ≤ 0xA0 then (1, { context := contextOf c })
  else if context.isTransparent ∧ isInvisibleMark n then
    (0, { context := if n = 0x200D then context.join else context })
  else
    match letterStep? c context <|> pictureStep? c context with
    | some (width, context) => (width, { context })
    | none => (columns c, { context := contextOf c })

/-- How many columns a character adds to what follows it, and what follows the place in front of
it. The number is negative where characters drawn as one would else count twice. -/
def step (c : Char) (next : Following) : Int × Following :=
  let n := c.toNat
  if next.picture ∧ isSelectable c then
    (if next.context.isJoined then 0 else 2, { context := .picture })
  else
    let next := if next.picture then next.unselect else next
    match selectorOf? n with
    | some selector => (0, next.select selector)
    | none =>
      if next.text ∧ isSelectable c ∧ isPicture c ∧ !(0x1F200 ≤ n && n ≤ 0x1F2FF) then (1, {})
      else if next.broad ∧ isQuotation n then (2, {})
      else unselectedStep c next.context

def width (s : String) : Nat :=
  (s.toList.foldr
    (fun c (total, next) =>
      let (added, next) := step c next
      (total + added, next))
    ((0 : Int), ({} : Following))).1.toNat

end PageScript.Text
