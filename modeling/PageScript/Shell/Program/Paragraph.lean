/-
Paragraphs filled anew: `fmt`.

A paragraph is a run of lines with the same indentation. Its words are set into lines of about equal
length: every way to break it has a cost, which grows with the square of what lines lack to the
length aimed at and of how much neighbouring lines differ, and the cheapest way is taken. It is
better to break behind the end of a sentence, and worse close to it.
-/
import PageScript.Shell.Program.Basic

namespace PageScript.Shell.Program

-- ======== words

/-- A word of a paragraph. -/
structure FillWord where
  text : List Char
  /-- The blanks behind it. -/
  space : Nat
  /-- Whether it starts with an opening mark. -/
  opens : Bool
  /-- Whether it ends like a sentence. -/
  period : Bool
  /-- Whether it ends with a mark of punctuation. -/
  punctuated : Bool
  /-- Whether a sentence ends behind it. -/
  final : Bool
  deriving Repr, DecidableEq, Inhabited

def isPunctuation (c : Char) : Bool :=
  '!' ≤ c && c ≤ '~' && !c.isAlphanum

def FillWord.ofChars (text : List Char) : FillWord :=
  let back := text.reverse
  let core := match back.dropWhile fun c => ")]'\"".toList.contains c with
    | [] => text.take 1
    | core => core
  { text, space := 0, final := false
    opens := "(['\x60\"".toList.contains (text.headD 'x')
    period := ".?!".toList.contains (core.headD 'x')
    punctuated := isPunctuation (back.headD 'x') }

def columnAfter (column : Nat) (c : Char) : Nat :=
  if c = '\t' then (column / 8 + 1) * 8 else column + 1

def isSpacing (c : Char) : Bool :=
  c = ' ' || c = '\t'

def endsWord (c : Char) : Bool :=
  isSpacing c || c = '\x0B' || c = '\x0C' || c = '\r'

/-- The words of a line from a column on; each takes one of `fuel`. `last` says that the text ends
with the line. A control character between words starts a word of its own. -/
def fillWords (uniform last : Bool) : (fuel : Nat) → (column : Nat) → List Char → List FillWord
  | 0, _, _ => []
  | _, _, [] => []
  | fuel + 1, column, c :: rest =>
    let more := rest.takeWhile fun d => !endsWord d
    let word := FillWord.ofChars (c :: more)
    let behind := rest.drop more.length
    let gap := behind.takeWhile isSpacing
    let start := column + 1 + more.length
    let column := gap.foldl columnAfter start
    let next := behind.drop gap.length
    let atEnd := next.isEmpty
    let final := (atEnd && last) || (word.period && (atEnd || column - start > 1))
    let space := if atEnd || uniform then (if final then 2 else 1) else column - start
    { word with final, space } :: fillWords uniform last fuel column next

-- ======== lines

/-- What lines have in front of them that are filled. -/
structure Lead where
  blanks : Nat := 0
  text : List Char := []
  /-- The length of the text with the blanks at its end. -/
  full : Nat := 0
  deriving Repr, DecidableEq, Inhabited

def Lead.ofText (text : String) : Lead :=
  let cs := text.toList
  let bare := cs.dropWhile (· = ' ')
  { blanks := cs.length - bare.length
    text := (bare.reverse.dropWhile (· = ' ')).reverse
    full := bare.length }

/-- A line behind its lead. -/
structure FillLine where
  /-- The column where the lead starts. -/
  start : Nat := 0
  /-- The column where the rest starts. -/
  column : Nat := 0
  rest : List Char := []
  /-- Whether the text ends with this line. -/
  last : Bool := true
  /-- Whether a tab stands in front of the rest. -/
  tabbed : Bool := false
  deriving Repr, DecidableEq, Inhabited

def agreeing : List Char → List Char → Nat
  | a :: as, b :: bs => if a = b then agreeing as bs + 1 else 0
  | _, _ => 0

def Lead.read (lead : Lead) (line : List Char) (last : Bool) : FillLine :=
  let gap := line.takeWhile isSpacing
  let column := gap.foldl columnAfter 0
  let rest := line.drop gap.length
  let tabbed := gap.contains '\t'
  if lead.text.isEmpty then { start := min lead.blanks column, column, rest, last, tabbed }
  else
    let n := agreeing lead.text rest
    if n < lead.text.length then
      { start := column, column := column + n, rest := rest.drop n, last, tabbed }
    else
      let rest := rest.drop n
      let gap' := rest.takeWhile isSpacing
      { start := column, column := gap'.foldl columnAfter (column + n)
        rest := rest.drop gap'.length
        last, tabbed := tabbed || gap'.contains '\t' }

/-- The lines of a text; the last one ends with the text, and can be empty. -/
def Lead.lines (lead : Lead) (bytes : Stream) : List FillLine :=
  let read (line : Stream) : FillLine :=
    let bare := bareLine line
    lead.read (toChars bare) (bare.length = line.length)
  let lines := (linesOf bytes).map read
  if (lines.getLast?.map FillLine.last).getD false then lines else lines ++ [({} : FillLine)]

def Lead.fills (lead : Lead) (line : FillLine) : Bool :=
  !line.rest.isEmpty && lead.blanks ≤ line.start && line.start + lead.full ≤ line.column

-- ======== filling

/-- What filling is to aim at. -/
structure Filling where
  width : Nat := 75
  goal : Nat := 70
  lead : Lead := {}
  /-- Whether the second line says how the others are indented. -/
  crown : Bool := false
  /-- Whether the first line has an indentation of its own. -/
  tagged : Bool := false
  /-- Whether lines are only broken and never joined. -/
  splits : Bool := false
  uniform : Bool := false

def shortCost (n : Int) : Int :=
  (n * 10) * (n * 10)

def raggedCost (n : Int) : Int :=
  shortCost n / 2

/-- What it costs to break in front of a word, whatever the length of the line, by the two words
before it. -/
def breakCost (before : Option FillWord) (previous : Option FillWord) (word : FillWord) : Int :=
  let behind : Int := match previous with
    | none => 0
    | some p =>
      if p.period then (if p.final then -2500 else 360000)
      else if p.punctuated then -1600
      else if (before.map FillWord.final).getD false then 40000 / ((p.text.length : Int) + 2)
      else 0
  let ahead : Int :=
    if word.opens then -1600 else if word.final then 22500 / ((word.text.length : Int) + 2) else 0
  4900 + behind + ahead

/-- The best way to go on from a word: what it costs, how long the line is, how many words are in
it, and whether it is the last one. -/
structure BestLine where
  cost : Int
  length : Nat
  count : Nat
  last : Bool
  deriving Repr, DecidableEq, Inhabited

def BestLine.better (best : Option BestLine) (other : BestLine) : Option BestLine :=
  match best with
  | some b => if other.cost < b.cost then some other else some b
  | none => some other

/-- The best line by the words that follow and their own best lines. The line has so far `length`
and `count` words, and `space` stands behind the last one. -/
def bestLine (f : Filling) (length space count : Nat) (best : Option BestLine) :
    List (FillWord × BestLine) → Option BestLine
  | [] => BestLine.better best { cost := 0, length, count, last := true }
  | (word, after) :: rest =>
    let ragged : Int :=
      if after.last then 0 else raggedCost ((length : Int) - after.length)
    let cost := shortCost ((f.goal : Int) - length) + ragged + after.cost
    let best := BestLine.better best { cost, length, count, last := false }
    let length := length + space + word.text.length
    if length < f.width then bestLine f length word.space (count + 1) best rest else best

/-- The words of a paragraph, each with its best line, by the two words before them. -/
def bestLines (f : Filling) (first other : Nat) (before previous : Option FillWord) :
    List FillWord → List (FillWord × BestLine)
  | [] => []
  | word :: rest =>
    let after := bestLines f first other previous (some word) rest
    let indent := if previous.isNone then first else other
    let best := (bestLine f (indent + word.text.length) word.space 1 none after).getD default
    (word, { best with cost := best.cost + breakCost before previous word }) :: after

def gapText (tabs : Bool) (start stop : Nat) : List Char :=
  let target := stop / 8 * 8
  if tabs && start + 1 < target then
    List.replicate (target / 8 - start / 8) '\t' ++ List.replicate (stop - target) ' '
  else List.replicate (stop - start) ' '

def lineText (tabs : Bool) (column : Nat) : List FillWord → List Char
  | [] => []
  | [word] => word.text
  | word :: rest =>
    let behind := column + word.text.length
    word.text ++ gapText tabs behind (behind + word.space) ++
      lineText tabs (behind + word.space) rest

/-- The lines of a paragraph whose words have their best lines; each line takes one of `fuel`. -/
def paragraphText (f : Filling) (tabs : Bool) (start : Nat) :
    (fuel : Nat) → (indent other : Nat) → List (FillWord × BestLine) → List Char
  | 0, _, _, _ => []
  | _, _, _, [] => []
  | fuel + 1, indent, other, (word, best) :: rest =>
    let words := word :: (rest.take (best.count - 1)).map Prod.fst
    let behind := start + f.lead.text.length
    gapText tabs 0 start ++ f.lead.text ++ gapText tabs behind indent ++
      lineText tabs (max behind indent) words ++ '\n' ::
      paragraphText f tabs start fuel other other (rest.drop (best.count - 1))

def copiedLine (f : Filling) (tabs : Bool) (line : FillLine) : List Char :=
  let front :=
    if line.column > line.start || !line.rest.isEmpty then
      let shown := f.lead.text.take (line.column - line.start)
      let behind := line.start + shown.length
      gapText tabs 0 line.start ++ shown ++
        (if line.rest.isEmpty then
          if line.last && line.start + f.lead.text.length ≤ line.column then ['\n'] else []
        else gapText tabs behind line.column)
    else []
  front ++ line.rest ++ (if line.last then [] else ['\n'])

/-- The indentation of all lines of a paragraph but the first, by the line behind the first, if it
belongs to the same paragraph, and by that of the paragraph before. -/
def otherIndent (f : Filling) (first previous : Nat) (second : Option Nat) : Nat :=
  if f.splits then first
  else if f.crown then second.getD first
  else if f.tagged then
    match second with
    | some column => if column ≠ first then column else single
    | none => single
  else first
where
  /-- The indentation if there is only one line. -/
  single : Nat :=
    if previous = first then (if first = 0 then 3 else 0) else previous

def followers (f : Filling) (first : FillLine) (other : Nat) (lines : List FillLine) : Nat :=
  let same (line : FillLine) : Bool := line.start = first.start && f.lead.fills line
  let alike := (lines.takeWhile fun l => same l && l.column = other).length
  match lines with
  | [] => 0
  | second :: rest =>
    let beyond := 1 + (rest.takeWhile fun l => same l && l.column = other).length
    if f.splits then 0
    else if f.crown then if same second then beyond else 0
    else if f.tagged then if same second && second.column ≠ first.column then beyond else 0
    else alike

def endSentence : List FillWord → List FillWord
  | [] => []
  | [word] => [{ word with period := true, final := true }]
  | word :: rest => word :: endSentence rest

/-- Fills the paragraphs of lines; each line takes one of `fuel`. `tabs` says whether a tab has been
read, and `previous` how the paragraph before is indented. -/
def fillLines (f : Filling) :
    (fuel : Nat) → (tabs : Bool) → (previous : Nat) → List FillLine → List Char
  | 0, _, _, _ => []
  | _, _, _, [] => []
  | fuel + 1, tabs, previous, line :: rest =>
    let tabs := tabs || line.tabbed
    if f.lead.fills line then
      let same (l : FillLine) : Bool := l.start = line.start && f.lead.fills l
      let second := (rest.head?.filter same).map FillLine.column
      let other := otherIndent f line.column previous second
      let n := followers f line other rest
      let used := line :: rest.take n
      let words := endSentence (used.flatMap fun l =>
        fillWords f.uniform l.last (l.rest.length + 1) l.column l.rest)
      let tabs := tabs || (used.any fun l => l.rest.contains '\t') ||
        ((rest.take (n + 1)).any FillLine.tabbed)
      let best := bestLines f line.column other none none words
      paragraphText f tabs line.start words.length line.column other best ++
        fillLines f fuel tabs other (rest.drop n)
    else copiedLine f tabs line ++ fillLines f fuel tabs previous rest

-- ======== program

/-- Arguments in which a width behind a dash that comes first is the value of an option. -/
def fillArgs : List String → List String :=
  expandCount 'w'

def fmt (call : Call) : Effect :=
  { call with args := fillArgs call.args }.withOptions 1
    { flags := "cstu".toList, valued := "wgp".toList
      long := [("crown-margin", 'c'), ("goal", 'g'), ("prefix", 'p'), ("split-only", 's'),
        ("tagged-paragraph", 't'), ("uniform-spacing", 'u'), ("width", 'w')] }
    fun o =>
      let badWidth? (limit : Nat) (text : Option String) : Option String :=
        text.bind fun t =>
          match decimal? t with
          | some n =>
            if n ≤ limit then none
            else some ("invalid width: " ++ quoted t ++ ": Numerical result out of range")
          | none => some ("invalid width: " ++ quoted t)
      let asked := (o.value? 'w').bind decimal?
      let width := asked.getD 75
      let wanted := (o.value? 'g').bind decimal?
      match badWidth? 2500 (o.value? 'w'), badWidth? width (o.value? 'g') with
      | some text, _ | none, some text => .complaining call 1 text
      | none, none =>
        let filling : Filling :=
          { width := if asked.isNone then (wanted.map (· + 10)).getD width else width
            goal := wanted.getD (width * 187 / 200)
            lead := ((o.value? 'p').map Lead.ofText).getD {}
            crown := o.has 'c', tagged := o.has 't', splits := o.has 's', uniform := o.has 'u' }
        let wording (file : String) (e : IoError) : String :=
          match e with
          | .isDirectory => "read error"
          | _ => "cannot open " ++ quotedName file ++ " for reading: " ++ reason e
        let filled (_ : String) (bytes : Stream) : Stream :=
          let lines := filling.lead.lines bytes
          ofChars (fillLines filling (lines.length + 1) false 0 lines)
        call.feedEach o.operands filled 1 wording

end PageScript.Shell.Program
