/-
Regular expressions, in the basic and the extended notation.

An expression is matched at a place in a line by following all that it could match there at once,
the preferred ways first; of two ways that come to the same place only the preferred one is gone on
with. Of all matches the one that starts first is found, and of those the longest.
-/
import PageScript.Number.Decimal
import PageScript.Shell.Wide

namespace PageScript.Shell

/-- A regular expression. -/
inductive Regex where
  | empty
  | one (a : Atom)
  | lineStart
  | lineEnd
  | wordStart
  | wordEnd
  /-- Either end of a word, or any place that is none. -/
  | wordEdge (negated : Bool)
  | group (number : Nat) (body : Regex)
  /-- What a group has matched. -/
  | back (number : Nat)
  | both (left right : Regex)
  | either (left right : Regex)
  | repeated (least : Nat) (most : Option Nat) (body : Regex)
  deriving Repr, DecidableEq, Inhabited

/-- Which characters of an expression need a backslash to mean something. -/
inductive RegexForm where
  | basic
  | extended
  deriving Repr, DecidableEq, Inhabited

/-- What is wrong with an expression. -/
inductive RegexFault where
  | unmatchedBracket
  | unmatchedGroup
  | unmatchedGroupEnd
  | unmatchedBrace
  | badRange
  | badEnd
  | bareBracket
  | bareClass
  | badCollation
  | nothingRepeated
  | tooBig
  | badBack
  | trailingBackslash
  | badClass
  deriving Repr, DecidableEq, Inhabited

def RegexFault.message : RegexFault → String
  | .unmatchedBracket => "Unmatched [, [^, [:, [., or [="
  | .unmatchedGroup => "Unmatched ( or \\("
  | .unmatchedGroupEnd => "Unmatched ) or \\)"
  | .unmatchedBrace => "Unmatched \\\x7b"
  | .badRange => "Invalid content of \\\x7b\\\x7d"
  | .badEnd => "Invalid range end"
  | .bareBracket => "Invalid regular expression"
  | .bareClass => "character class syntax is [[:space:]], not [:space:]"
  | .badCollation => "Invalid collation character"
  | .nothingRepeated => "Invalid preceding regular expression"
  | .tooBig => "Regular expression too big"
  | .badBack => "Invalid back reference"
  | .trailingBackslash => "Trailing backslash"
  | .badClass => "Invalid character class name"

namespace Regex

-- ======== reading

def isWordChar (c : Char) : Bool :=
  c.isAlphanum || c = '_' ||
    (0x80 ≤ c.toNat && letterRanges.any fun (lo, hi) => lo ≤ c.toNat && c.toNat ≤ hi)

def wordRanges : List (Char × Char) :=
  [('0', '9'), ('A', 'Z'), ('_', '_'), ('a', 'z')] ++ asChars letterRanges

def bothCases (ranges : List (Char × Char)) : List (Char × Char) :=
  let letters := (List.range 26).flatMap fun i =>
    let lower := Char.ofNat ('a'.toNat + i)
    let upper := Char.ofNat ('A'.toNat + i)
    let inside := ranges.any fun (lo, hi) =>
      (lo ≤ lower && lower ≤ hi) || (lo ≤ upper && upper ≤ hi)
    if inside then [(lower, lower), (upper, upper)] else []
  let others := ranges.flatMap fun (lo, hi) =>
    if lo = hi && 0x80 ≤ lo.toNat then
      [(wideLower lo, wideLower lo), (wideUpper lo, wideUpper lo)]
    else []
  ranges ++ letters ++ others

/-- Reads the ranges of a set up to its closing bracket, and what follows it; each takes one of
`fuel`. A bracket that comes `first` does not close. -/
def readSet : (fuel : Nat) → (first : Bool) → List Char →
    Except RegexFault (List (Char × Char) × List Char)
  | 0, _, _ => .error .unmatchedBracket
  | _ + 1, _, [] => .error .unmatchedBracket
  | fuel + 1, first, c :: rest =>
    if c = ']' && !first then .ok ([], rest)
    else
      match c :: rest with
      | '[' :: ':' :: more =>
        let name := more.takeWhile (· ≠ ':')
        match more.drop name.length with
        | ':' :: ']' :: after =>
          match wideClassRanges (String.ofList name) with
          | [] => .error .badClass
          | ranges => do
            let (others, left) ← readSet fuel false after
            return (ranges ++ others, left)
        | _ => .error .unmatchedBracket
      | '[' :: '.' :: d :: '.' :: ']' :: after => do
        let (others, left) ← readSet fuel false after
        return ((d, d) :: others, left)
      | '[' :: '=' :: d :: '=' :: ']' :: after => do
        let (others, left) ← readSet fuel false after
        return ((d, d) :: others, left)
      | '[' :: '.' :: _ => .error .badCollation
      | lo :: '-' :: hi :: after =>
        if hi = ']' then do
          let (others, left) ← readSet fuel false rest
          return ((c, c) :: others, left)
        else if 0x80 ≤ lo.toNat || 0x80 ≤ hi.toNat then .error .badCollation
        else if hi < lo then .error .badEnd
        else do
          let (others, left) ← readSet fuel false after
          return ((lo, hi) :: others, left)
      | _ => do
        let (others, left) ← readSet fuel false rest
        return ((c, c) :: others, left)

def looksLikeClass (inner : List Char) : Bool :=
  match inner with
  | ':' :: more =>
    let text := more.takeWhile (· ≠ ']')
    text.length < more.length && text.getLast? = some ':' && text.any (· ≠ ':') &&
      !text.contains '[' && !text.contains '-'
  | _ => false

/-- How an expression is read. -/
structure Style where
  form : RegexForm
  ignoreCase : Bool := false
  /-- Whether every brace says how often something is repeated, and there has to be something. -/
  strict : Bool := false

def Style.literal (s : Style) (c : Char) : Regex :=
  if s.ignoreCase && (wideLower c ≠ c || wideUpper c ≠ c) then
    .one (.set false (bothCases [(c, c)]))
  else .one (.char c)

def Style.set (s : Style) (outside : Bool) (ranges : List (Char × Char)) : Regex :=
  .one (.set outside (if s.ignoreCase then bothCases ranges else ranges))

def readBounds (style : Style) (cs : List Char) :
    Except RegexFault (Nat × Option Nat × List Char) :=
  let least := cs.takeWhile Char.isDigit
  let after := cs.drop least.length
  let (most, after) :=
    match after with
    | ',' :: more =>
      let ds := more.takeWhile Char.isDigit
      (if ds.isEmpty then none else some (Number.digitsValue ds), more.drop ds.length)
    | _ => (some (Number.digitsValue least), after)
  let closed :=
    match style.form, after with
    | .basic, '\\' :: '\x7d' :: left => some left
    | .extended, '\x7d' :: left => some left
    | _, _ => none
  match closed with
  | none => .error (if after.isEmpty then .unmatchedBrace else .badRange)
  | some left =>
    if (most.map (decide <| · < Number.digitsValue least)).getD false then .error .badRange
    else if max (Number.digitsValue least) (most.getD 0) > 32767 then .error .tooBig
    else if least.isEmpty && most.isSome && (cs.head? ≠ some ',') then .error .badRange
    else .ok (Number.digitsValue least, most, left)

def opensBounds (cs : List Char) : Bool :=
  match cs.dropWhile Char.isDigit with
  | '\x7d' :: _ => cs.head? ≠ some '\x7d'
  | ',' :: after => (after.dropWhile Char.isDigit).head? = some '\x7d'
  | _ => false

/-- Reads the signs of repetition behind an expression; each takes one of `fuel`. -/
def readRepetition (style : Style) : (fuel : Nat) → Regex → List Char →
    Except RegexFault (Regex × List Char)
  | 0, r, cs => .ok (r, cs)
  | fuel + 1, r, cs =>
    let go (least : Nat) (most : Option Nat) (rest : List Char) :
        Except RegexFault (Regex × List Char) :=
      readRepetition style fuel (.repeated least most r) rest
    match style.form, cs with
    | _, '*' :: rest => go 0 none rest
    | .extended, '+' :: rest => go 1 none rest
    | .extended, '?' :: rest => go 0 (some 1) rest
    | .basic, '\\' :: '+' :: rest => go 1 none rest
    | .basic, '\\' :: '?' :: rest => go 0 (some 1) rest
    | .extended, '\x7b' :: rest =>
      if style.strict || opensBounds rest then do
        let (least, most, rest) ← readBounds style rest
        go least most rest
      else .ok (r, cs)
    | .basic, '\\' :: '\x7b' :: rest => do
      let (least, most, rest) ← readBounds style rest
      go least most rest
    | _, _ => .ok (r, cs)

def escaped? (c : Char) : Option Regex :=
  match c with
  | 'w' => some (.one (.set false wordRanges))
  | 'W' => some (.one (.set true wordRanges))
  | 's' => some (.one (.set false (wideClassRanges "space")))
  | 'S' => some (.one (.set true (wideClassRanges "space")))
  | 'b' => some (.wordEdge false)
  | 'B' => some (.wordEdge true)
  | '<' => some .wordStart
  | '>' => some .wordEnd
  | '\x60' => some .lineStart
  | '\'' => some .lineEnd
  | 'n' => some (.one (.char '\n'))
  | 't' => some (.one (.char '\t'))
  | _ => none

def endsBranch (style : Style) : List Char → Bool
  | [] => true
  | '|' :: _ => style.form = .extended
  | ')' :: _ => style.form = .extended
  | '\\' :: '|' :: _ => style.form = .basic
  | '\\' :: ')' :: _ => style.form = .basic
  | _ => false

mutual

/-- Reads branches up to the end of the expression or group: the expression, how many groups there
are by then, and what follows. -/
def readBranches (style : Style) :
    (fuel : Nat) → (groups : Nat) → List Char → Except RegexFault (Regex × Nat × List Char)
  | 0, _, _ => .error .unmatchedGroup
  | fuel + 1, groups, cs => do
    let (first, groups, rest) ← readBranch style fuel true groups cs
    let more :=
      match style.form, rest with
      | .extended, '|' :: more => some more
      | .basic, '\\' :: '|' :: more => some more
      | _, _ => none
    match more with
    | some more =>
      let (others, groups, rest) ← readBranches style fuel groups more
      return (.either first others, groups, rest)
    | none => return (first, groups, rest)

/-- Reads one branch; `start` says that nothing of it has been read yet. -/
def readBranch (style : Style) :
    (fuel : Nat) → (start : Bool) → (groups : Nat) → List Char →
    Except RegexFault (Regex × Nat × List Char)
  | 0, _, _, _ => .error .unmatchedGroup
  | fuel + 1, start, groups, cs =>
    if endsBranch style cs then .ok (.empty, groups, cs)
    else do
      let (item, groups, rest) ← readItem style fuel start groups cs
      let anchor : Bool := item = .lineStart
      let (item, rest) ←
        if anchor then pure (item, rest) else readRepetition style (rest.length + 1) item rest
      let (others, groups, rest) ← readBranch style fuel anchor groups rest
      return (.both item others, groups, rest)

def readItem (style : Style) :
    (fuel : Nat) → (start : Bool) → (groups : Nat) → List Char →
    Except RegexFault (Regex × Nat × List Char)
  | 0, _, _, _ => .error .unmatchedGroup
  | fuel + 1, start, groups, cs =>
    let basic : Bool := style.form = .basic
    let group (inner : List Char) : Except RegexFault (Regex × Nat × List Char) := do
      let number := groups + 1
      let (body, groups, rest) ← readBranches style fuel number inner
      match basic, rest with
      | true, '\\' :: ')' :: rest => return (.group number body, groups, rest)
      | false, ')' :: rest => return (.group number body, groups, rest)
      | _, _ => .error .unmatchedGroup
    let stray (rest : List Char) : Except RegexFault (Regex × Nat × List Char) :=
      if style.strict then .error .nothingRepeated
      else if endsBranch style rest then .ok (.empty, groups, rest)
      else readItem style fuel start groups rest
    match cs with
    | [] => .ok (.empty, groups, [])
    | '.' :: rest => .ok (.one .any, groups, rest)
    | '[' :: rest => do
      let (outside, inner) := match rest with
        | '^' :: inner => (true, inner)
        | inner => (false, inner)
      if inner.isEmpty then throw .bareBracket
      if looksLikeClass inner then throw .bareClass
      let (ranges, left) ← readSet (inner.length + 1) true inner
      return (style.set outside ranges, groups, left)
    | '^' :: rest =>
      .ok (if !basic || start then .lineStart else .one (.char '^'), groups, rest)
    | '$' :: rest =>
      .ok (if !basic || endsBranch style rest then .lineEnd else .one (.char '$'),
        groups, rest)
    | '*' :: rest =>
      if basic then .ok (.one (.char '*'), groups, rest) else stray rest
    | '(' :: rest => if basic then .ok (.one (.char '('), groups, rest) else group rest
    | '\\' :: c :: rest =>
      if basic && c = '(' then group rest
      else if basic && c = '\x7b' then .error .nothingRepeated
      else if c.isDigit && c ≠ '0' then
        let number := c.toNat - '0'.toNat
        if number ≤ groups then .ok (.back number, groups, rest) else .error .badBack
      else
        match escaped? c with
        | some r => .ok (r, groups, rest)
        | none => .ok (style.literal c, groups, rest)
    | ['\\'] => .error .trailingBackslash
    | c :: rest =>
      if !basic && start && (c = '+' || c = '?') then stray rest
      else if !basic && start && c = '\x7b' && (style.strict || opensBounds rest) then
        stray ((rest.dropWhile (· ≠ '\x7d')).drop 1)
      else .ok (style.literal c, groups, rest)

end

/-- Reads an expression to its end; each closing bracket that closes nothing takes one of `fuel`,
and stands for itself where that is allowed. -/
def readAll (style : Style) :
    (fuel : Nat) → (groups : Nat) → List Char → Except RegexFault (Regex × Nat)
  | 0, _, _ => .error .unmatchedGroupEnd
  | fuel + 1, groups, cs => do
    let (r, groups, rest) ← readBranches style (4 * cs.length + 4) groups cs
    match rest with
    | [] => return (r, groups)
    | c :: rest =>
      if style.form = .basic || style.strict then throw .unmatchedGroupEnd
      let (others, groups) ← readAll style fuel groups rest
      return (.both r (.both (style.literal c) others), groups)

def parse (style : Style) (cs : List Char) : Except RegexFault (Regex × Nat) :=
  readAll style (cs.length + 1) 0 cs

/-- The signs of repetition in an extended expression that have nothing to repeat; each character
takes one of `fuel`. `start` says that there is nothing in front. -/
def strays : (fuel : Nat) → (start : Bool) → List Char → List String
  | 0, _, _ => []
  | _, _, [] => []
  | fuel + 1, _, '\\' :: _ :: rest => strays fuel false rest
  | fuel + 1, _, '[' :: rest =>
    let inner := match rest with | '^' :: inner => inner | inner => inner
    match readSet (inner.length + 1) true inner with
    | .ok (_, left) => strays fuel false left
    | .error _ => []
  | fuel + 1, start, c :: rest =>
    if c = '(' || c = '|' || c = '^' then strays fuel true rest
    else if start && (c = '*' || c = '+' || c = '?') then c.toString :: strays fuel start rest
    else if start && c = '\x7b' && opensBounds rest then
      "\x7b...\x7d" :: strays fuel start ((rest.dropWhile (· ≠ '\x7d')).drop 1)
    else strays fuel false rest

def warnings (text : String) : List String :=
  strays (text.length + 1) true text.toList

def ofText (style : Style) (cs : List Char) : Regex :=
  cs.foldr (fun c r => .both (style.literal c) r) .empty

-- ======== matching

def hasBack : Regex → Bool
  | .back _ => true
  | .group _ r => r.hasBack
  | .both l r => l.hasBack || r.hasBack
  | .either l r => l.hasBack || r.hasBack
  | .repeated _ _ r => r.hasBack
  | _ => false

/-- How far a match has come, and what its groups have matched: numbers with the places where the
match starts and ends, the latest first. -/
structure Progress where
  place : Nat
  groups : List (Nat × Nat × Nat) := []
  deriving Repr, DecidableEq, Inhabited

/-- What one attempt is made on. -/
structure Subject where
  text : Array Char
  /-- Whether the text starts where a line does. -/
  fresh : Bool := true
  /-- Whether ways that come to the same place differ if their groups do. -/
  exact : Bool := false

namespace Subject

def same (s : Subject) (a b : Progress) : Bool :=
  a.place = b.place && (!s.exact || a.groups = b.groups)

def distinct (s : Subject) (ways : List Progress) : List Progress :=
  (ways.foldl (fun kept p => if kept.any (s.same p) then kept else p :: kept) []).reverse

def furthest (ways : List Progress) : List Progress :=
  ways.mergeSort fun a b => decide (b.place ≤ a.place)

def wordAt (s : Subject) (i : Nat) : Bool :=
  (s.text[i]?.map isWordChar).getD false

def wordBefore (s : Subject) (i : Nat) : Bool :=
  i > 0 && s.wordAt (i - 1)

end Subject

/-- All repetitions of a step from given ways, as many as possible first; each round takes one of
`fuel`. A round that gets nowhere is not repeated. `seen` are the ways that were gone already, and
are given back with those gone now. -/
def spread (s : Subject) (step : Progress → List Progress) :
    (fuel : Nat) → (seen : List Progress) → List Progress → List Progress × List Progress
  | 0, seen, _ => ([], seen)
  | _, seen, [] => ([], seen)
  | fuel + 1, seen, way :: ways =>
    if seen.any (s.same way) then spread s step fuel seen ways
    else
      let next := (step way).filter fun p => p.place > way.place
      let (deeper, seen) := spread s step fuel (way :: seen) next
      let (others, seen) := spread s step fuel seen ways
      (deeper ++ way :: others, seen)

def ways (s : Subject) : Regex → Progress → List Progress
  | .empty, p => [p]
  | .one a, p =>
    match s.text[p.place]? with
    | some c =>
      if a.accepts c && (!isStray c || a = .char c) then [{ p with place := p.place + 1 }] else []
    | none => []
  | .lineStart, p => if p.place = 0 && s.fresh then [p] else []
  | .lineEnd, p => if p.place = s.text.size then [p] else []
  | .wordStart, p => if !s.wordBefore p.place && s.wordAt p.place then [p] else []
  | .wordEnd, p => if s.wordBefore p.place && !s.wordAt p.place then [p] else []
  | .wordEdge negated, p =>
    if (s.wordBefore p.place != s.wordAt p.place) != negated then [p] else []
  | .group n body, p =>
    (ways s body p).map fun q => { q with groups := (n, p.place, q.place) :: q.groups }
  | .back n, p =>
    match p.groups.lookup n with
    | some (a, b) =>
      if s.text.extract p.place (p.place + (b - a)) = s.text.extract a b
      then [{ p with place := p.place + (b - a) }] else []
    | none => []
  | .both l r, p => s.distinct ((ways s l p).flatMap (ways s r))
  | .either l r, p => s.distinct (Subject.furthest (ways s l p ++ ways s r p))
  | .repeated least most body, p =>
    let started :=
      least.repeat (fun ps => s.distinct (ps.flatMap (ways s body))) [p]
    match most with
    | none =>
      let rounds := (s.text.size + 2) * (s.text.size + 2) + started.length
      s.distinct (started.flatMap fun q => (spread s (ways s body) rounds [] [q]).1)
    | some most =>
      s.distinct ((most - least).repeat
        (fun ps => s.distinct (ps.flatMap fun q =>
          ((ways s body q).filter fun r => r.place > q.place) ++ [q])) started)

def longest? (r : Regex) (s : Subject) (place : Nat) : Option Progress :=
  (ways s r { place }).foldl
    (fun best p =>
      match best with
      | some b => if p.place > b.place then some p else best
      | none => some p)
    none

/-- Where a match starts, and how it goes. -/
structure Match where
  start : Nat
  way : Progress
  deriving Repr, DecidableEq, Inhabited

def find? (r : Regex) (text : Array Char) (place : Nat := 0) : Option Match :=
  let s : Subject := { text, exact := r.hasBack }
  (List.range (text.size + 1 - place)).findSome? fun i =>
    (r.longest? s (place + i)).map fun way => ⟨place + i, way⟩

def occurs (r : Regex) (text : Array Char) : Bool :=
  (r.find? text).isSome

/-- What a group has matched; group 0 is the whole match. -/
def Match.group (m : Match) (text : Array Char) (n : Nat) : List Char :=
  if n = 0 then (text.extract m.start m.way.place).toList
  else
    match m.way.groups.lookup n with
    | some (a, b) => (text.extract a b).toList
    | none => []

end Regex

end PageScript.Shell
