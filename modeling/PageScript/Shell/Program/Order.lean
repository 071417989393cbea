/-
Programs about the order of lines: `sort` and `uniq`.

Lines are ordered by keys. A key is a part of a line and a way to compare such parts; lines with
equal keys are ordered by all of their bytes, unless they are to stay as they came.
-/
import PageScript.Shell.Program.Print
import PageScript.Text.Split

namespace PageScript.Shell.Program

-- ======== keys

def isGap (c : Char) : Bool :=
  c = ' ' || c = '\t'

/-- A key of a line: where it starts and ends, in fields and characters, and how it is compared. -/
structure SortKey where
  field : Nat := 0
  char : Nat := 0
  /-- The field the key ends in, and the character of it; zero is the end of the field. -/
  stop : Option (Nat × Nat) := none
  startGaps : Bool := false
  stopGaps : Bool := false
  /-- The letters that say how parts are compared. -/
  ways : List Char := []
  deriving Repr, DecidableEq, Inhabited

def dropFields (divider : Option Char) : (count : Nat) → List Char → List Char
  | 0, cs => cs
  | n + 1, cs =>
    match divider with
    | some d => dropFields divider n ((cs.dropWhile (· ≠ d)).drop 1)
    | none => dropFields divider n ((cs.dropWhile isGap).dropWhile (!isGap ·))

def SortKey.part (k : SortKey) (divider : Option Char) (line : List Char) : List Char :=
  let start := dropFields divider k.field line
  let start := if k.startGaps then start.dropWhile isGap else start
  let start := start.drop k.char
  match k.stop with
  | none => start
  | some (field, char) =>
    let behind :=
      if char = 0 then
        match divider with
        | some d => (dropFields divider field line).dropWhile (· ≠ d)
        | none => dropFields divider (field + 1) line
      else
        let origin := dropFields divider field line
        (if k.stopGaps then origin.dropWhile isGap else origin).drop char
    start.take (start.length - behind.length)

/-- A number as `sort` reads it: digits with a point among them, scaled by a power of ten. -/
structure Figure where
  value : Int := 0
  places : Nat := 0
  deriving Repr, DecidableEq, Inhabited

def Figure.front (cs : List Char) : Figure × List Char :=
  let cs := cs.dropWhile isGap
  let (negative, cs) := match cs with | '-' :: rest => (true, rest) | _ => (false, cs)
  let units := cs.takeWhile Char.isDigit
  let after := cs.drop units.length
  let (places, after) := match after with
    | '.' :: rest => (rest.takeWhile Char.isDigit, rest.dropWhile Char.isDigit)
    | _ => ([], after)
  let n := Number.digitsValue (units ++ places)
  (⟨if negative then -(n : Int) else n, places.length⟩, after)

def Figure.compare (a b : Figure) : Ordering :=
  Ord.compare (a.value * 10 ^ b.places) (b.value * 10 ^ a.places)

def unitPower : List Char → Nat
  | c :: _ => ("KMGTPEZY".toList.idxOf? c.toUpper).elim 0 (· + 1)
  | [] => 0

/-- The number of a month by the first letters of its name; other texts come before. -/
def monthNumber (cs : List Char) : Nat :=
  let name := String.ofList (((cs.dropWhile isGap).take 3).map Char.toUpper)
  (["JAN", "FEB", "MAR", "APR", "MAY", "JUN", "JUL", "AUG", "SEP", "OCT", "NOV", "DEC"].idxOf?
    name).elim 0 (· + 1)

/-- The number that a text with an exponent starts with; other texts come before all numbers. -/
def generalFigure (cs : List Char) : Option Figure :=
  (frontDecimal? cs).map fun (negative, num, den, _) =>
    let places := (Nat.toDigits 10 den).length - 1
    ⟨if negative then -(num : Int) else num, places⟩

/-- The rank of a character among those of versions: a tilde comes before the end, letters before
everything else. -/
def versionRank (c : Char) : Nat :=
  if c = '~' then 0 else if c.isDigit then 1 else if c.isAlpha then c.toNat + 2 else c.toNat + 300

/-- The order of two versions: stretches of digits count as numbers; each step takes one of `fuel`.
-/
def compareVersions : (fuel : Nat) → List Char → List Char → Ordering
  | 0, _, _ => .eq
  | _, [], [] => .eq
  | fuel + 1, as, bs =>
    let (da, db) := (as.takeWhile Char.isDigit, bs.takeWhile Char.isDigit)
    if !da.isEmpty && !db.isEmpty then
      match compare (Number.digitsValue da) (Number.digitsValue db) with
      | .eq => compareVersions fuel (as.drop da.length) (bs.drop db.length)
      | o => o
    else
      let rank (cs : List Char) : Nat := (cs.head?.map versionRank).getD 1
      match compare (rank as) (rank bs) with
      | .eq => compareVersions fuel (as.drop 1) (bs.drop 1)
      | o => o

def SortKey.compare (k : SortKey) (a b : List Char) : Ordering :=
  let uses (way : Char) : Bool := k.ways.contains way
  let order :=
    if uses 'n' then (Figure.front a).1.compare (Figure.front b).1
    else if uses 'h' then
      let (x, ux) := Figure.front a
      let (y, uy) := Figure.front b
      let rank (f : Figure) (unit : List Char) : Int :=
        let p : Int := unitPower unit
        if f.value < 0 then -p - 1 else if f.value = 0 then 0 else p + 1
      (Ord.compare (rank x ux) (rank y uy)).then (x.compare y)
    else if uses 'g' then
      match generalFigure a, generalFigure b with
      | some x, some y => x.compare y
      | none, some _ => .lt
      | some _, none => .gt
      | none, none => .eq
    else if uses 'M' then Ord.compare (monthNumber a) (monthNumber b)
    else
      let clean (cs : List Char) : List Char :=
        let cs := if uses 'd' then cs.filter fun c => c.isAlphanum || isGap c else cs
        let cs := if uses 'i' then cs.filter fun c => ' ' ≤ c && c ≤ '~' else cs
        if uses 'f' then cs.map Char.toUpper else cs
      if uses 'V' then compareVersions (a.length + b.length + 1) (clean a) (clean b)
      else Ord.compare (clean a) (clean b)
  if uses 'r' then order.swap else order

/-- What is wrong with a key. -/
inductive KeyFault where
  /-- There is no number where one has to be: what the number is for, and what is there. -/
  | noNumber (place text : String)
  | bad (cause text : String)
  /-- Letters that do not go together. -/
  | mixed (letters : String)
  deriving Repr, DecidableEq, Inhabited

def KeyFault.message : KeyFault → String
  | .noNumber place text =>
    "invalid number " ++ place ++ ": invalid count at start of " ++ quoted text
  | .bad cause text => cause ++ ": invalid field specification " ++ quoted text
  | .mixed letters => "options '-" ++ letters ++ "' are incompatible"

def readKeyNumber (place : String) (cs : List Char) : Except KeyFault (Nat × List Char) :=
  let ds := cs.takeWhile Char.isDigit
  if ds.isEmpty then .error (.noNumber place (String.ofList cs))
  else .ok (Number.digitsValue ds, cs.drop ds.length)

/-- Reads a character of a field behind a point, if there is one; without it the number is
`missing`. -/
def readKeyChar (missing : Nat) : List Char → Except KeyFault (Nat × List Char)
  | '.' :: rest => readKeyNumber "after '.'" rest
  | cs => .ok (missing, cs)

def checkWays (ways : List Char) : Except KeyFault Unit :=
  let single := "ghMn".toList.filter ways.contains
  let text := ways.any fun c => "RVdi".toList.contains c
  if single.length + (if text then 1 else 0) > 1 then
    .error (.mixed (String.ofList ("dfghiMnRV".toList.filter ways.contains)))
  else .ok ()

def SortKey.read (text : String) : Except KeyFault SortKey := do
  let isWay (c : Char) : Bool := "bdfghiMnRrV".toList.contains c
  let (field, rest) ← readKeyNumber "at field start" text.toList
  if field = 0 then throw (.bad "field number is zero" text)
  let (char, rest) ← readKeyChar 1 rest
  if char = 0 then throw (.bad "character offset is zero" text)
  let ways := rest.takeWhile isWay
  let key : SortKey :=
    { field := field - 1, char := char - 1, startGaps := ways.contains 'b', ways }
  match rest.drop ways.length with
  | [] => return key
  | ',' :: rest =>
    let (stop, rest) ← readKeyNumber "after ','" rest
    if stop = 0 then throw (.bad "field number is zero" text)
    let (char, rest) ← readKeyChar 0 rest
    let others := rest.takeWhile isWay
    if others.length < rest.length then throw (.bad "stray character in field spec" text)
    return { key with
      stop := some (stop - 1, char), stopGaps := others.contains 'b', ways := ways ++ others }
  | _ => throw (.bad "stray character in field spec" text)

-- ======== sort

def sort (call : Call) : Effect :=
  call.withOptions 2
    { flags := "bcCdfghimMnrRsuVz".toList, valued := "koStT".toList
      long := [("ignore-leading-blanks", 'b'), ("dictionary-order", 'd'), ("ignore-case", 'f'),
        ("general-numeric-sort", 'g'), ("human-numeric-sort", 'h'), ("month-sort", 'M'),
        ("numeric-sort", 'n'), ("reverse", 'r'), ("version-sort", 'V'), ("check", 'c'),
        ("key", 'k'), ("merge", 'm'), ("output", 'o'), ("stable", 's'), ("field-separator", 't'),
        ("unique", 'u'), ("zero-terminated", 'z')] }
    fun o =>
      let ways := "bdfghiMnrV".toList.filter o.has
      let keys := o.values 'k'
      let read : Except KeyFault (List SortKey) := do
        let keys ← keys.mapM SortKey.read
        checkWays ways
        for key in keys do
          checkWays key.ways
        return keys
      match read with
      | .error e => .complaining call 2 e.message
      | .ok keys =>
        match o.value? 't' with
        | some "" => .complaining call 2 "empty tab"
        | some t =>
          if t = "\\0" then run call o keys ways (some '\x00')
          else if t.length > 1 then .complaining call 2 ("multi-character tab " ++ quoted t)
          else run call o keys ways t.toList.head?
        | none => run call o keys ways none
where
  /-- Puts lines in order, whose fields a divider parts. -/
  run (call : Call) (o : Options) (keys : List SortKey) (ways : List Char)
      (divider : Option Char) : Effect :=
    let keys := keys.map fun k =>
      if k.ways.isEmpty && !k.startGaps && !k.stopGaps then
        { k with ways, startGaps := ways.contains 'b', stopGaps := ways.contains 'b' }
      else k
    let keys := if keys.isEmpty then [{ ways, startGaps := ways.contains 'b' }] else keys
    let byKeys (a b : String) : Ordering :=
      keys.foldl
        (fun order k => order.then (k.compare (k.part divider a.toList) (k.part divider b.toList)))
        .eq
    let plain := o.has 's' || o.has 'u'
    let order (a b : String) : Ordering :=
      (byKeys a b).then (if plain then .eq
        else if o.has 'r' then compare b.toList a.toList else compare a.toList b.toList)
    let (found, effect) := call.inputs o.operands 2 fun file e =>
      match e with
      | .isDirectory => "read failed: " ++ nameText file ++ ": " ++ reason e
      | _ => "cannot read: " ++ nameText file ++ ": " ++ reason e
    let parts := found.map fun f => lineTexts f.2 o.mark
    let lines := parts.flatten
    let before (a b : String) : Bool := order a b ≠ .gt
    if effect.status ≠ 0 then effect
    else if o.has 'c' || o.has 'C' then
      let pairs := (lines.zip (lines.drop 1)).zipIdx
      let bad := pairs.find? fun ((a, b), _) =>
        let found := order a b
        found = .gt || (o.has 'u' && found = .eq)
      match bad with
      | none => effect
      | some ((_, b), i) =>
        if o.has 'C' then { effect with status := 1 }
        else
          effect.complain call 1 ((o.operands.headD "-") ++ ":" ++ Number.natText (i + 2) ++
            ": disorder: " ++ b)
    else
      let sorted := if o.has 'm' then parts.foldl (fun all part => all.merge part before) []
        else lines.mergeSort before
      let sorted :=
        if o.has 'u' then
          (sorted.foldl
            (fun (kept : List String) line =>
              match kept with
              | last :: _ => if byKeys last line = .eq then kept else line :: kept
              | [] => [line])
            []).reverse
        else sorted
      match o.value? 'o' with
      | some file =>
        match call.disk.write (pathOf file) (asLines sorted o.mark) with
        | .ok disk => { effect with disk }
        | .error e => effect.complain call 2 ("open failed: " ++ nameText file ++ ": " ++ reason e)
      | none => effect.send (asLines sorted o.mark)

-- ======== uniq

def runsOf (alike : String → String → Bool) (lines : List String) : List (List String) :=
  (lines.foldl
    (fun (runs : List (List String)) line =>
      match runs with
      | (first :: more) :: rest =>
        if alike first line then (first :: more ++ [line]) :: rest else [line] :: runs
      | _ => [line] :: runs)
    []).reverse

def uniq (call : Call) : Effect :=
  call.withOptions 1
    { flags := "cdDiuz".toList, valued := "fsw".toList
      long := [("count", 'c'), ("repeated", 'd'), ("ignore-case", 'i'), ("unique", 'u'),
        ("skip-fields", 'f'), ("skip-chars", 's'), ("check-chars", 'w')] }
    fun o =>
      match o.operands with
      | _ :: _ :: extra :: _ => .misused call 1 ("extra operand " ++ quoted extra)
      | operands =>
        let number (letter : Char) : Nat := ((o.value? letter).bind decimal?).getD 0
        let key (line : String) : List Char :=
          let cs := dropFields none (number 'f') line.toList
          let cs := cs.drop (number 's')
          let cs := if o.has 'w' then cs.take (number 'w') else cs
          if o.has 'i' then cs.map Char.toUpper else cs
        let (bytes, effect) := call.gathered (operands.take 1) 1 fun file e =>
          if e = .isDirectory then "error reading " ++ quotedName file ++ ": " ++ reason e
          else nameText file ++ ": " ++ reason e
        let runs := runsOf (fun a b => decide (key a = key b)) (lineTexts bytes o.mark)
        let runs := runs.filter fun run =>
          (!(o.has 'd' || o.has 'D') || run.length > 1) && (!o.has 'u' || run.length = 1)
        let lines := runs.flatMap fun run =>
          if o.has 'D' then run
          else
            (run.take 1).map fun line =>
              if o.has 'c' then
                ({ width := 7 } : Layout).pad (Number.natText run.length) ++ " " ++ line
              else line
        match operands with
        | [_, file] =>
          match call.disk.write (pathOf file) (asLines lines o.mark) with
          | .ok disk => { effect with disk }
          | .error e => effect.complain call 1 (nameText file ++ ": " ++ reason e)
        | _ => effect.send (asLines lines o.mark)

end PageScript.Shell.Program
