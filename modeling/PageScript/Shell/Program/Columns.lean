/-
Programs that work along lines: `cut` and `wc`.
-/
import PageScript.Shell.Program.Print
import PageScript.Text.Columns
import PageScript.Text.Split

namespace PageScript.Shell.Program

-- ======== cut

/-- What is wrong with a list of ranges. -/
inductive RangeFault where
  | zero
  | twoDashes
  | noEnds
  | decreasing
  /-- Something that is no number, up to the end of the list. -/
  | strange (text : String)
  deriving Repr, DecidableEq, Inhabited

def RangeFault.message (fields : Bool) : RangeFault → String
  | .zero =>
    (if fields then "fields" else "byte/character positions") ++ " are numbered from 1"
  | .twoDashes => "invalid " ++ (if fields then "field" else "byte or character") ++ " range"
  | .noEnds => "invalid range with no endpoint: -"
  | .decreasing => "invalid decreasing range"
  | .strange text =>
    "invalid " ++ (if fields then "field value " else "byte/character position ") ++ quoted text

/-- Reads a list of ranges such as `1,3-5,7-`, which start at one; each range takes one of `fuel`.
-/
def readRanges : (fuel : Nat) → List Char → Except RangeFault (List (Nat × Option Nat))
  | 0, _ => .ok []
  | fuel + 1, cs => do
    let lo := cs.takeWhile Char.isDigit
    let start := Number.digitsValue lo
    let (range, rest) ← match cs.drop lo.length with
      | '-' :: after => do
        if !lo.isEmpty && start = 0 then throw .zero
        let hi := after.takeWhile Char.isDigit
        let rest := after.drop hi.length
        if rest.head? = some '-' then throw .twoDashes
        if !ends rest then throw (.strange (String.ofList rest))
        if lo.isEmpty && hi.isEmpty then throw .noEnds
        let start := if lo.isEmpty then 1 else start
        if hi.isEmpty then pure ((start, none), rest)
        else
          let stop := Number.digitsValue hi
          if stop < start then throw .decreasing
          pure ((start, some stop), rest)
      | rest => do
        if !ends rest then throw (.strange (String.ofList rest))
        if start = 0 then throw .zero
        pure ((start, some start), rest)
    match rest with
    | [] => return [range]
    | _ :: rest => return range :: (← readRanges fuel rest)
where
  /-- Whether what follows ends a range. -/
  ends : List Char → Bool
    | [] => true
    | c :: _ => c = ',' || c = ' ' || c = '\t'

def inSome (ranges : List (Nat × Option Nat)) (i : Nat) : Bool :=
  ranges.any fun (lo, hi) => lo ≤ i && (hi.map (decide <| i ≤ ·)).getD true

def cut (call : Call) : Effect :=
  call.withOptions 1
    { flags := "nsz".toList ++ ['\x01'], valued := "bcdf".toList ++ ['\x02']
      long := [("bytes", 'b'), ("characters", 'c'), ("delimiter", 'd'), ("fields", 'f'),
        ("only-delimited", 's'), ("complement", '\x01'), ("output-delimiter", '\x02')] }
    fun o =>
      let kinds := o.given.filter fun g => g.1 = 'b' || g.1 = 'c' || g.1 = 'f'
      match kinds with
      | [] => .misused call 1 "you must specify a list of bytes, characters, or fields"
      | [(kind, list)] =>
        let fields : Bool := kind = 'f'
        match o.value? 'd' with
        | some "" => run call o fields list '\x00'
        | some d =>
          if !fields then
            .misused call 1 "an input delimiter may be specified only when operating on fields"
          else if d.length > 1 then .misused call 1 "the delimiter must be a single character"
          else run call o fields list (d.toList.headD '\t')
        | none =>
          if o.has 's' && !fields then
            .misused call 1 ("suppressing non-delimited lines makes sense\n" ++
              "\tonly when operating on fields")
          else run call o fields list '\t'
      | _ => .misused call 1 "only one list may be specified"
where
  /-- Cuts what a list of ranges names. -/
  run (call : Call) (o : Options) (fields : Bool) (list : String) (divider : Char) : Effect :=
    match readRanges (list.length + 1) list.toList with
    | .error e => .misused call 1 (e.message fields)
    | .ok ranges =>
      let wanted (i : Nat) : Bool := inSome ranges (i + 1) != o.has '\x01'
      let pick (items : List (List Char)) : List (List Char) :=
        (items.zipIdx.filter fun (_, i) => wanted i).map Prod.fst
      let between := ((o.value? '\x02').map String.toList).getD [divider]
      let line (cs : List Char) : Option (List Char) :=
        if fields then
          if cs.contains divider then
            some (between.intercalate (pick (Text.splitOn divider cs)))
          else if o.has 's' then none
          else some cs
        else some (pick (cs.map fun c => [c])).flatten
      call.feedEach o.operands fun _ bytes =>
        asLines ((lineTexts bytes o.mark).filterMap fun l =>
          (line l.toList).map String.ofList) o.mark

-- ======== wc

def isBetweenWords (c : Char) : Bool :=
  c = ' ' || ('\t' ≤ c && c ≤ '\r') ||
    [0xA0, 0x2007, 0x202F, 0x2060].contains c.toNat ||
    (0x80 ≤ c.toNat && spaceRanges.any fun (lo, hi) => lo ≤ c.toNat && c.toNat ≤ hi)

/-- How many words there are: stretches without blanks. -/
def wordCount (bytes : Stream) : Nat :=
  ((widen (ofBytes bytes)).toList.foldl
    (fun (inside, n) c =>
      let blank := isBetweenWords c
      (!blank, if !blank && !inside then n + 1 else n))
    (false, 0)).2

/-- How many characters there are; strays are none. -/
def characterCount (bytes : Stream) : Nat :=
  ((widen (ofBytes bytes)).toList.filter fun c => !isStray c).length

def columnsBehind (column : Nat) (c : Char) : Nat :=
  if c = '\t' then column + 8 - column % 8
  else if c = '\r' || c = '\x0c' then 0
  else if ' ' ≤ c && c ≤ '~' then column + 1
  else if c.toNat < 0xA0 || isStray c then column
  else column + Text.columns c

/-- The width of the widest line; a line may be written over from its start. -/
def widestLine (bytes : Stream) : Nat :=
  (linesOf bytes).foldl
    (fun n line =>
      ((widen (ofBytes (bareLine line))).toList.foldl
        (fun (column, most) c =>
          let column := columnsBehind column c
          (column, max column most)) (0, n)).2) 0

/-- Counts lines, words and bytes. Numbers are as wide as the sum of the sizes of all files, or
seven wide if not all of that is known. -/
def wc (call : Call) : Effect :=
  call.withOptions 1
    { flags := "clmwL".toList
      long := [("bytes", 'c'), ("lines", 'l'), ("words", 'w'), ("chars", 'm'),
        ("max-line-length", 'L')] }
    fun o =>
      let kinds := (if o.given.isEmpty then "lwc" else "lwmcL").toList
      let kinds := if o.given.isEmpty then kinds else kinds.filter o.has
      let counts (bytes : Stream) : List Nat := kinds.map fun
        | 'l' => bytes.count 0x0A
        | 'w' => wordCount bytes
        | 'L' => widestLine bytes
        | 'm' => characterCount bytes
        | _ => bytes.length
      let files := if o.operands.isEmpty then ["-"] else o.operands
      let single : Bool := files.length = 1 && kinds.length = 1
      let known (file : String) : Bool :=
        if file = "-" then call.fromFile
        else match call.disk.find (pathOf file) with
          | .ok (.file ..) => true
          | .ok _ => false
          | .error _ => true
      let sizes := files.map fun f =>
        match call.fetch f with | .ok bytes => bytes.length | .error _ => 0
      let least := if files.all known then 1 else 7
      let width := if single then 1 else max least (Number.natText sizes.sum).length
      let row (ns : List Nat) (title : String) : String :=
        " ".intercalate (ns.map fun n => ({ width } : Layout).pad (Number.natText n)) ++
          (if title = "" then "" else " " ++ title)
      let zero := kinds.map fun _ => 0
      let step (acc : Effect × List Nat) (file : String) : Effect × List Nat :=
        let (effect, sums) := acc
        match call.take effect file with
        | .ok (bytes, effect) =>
          let ns := counts bytes
          let title := if o.operands.isEmpty then "" else file
          let sums := (sums.zip ns).zip kinds |>.map fun ((a, b), k) =>
            if k = 'L' then max a b else a + b
          (effect.send (asLines [row ns title]), sums)
        | .error e =>
          let effect := effect.complain call 1 (nameText file ++ ": " ++ reason e)
          (if e = .isDirectory then effect.send (asLines [row zero file]) else effect, sums)
      let (effect, sums) := files.foldl step ({ disk := call.disk }, zero)
      if files.length > 1 then effect.send (asLines [row sums "total"]) else effect

end PageScript.Shell.Program
