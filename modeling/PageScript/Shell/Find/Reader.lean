/-
The arguments of `find`: paths first, then an expression in which names of tests and actions stand
behind dashes.
-/
import PageScript.Shell.Date.Parser
import PageScript.Shell.Find.Quest
import PageScript.Shell.Program.Place

namespace PageScript.Shell.Find

open Program (placeOf ModeChange)

-- ======== faults

/-- What is wrong with the arguments. -/
inductive Fault where
  | missing (asked : String)
  | unknownTest (arg : String)
  | latePath (arg : String) (behind : Option String)
  | unknownKind (arg : String)
  | kindsApart
  | kindTwice (letter : Char)
  | noKinds
  | badSize (text : String)
  | badSizeUnit (letter : Char)
  | noSize
  | badNumber (asked text : String)
  | badDepth (asked text : String)
  | badMode (text : String)
  | badTime (text : String)
  | badRegex (text : String) (fault : RegexFault)
  | badRegexKind (text : String)
  | noUser (name : String)
  | noGroup (name : String)
  | unreachable (file : String) (e : IoError)
  | nothingBefore (operator : String)
  | nothingAfter (operator : String)
  | emptyBrackets
  | unclosed
  | unclosedEmpty
  | tooManyClosed
  | bracesApart (manner word : String)
  | bracesTwice (manner : String)
  deriving Repr, DecidableEq, Inhabited

def leaning (s : String) : String :=
  "\x60" ++ s ++ "'"

def regexKinds : List String :=
  ["findutils-default", "ed", "emacs", "gnu-awk", "grep", "posix-awk", "awk", "posix-basic",
    "posix-egrep", "egrep", "posix-extended", "posix-minimal-basic", "sed"]

def Fault.messages : Fault → List String
  | .missing asked => ["missing argument to " ++ leaning asked]
  | .unknownTest arg => ["unknown predicate " ++ leaning arg]
  | .latePath arg behind =>
    ("paths must precede expression: " ++ leaning arg) ::
      (behind.map fun b => "possible unquoted pattern after predicate " ++ leaning b ++ "?").toList
  | .unknownKind arg => ["Unknown argument to -type: " ++ arg]
  | .kindsApart => ["Must separate multiple arguments to -type using: ','"]
  | .kindTwice letter =>
    ["Duplicate file type " ++ ticked letter.toString ++ " in the argument list to -type."]
  | .noKinds => ["Arguments to -type should contain at least one letter"]
  | .badSize text => ["Invalid argument " ++ leaning text ++ " to -size"]
  | .badSizeUnit letter => ["invalid -size type " ++ leaning letter.toString]
  | .noSize => ["invalid null argument to -size"]
  | .badNumber asked text => ["invalid argument " ++ leaning text ++ " to " ++ leaning asked]
  | .badDepth asked text =>
    ["Expected a positive decimal integer argument to " ++ asked ++ ", but got " ++ quoted text]
  | .badMode text => ["invalid mode " ++ quoted text]
  | .badTime text =>
    ["I cannot figure out how to interpret " ++ quoted text ++ " as a date or time"]
  | .badRegex text fault =>
    ["failed to compile regular expression " ++ ticked text ++ ": " ++ fault.message]
  | .badRegexKind text =>
    ["Unknown regular expression type " ++ quoted text ++ "; valid types are " ++
      ", ".intercalate (regexKinds.map quoted) ++ "."]
  | .noUser name => [quoted name ++ " is not the name of a known user"]
  | .noGroup name => [quoted name ++ " is not the name of an existing group"]
  | .unreachable file e => [quoted file ++ ": " ++ reason e]
  | .nothingBefore operator =>
    ["invalid expression; you have used a binary operator " ++ ticked operator ++
      " with nothing before it."]
  | .nothingAfter operator => ["expected an expression after " ++ ticked operator]
  | .emptyBrackets => ["invalid expression; empty parentheses are not allowed."]
  | .unclosed =>
    ["invalid expression; I was expecting to find a ')' somewhere but did not see one."]
  | .unclosedEmpty =>
    ["invalid expression; expected to find a ')' but didn't see one. " ++
      "Perhaps you need an extra predicate after '('"]
  | .tooManyClosed => ["you have too many ')'"]
  | .bracesApart manner word =>
    ["In " ++ quoted (manner ++ " ... \x7b\x7d +") ++ " the " ++ quoted "\x7b\x7d" ++
      " must appear by itself, but you specified " ++ quoted word]
  | .bracesTwice manner =>
    ["Only one instance of \x7b\x7d is supported with " ++ manner ++ " ... +"]

-- ======== reading

/-- What is left of the arguments, and what was said so far. -/
structure Cursor where
  rest : List String
  course : Course := {}
  /-- The kind of expressions. -/
  regexKind : String := "emacs"
  /-- The last test or action. -/
  last : Option String := none

abbrev Reading := StateT Cursor (Except Fault)

def takeOperand (asked : String) : Reading String := do
  let c ← get
  match c.rest with
  | [] => throw (.missing asked)
  | arg :: rest =>
    set { c with rest }
    return arg

def globOf (text : String) (ignoreCase : Bool) : Glob :=
  let cs := (widen text).toList
  Glob.ofMarks (unquote (if ignoreCase then cs.map wideLower else cs))
where
  /-- The characters of a pattern, those behind a backslash standing for themselves. -/
  unquote : List Char → List Mark
    | '\\' :: c :: rest => (c, true) :: unquote rest
    | c :: rest => (c, false) :: unquote rest
    | [] => []

def measure? (cs : List Char) : Option Measure :=
  let number (ds : List Char) : Option Nat := Shell.decimal? (String.ofList ds)
  match cs with
  | '+' :: ds => (number ds).map .moreThan
  | '-' :: ds => (number ds).map .lessThan
  | ds => (number ds).map .exactly

def readMeasure (asked : String) : Reading Measure := do
  let text ← takeOperand asked
  match measure? text.toList with
  | some m => return m
  | none => throw (.badNumber asked text)

/-- A size: a number with a letter behind it for what it counts. -/
def readSize (text : String) : Reading Quest := do
  let cs := text.toList
  let units : List (Char × Nat) :=
    [('c', 1), ('w', 2), ('b', 512), ('k', 1024), ('M', 1024 * 1024), ('G', 1024 * 1024 * 1024)]
  match cs.getLast? with
  | none => throw .noSize
  | some last =>
    let number ← match units.lookup last, last.isDigit with
      | some unit, _ => pure (cs.dropLast, unit)
      | none, true => pure (cs, 512)
      | none, false => throw (.badSizeUnit last)
    match measure? number.1 with
    | some m => return .size number.2 m
    | none => throw (.badSize text)

def readDepth (asked : String) : Reading Nat := do
  let text ← takeOperand asked
  match Shell.decimal? text with
  | some n => return n
  | none => throw (.badDepth asked text)

def readKinds (text : String) : Reading Quest := do
  let rec go : List Char → List Char → Reading (List Char)
    | [], found => if found.isEmpty then throw .noKinds else return found
    | c :: rest, found => do
      if !"bcdpflsD".toList.contains c then
        throw (.unknownKind (String.ofList (c :: rest)))
      if found.contains c then throw (.kindTwice c)
      match rest with
      | [] => return found ++ [c]
      | ',' :: more => go more (found ++ [c])
      | _ => throw .kindsApart
  return .kinds (← go text.toList [])

def readMode (text : String) : Reading Quest := do
  let (likeness, change) : Likeness × String := match text.toList with
    | '-' :: rest => (.all, String.ofList rest)
    | '/' :: rest => (.any, String.ofList rest)
    | _ => (.whole, text)
  match ModeChange.parse? change with
  | some c => return .mode (c.apply 0 false 0) likeness
  | none => throw (.badMode text)

/-- An expression in which brackets and bars are operators behind backslashes, written the other way
round; each character takes one of `fuel`. -/
def turned : (fuel : Nat) → List Char → List Char
  | 0, cs => cs
  | _, [] => []
  | fuel + 1, '\\' :: c :: rest =>
    if "()|".toList.contains c then c :: turned fuel rest else '\\' :: c :: turned fuel rest
  | fuel + 1, '[' :: rest =>
    let (front, more) := match rest with
      | '^' :: ']' :: more => (['^', ']'], more)
      | ']' :: more => ([']'], more)
      | more => ([], more)
    let inside := more.takeWhile (· ≠ ']')
    '[' :: front ++ inside ++ turned fuel (more.drop inside.length)
  | fuel + 1, c :: rest =>
    if "()|\x7b\x7d".toList.contains c then '\\' :: c :: turned fuel rest
    else c :: turned fuel rest

def readRegex (text : String) (ignoreCase : Bool) : Reading Quest := do
  let kind := (← get).regexKind
  let cs := (widen text).toList
  let extended := ["gnu-awk", "posix-awk", "awk", "posix-egrep", "egrep", "posix-extended"]
  let basic := ["ed", "grep", "posix-basic", "posix-minimal-basic", "sed"]
  let parsed :=
    if extended.contains kind then Regex.parse { form := .extended, ignoreCase } cs
    else if basic.contains kind then Regex.parse { form := .basic, ignoreCase } cs
    else Regex.parse { form := .extended, ignoreCase } (turned (cs.length + 1) cs)
  match parsed with
  | .ok (r, _) => return .whole r
  | .error fault => throw (.badRegex text fault)

/-- The words of a program that is run, and whether it is run for all files at once. -/
def readProgram (asked : String) (manner : Manner) : Reading Quest := do
  let c ← get
  let braces := "\x7b\x7d"
  let isPlus (before : String) (w : String) : Bool := w = "+" && before = braces
  let words := (c.rest.zip ("" :: c.rest)).takeWhile fun (w, before) =>
    w ≠ ";" && !isPlus before w
  let words := words.map Prod.fst
  match c.rest.drop words.length with
  | stop :: rest =>
    if words.isEmpty then throw (.missing asked)
    set { c with rest }
    if stop = "+" then
      if (words.filter (· = braces)).length > 1 then throw (.bracesTwice asked)
      return .run .together words
    else return .run manner words
  | [] =>
    match c.rest.find? fun w => (w.splitOn braces).length > 1 && w ≠ braces with
    | some word => if c.rest.contains "+" then throw (.bracesApart asked word)
    | none => pure ()
    throw (.missing asked)

def readTimeOf (disk : Disk) (asked : String) : Reading Nat := do
  let file ← takeOperand asked
  match placeOf disk file with
  | .ok (_, tree) => return Program.timeOf tree
  | .error e => throw (.unreachable file e)

def readTest (disk : Disk) (arg : String) : Reading Quest := do
  let onCourse (f : Course → Course) : Reading Quest := do
    modify fun c => { c with course := f c.course }
    return .always true
  let day := 86400
  match arg with
  | "-name" => return .name (globOf (← takeOperand arg) false) false
  | "-iname" => return .name (globOf (← takeOperand arg) true) true
  | "-path" | "-wholename" => return .path (globOf (← takeOperand arg) false) false
  | "-ipath" | "-iwholename" => return .path (globOf (← takeOperand arg) true) true
  | "-lname" => return .target (globOf (← takeOperand arg) false) false
  | "-ilname" => return .target (globOf (← takeOperand arg) true) true
  | "-regex" => readRegex (← takeOperand arg) false
  | "-iregex" => readRegex (← takeOperand arg) true
  | "-regextype" =>
    let kind ← takeOperand arg
    if !regexKinds.contains kind then throw (.badRegexKind kind)
    modify fun c => { c with regexKind := kind }
    return .always true
  | "-type" | "-xtype" => readKinds (← takeOperand arg)
  | "-empty" => return .empty
  | "-executable" => return .executable
  | "-readable" | "-writable" => return .always true
  | "-size" => readSize (← takeOperand arg)
  | "-links" => return .names (← readMeasure arg)
  | "-inum" | "-used" =>
    discard (readMeasure arg)
    return .always false
  | "-uid" | "-gid" => return .always ((← readMeasure arg).fits 0)
  | "-mtime" | "-atime" | "-ctime" => return .age day (← readMeasure arg)
  | "-mmin" | "-amin" | "-cmin" => return .age 60 (← readMeasure arg)
  | "-newer" | "-anewer" | "-cnewer" | "-newermm" => return .after (← readTimeOf disk arg)
  | "-newermt" =>
    let text ← takeOperand arg
    match Date.parse? text with
    | some (seconds, nanos) => return .after (seconds.toNat * 10 ^ 9 + nanos)
    | none => throw (.badTime text)
  | "-perm" => readMode (← takeOperand arg)
  | "-samefile" =>
    let file ← takeOperand arg
    match placeOf disk file with
    | .ok (location, _) => return .same location
    | .error e => throw (.unreachable file e)
  | "-user" =>
    let name ← takeOperand arg
    if name ≠ "root" && name ≠ "0" then throw (.noUser name)
    return .always true
  | "-group" =>
    let name ← takeOperand arg
    if name ≠ "root" && name ≠ "0" then throw (.noGroup name)
    return .always true
  | "-nouser" | "-nogroup" | "-false" => return .always false
  | "-print" => return .print "\n"
  | "-print0" => return .print "\x00"
  | "-printf" => return .format (← takeOperand arg).toList
  | "-fprint" => return .save (← takeOperand arg) "\n"
  | "-fprint0" => return .save (← takeOperand arg) "\x00"
  | "-delete" =>
    discard (onCourse fun c => { c with deepFirst := true })
    return .delete
  | "-depth" | "-d" => onCourse fun c => { c with deepFirst := true }
  | "-follow" => onCourse fun c => { c with follows := true, followsFirst := true }
  | "-prune" => return .prune
  | "-quit" => return .quit
  | "-true" | "-xdev" | "-mount" | "-noleaf" | "-warn" | "-nowarn" | "-daystart"
  | "-ignore_readdir_race" | "-noignore_readdir_race" =>
    return .always true
  | "-maxdepth" =>
    let n ← readDepth arg
    onCourse fun c => { c with most := some n }
  | "-mindepth" =>
    let n ← readDepth arg
    onCourse fun c => { c with least := n }
  | "-exec" => readProgram arg .each
  | "-execdir" => readProgram arg .inPlace
  | "-ok" | "-okdir" => readProgram arg .asking
  | _ =>
    if arg.startsWith "-" then throw (.unknownTest arg)
    let last := (← get).last
    throw (.latePath arg (if disk.holds (pathOf arg) then last else none))

mutual

def readList (disk : Disk) : (fuel : Nat) → Reading Quest
  | 0 => return .always true
  | fuel + 1 => do
    let left ← readEither disk fuel
    readListBehind disk fuel left

def readListBehind (disk : Disk) : (fuel : Nat) → Quest → Reading Quest
  | 0, left => return left
  | fuel + 1, left => do
    match (← get).rest with
    | "," :: rest =>
      modify fun c => { c with rest }
      if rest.isEmpty then throw (.nothingAfter ",")
      readListBehind disk fuel (.second left (← readEither disk fuel))
    | _ => return left

def readEither (disk : Disk) : (fuel : Nat) → Reading Quest
  | 0 => return .always true
  | fuel + 1 => do
    let left ← readBoth disk fuel
    match (← get).rest with
    | arg :: rest =>
      if arg = "-o" || arg = "-or" then
        modify fun c => { c with rest }
        if rest.isEmpty then throw (.nothingAfter arg)
        return .either left (← readEither disk fuel)
      else return left
    | [] => return left

def readBoth (disk : Disk) : (fuel : Nat) → Reading Quest
  | 0 => return .always true
  | fuel + 1 => do
    let left ← readOne disk fuel
    match (← get).rest with
    | [] => return left
    | arg :: rest =>
      if arg = "-a" || arg = "-and" then
        modify fun c => { c with rest }
        if rest.isEmpty then throw (.nothingAfter arg)
        return .both left (← readBoth disk fuel)
      else if ["-o", "-or", ")", ","].contains arg then return left
      else return .both left (← readBoth disk fuel)

def readOne (disk : Disk) : (fuel : Nat) → Reading Quest
  | 0 => return .always true
  | fuel + 1 => do
    let c ← get
    match c.rest with
    | [] => return .always true
    | arg :: rest =>
      set { c with rest }
      match arg with
      | "(" =>
        if rest.isEmpty then throw .unclosedEmpty
        if rest.head? = some ")" then throw .emptyBrackets
        let inner ← readList disk fuel
        match (← get).rest with
        | ")" :: rest =>
          modify fun c => { c with rest }
          return inner
        | _ => throw .unclosed
      | "!" | "-not" =>
        if rest.isEmpty then throw (.nothingAfter arg)
        return .not (← readOne disk fuel)
      | "-o" | "-a" | "-or" | "-and" | "," => throw (.nothingBefore arg)
      | _ =>
        let quest ← readTest disk arg
        modify fun c => { c with last := some arg }
        return quest

end

def read (disk : Disk) (args : List String) : Except Fault (List String × Course × Quest) := do
  let ways := args.takeWhile fun a => a = "-L" || a = "-H" || a = "-P"
  let course : Course :=
    { follows := ways.getLast? = some "-L"
      followsFirst := ways.getLast? = some "-L" || ways.getLast? = some "-H" }
  let args := args.drop ways.length
  let paths := args.takeWhile fun a =>
    !(a.startsWith "-" && a ≠ "-") && a ≠ "(" && a ≠ "!"
  let rest := args.drop paths.length
  let paths := if paths.isEmpty then ["."] else paths
  if rest.isEmpty then return (paths, course, .print "\n")
  let (quest, c) ← (readList disk (6 * rest.length + 6)).run { rest, course }
  match c.rest with
  | ")" :: _ => throw .tooManyClosed
  | arg :: _ => throw (.latePath arg c.last)
  | [] => return (paths, c.course, if quest.acts then quest else .both quest (.print "\n"))

end PageScript.Shell.Find
